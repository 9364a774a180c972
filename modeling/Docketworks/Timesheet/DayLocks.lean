import Mathlib.Data.List.Dedup
import Mathlib.Data.List.Sort
import Mathlib.Data.Prod.Lex
import Docketworks.Library.Locks

/-!
# The locks of the day's writers

What `clock_in` and `set_clock_times` of `apps/timesheet/services/attendance.py`, the entry writes of
`workshop_timesheet_service.py` and `approve_day` and `_sweep` of `approval.py` wait on, in the order
they ask for it.  `Staff.objects.select_for_update()` comes first in all of them but one.

**Design.**  A program is what one call asks for, given what its queries find: the breaks it puts on
a day, the lines it deletes, the cost sets of the jobs it locks.  Beside the locks the code names
there are those PostgreSQL takes for it: an insert waits for an uncommitted one under the same unique
key, an update takes its row, and a deferred foreign key takes its target `FOR KEY SHARE` when the
transaction commits, which waits for another's `FOR UPDATE`.  Rows made under a lock and waited for
by nobody else (entries, events, the first actual cost set of a locked job) are left out.
-/

namespace Docketworks

open Library Library.Locks

namespace Timesheet

namespace DayLocks

/-- The rows the writers of a day wait on. -/
inductive Row where
  | staff (id : ℕ)
  /-- The attendance row of a person's day, and its place under the unique key. -/
  | attendance (staff : ℕ) (day : ℤ)
  | job (id : ℕ)
  | costSet (job id : ℕ)
  | line (staff id : ℕ)
  deriving DecidableEq

/-- What a call asks for, in order. -/
abbrev LockProgram : Type := List (Request Row)

/-- `SELECT ... FOR UPDATE`, an `UPDATE`, or the insert of a row others may be inserting. -/
def forUpdate (row : Row) : Request Row := ⟨row, .exclusive⟩

/-- The check of a foreign key. -/
def forKeyShare (row : Row) : Request Row := ⟨row, .shared⟩

/-- The jobs the company's settings name. -/
structure ShopJobs where
  generalWork : Option ℕ
  breakJob : Option ℕ

variable (shop : ShopJobs) (costSets : ℕ → List ℕ) (owner : ℕ) (day : ℤ)

/-- `lock_costing_jobs`: the jobs in id order, then all their cost sets in id order. -/
def lockCostingJobs (jobIds : List ℕ) : LockProgram :=
  (jobIds.dedup.insertionSort (· ≤ ·)).map (fun job => forUpdate (.job job)) ++
    ((jobIds.dedup.flatMap fun job => (costSets job).map fun id => (job, id)).insertionSort
      fun a b => a.2 ≤ b.2).map fun (job, id) => forUpdate (.costSet job id)

def withGeneralWork (jobIds : List ℕ) : List ℕ := jobIds ++ shop.generalWork.toList

/-- What a rebuild of a day's General work finds to delete, and how many windows it fills. -/
structure Refill where
  filled : List ℕ
  windows : ℕ

/-- The locks of `create_entry` before the day is filled again. -/
def saveEntry (job : ℕ) : LockProgram :=
  forUpdate (.staff owner) :: lockCostingJobs costSets (withGeneralWork shop [job])

/-- `refill_general_work`: nothing where the day is as it was. -/
def refillGeneralWork (refill : Option Refill) : LockProgram :=
  match shop.generalWork, refill with
  | some generalWork, some refill =>
      lockCostingJobs costSets [generalWork] ++
        refill.filled.map (fun id => forUpdate (.line owner id)) ++
        (List.range refill.windows).flatMap fun _ => saveEntry shop costSets owner generalWork
  | _, _ => []

def createEntry (job : ℕ) (refill : Option Refill) : LockProgram :=
  saveEntry shop costSets owner job ++ refillGeneralWork shop costSets owner refill

/-- `update_entry`: the line's job and the one it goes to, then the line; the General work of both
its days. -/
def updateEntry (job : ℕ) (newJob : Option ℕ) (id : ℕ) (refills : List (Option Refill)) :
    LockProgram :=
  forUpdate (.staff owner) ::
    (lockCostingJobs costSets (withGeneralWork shop (job :: newJob.toList)) ++
      [forUpdate (.line owner id)] ++
      refills.flatMap (refillGeneralWork shop costSets owner))

/-- What deleting an entry goes on to: the day is filled again, or, where the entry was General
work, all of it is taken off. -/
inductive AfterDelete where
  | refilled (refill : Option Refill)
  | generalWorkOff (filled : List ℕ)

def deleteEntry (job id : ℕ) (after : AfterDelete) : LockProgram :=
  forUpdate (.staff owner) ::
    (lockCostingJobs costSets (withGeneralWork shop [job]) ++ [forUpdate (.line owner id)] ++
      match after with
      | .refilled refill => refillGeneralWork shop costSets owner refill
      | .generalWorkOff filled =>
          forUpdate (.attendance owner day) :: filled.map fun id => forUpdate (.line owner id))

def approveDay (jobIds lines : List ℕ) : LockProgram :=
  forUpdate (.staff owner) ::
    (lockCostingJobs costSets jobIds ++ lines.map fun id => forUpdate (.line owner id))

/-- What changing a day's clock times finds: the breaks it puts on, each with what its entry fills
again, none where the day has had its breaks; the breaks it takes off; and the last filling. -/
structure ClockChange where
  generated : Option (List (Option Refill))
  dropped : List (ℕ × Option Refill)
  refill : Option Refill

def generateDefaultBreaks (generated : Option (List (Option Refill))) : LockProgram :=
  match generated with
  | some refills =>
      (shop.breakJob.toList.flatMap fun breakJob =>
        refills.flatMap (createEntry shop costSets owner breakJob)) ++
        [forUpdate (.attendance owner day)]
  | none => []

def dropBreaksAfterFinish (dropped : List (ℕ × Option Refill)) : LockProgram :=
  shop.breakJob.toList.flatMap fun breakJob => dropped.flatMap fun (id, refill) =>
    deleteEntry shop costSets owner day breakJob id (.refilled refill)

/-- `clock_in`: the day's row is inserted before anything else. -/
def clockIn (generated : Option (List (Option Refill))) : LockProgram :=
  forUpdate (.attendance owner day) :: generateDefaultBreaks shop costSets owner day generated

/-- What giving a day times goes on to: its breaks, the ones past the finish, and its General
work. -/
def settleBreaks (change : ClockChange) : LockProgram :=
  generateDefaultBreaks shop costSets owner day change.generated ++
    dropBreaksAfterFinish shop costSets owner day change.dropped ++
    refillGeneralWork shop costSets owner change.refill

/-- `set_clock_times`, and `fill_with_general_work` with `settle_day`: his lock, then the day. -/
def setClockTimes (change : ClockChange) : LockProgram :=
  forUpdate (.staff owner) :: forUpdate (.attendance owner day) ::
    settleBreaks shop costSets owner day change

structure SweptDay where
  person : ℕ
  day : ℤ
  fill : ClockChange
  /-- The jobs and the lines waiting once the day is filled. -/
  jobIds : List ℕ
  lines : List ℕ

/-- A day is filled, approved and sent. -/
def sweepDay (swept : SweptDay) : LockProgram :=
  setClockTimes shop costSets swept.person swept.day swept.fill ++
    approveDay costSets swept.person swept.jobIds swept.lines ++
    [forUpdate (.attendance swept.person swept.day)]

/-- What a sweep finds.  The people's lines stand still once they are locked, so what waits at the
end of a day waited before, or was put there by the filling. -/
structure SweepFound where
  people : List ℕ
  waiting : List ℕ
  days : List SweptDay
  person_mem : ∀ swept ∈ days, swept.person ∈ people
  jobIds_mem : ∀ swept ∈ days, ∀ job ∈ swept.jobIds,
    job ∈ shop.generalWork.toList ++ shop.breakJob.toList ++ waiting

/-- `_sweep`: every person, every job, then one day after the other. -/
def sweep (found : SweepFound shop) : LockProgram :=
  if shop.generalWork = none then []
  else
    (found.people.dedup.insertionSort (· ≤ ·)).map (fun person => forUpdate (.staff person)) ++
      lockCostingJobs costSets
        (shop.generalWork.toList ++ shop.breakJob.toList ++ found.waiting) ++
      found.days.flatMap (sweepDay shop costSets)

/-! ## Operations -/

/-- One of the calls that write a person's day. -/
inductive Call where
  | clockIn (day : ℤ) (generated : Option (List (Option Refill)))
  | setClockTimes (owner : ℕ) (day : ℤ) (change : ClockChange)
  | createEntry (owner : ℕ) (job : ℕ) (refill : Option Refill)
  | updateEntry (owner : ℕ) (job : ℕ) (newJob : Option ℕ) (id : ℕ) (refills : List (Option Refill))
  | deleteEntry (owner : ℕ) (day : ℤ) (job id : ℕ) (after : AfterDelete)
  | approveDay (worker : ℕ) (jobIds lines : List ℕ)
  | sweep (found : SweepFound shop)

/-- A call, who makes it and which cost sets the jobs have when it locks them. -/
structure Operation where
  actor : ℕ
  costSets : ℕ → List ℕ
  call : Call shop

namespace Operation

variable {shop} (operation : Operation shop)

def people : List ℕ :=
  match operation.call with
  | .clockIn .. => [operation.actor]
  | .setClockTimes owner .. | .createEntry owner .. | .updateEntry owner ..
  | .deleteEntry owner .. | .approveDay owner .. => [owner]
  | .sweep found => found.people

/-- The attendance rows it writes. -/
def days : List (ℕ × ℤ) :=
  match operation.call with
  | .clockIn day _ => [(operation.actor, day)]
  | .setClockTimes owner day _ => [(owner, day)]
  | .deleteEntry owner day _ _ (.generalWorkOff _) => [(owner, day)]
  | .deleteEntry .. | .createEntry .. | .updateEntry .. | .approveDay .. => []
  | .sweep found => found.days.map fun swept => (swept.person, swept.day)

def isClockIn : Bool :=
  match operation.call with
  | .clockIn .. => true
  | _ => false

/-- What it asks for before it commits. -/
def body : LockProgram :=
  match operation.call with
  | .clockIn day generated => clockIn shop operation.costSets operation.actor day generated
  | .setClockTimes owner day change => setClockTimes shop operation.costSets owner day change
  | .createEntry owner job refill => createEntry shop operation.costSets owner job refill
  | .updateEntry owner job newJob id refills =>
      updateEntry shop operation.costSets owner job newJob id refills
  | .deleteEntry owner day job id after =>
      deleteEntry shop operation.costSets owner day job id after
  | .approveDay worker jobIds lines => approveDay operation.costSets worker jobIds lines
  | .sweep found => sweep shop operation.costSets found

def records : Bool :=
  match operation.call with
  | .approveDay _ _ lines => !lines.isEmpty
  | .sweep found => !found.days.isEmpty
  | _ => true

/-- What it asks for from its start to its commit, which checks that the person its events name as
their author is there. -/
def program : LockProgram :=
  operation.body ++ if operation.records then [forKeyShare (.staff operation.actor)] else []

/-- Two operations that may be under way at once: neither is for a person who writes someone else's
day in the other, and if just one of them is a clock-in, the other leaves its day's row alone. -/
def Compatible (a b : Operation shop) : Prop :=
  (a.actor ∈ b.people → a.actor ∈ a.people) ∧ (b.actor ∈ a.people → b.actor ∈ b.people) ∧
    (a.isClockIn = b.isClockIn ∨ ∀ each ∈ a.days, each ∉ b.days)

instance (a b : Operation shop) : Decidable (Compatible a b) := inferInstanceAs (Decidable (_ ∧ _))

end Operation

/-- The state in which no operation is under way. -/
def atRest : Parties (Operation shop) Row := Table.empty

end DayLocks

end Timesheet

end Docketworks
