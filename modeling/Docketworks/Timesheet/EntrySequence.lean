import Mathlib.Data.List.Dedup
import Mathlib.Data.List.Sort
import Docketworks.Library.Machine
import Docketworks.Library.Overlay
import Docketworks.Library.Process

/-!
# Sequence numbers of time lines

`CostLine.save` and `CostLine.delete` of `apps/job/models/costing.py` on a person's time lines, and the
entry writes of `workshop_timesheet_service.py` over them, as transactions of one database.

* `DbCall`, `Database.answer` — one statement of a transaction, at PostgreSQL's read committed.
* `CostLine.save` — locks of the jobs, the next number under the lock of the person's day, the write.
* `createEntry`, `updateEntry`, `deleteEntry`, `deleteLine` — the entry writes.
* `database` — transactions that make any of these writes one after the other, in every interleaving.

**Design.**  A statement is one step: it reads the committed rows under the transaction's own writes, and
waits for a lock or a row that another open transaction holds.  A line is kept as its key, its person, its
day, its job and its number.  The rows of cost sets, locked together with their jobs, and what a write
refreshes beside the line are left out.  Keys are random, so a counter stands for them.
-/

namespace Docketworks.Timesheet.EntrySequence

open Library

/-! ## Rows and locks -/

structure TimeLine where
  id : ℕ
  staff : ℕ
  accountingDate : ℤ
  job : ℕ
  entrySeq : ℕ
deriving DecidableEq, Repr

/-- The columns of `unique_time_entry_staff_day_seq`. -/
def TimeLine.slot (line : TimeLine) : ℕ × ℤ × ℕ := (line.staff, line.accountingDate, line.entrySeq)

structure MemoryLine where
  id : ℕ
  staff : ℕ
  accountingDate : ℤ
  job : ℕ
  entrySeq : Option ℕ
  adding : Bool
deriving DecidableEq, Repr

/-- What a transaction holds to its end. -/
inductive Lock where
  | staff (id : ℕ)
  | job (id : ℕ)
  /-- The advisory lock `costline-entry-seq`. -/
  | sequenceGroup (staff : ℕ) (day : ℤ)
deriving DecidableEq, Repr

/-! ## Statements -/

/-- A statement of a transaction. -/
inductive DbCall where
  | lock (lock : Lock)
  | get (id : ℕ)
  /-- `select_for_update` on the line. -/
  | getForUpdate (id : ℕ)
  /-- A key no row has. -/
  | newId
  /-- The maximum of a person's day, this line aside. -/
  | maxSeq (staff : ℕ) (day : ℤ) (excluded : ℕ)
  /-- The uniqueness check of `full_clean`. -/
  | slotTaken (line : TimeLine)
  /-- The `INSERT` or `UPDATE`. -/
  | write (line : TimeLine)
  | delete (id : ℕ)
deriving DecidableEq, Repr

/-- Why an entry write is refused. -/
inductive SaveError where
  | doesNotExist
  | conflict
  | entrySeqNotSet
  | unique
deriving DecidableEq, Repr

def DbCall.Answer : DbCall → Type
  | .lock _ | .write _ | .delete _ => Unit
  | .get _ | .getForUpdate _ => Option TimeLine
  | .newId => ℕ
  | .maxSeq .. => Option ℕ
  | .slotTaken _ => Bool

/-- Part of a transaction. -/
abbrev SaveTask := Process DbCall DbCall.Answer SaveError

namespace SaveTask

def lock (lock : Lock) : SaveTask Unit := Process.perform (DbCall.lock lock)

def get (id : ℕ) : SaveTask (Option TimeLine) := Process.perform (DbCall.get id)

def getForUpdate (id : ℕ) : SaveTask (Option TimeLine) := Process.perform (DbCall.getForUpdate id)

def newId : SaveTask ℕ := Process.perform DbCall.newId

def maxSeq (staff : ℕ) (day : ℤ) (excluded : ℕ) : SaveTask (Option ℕ) :=
  Process.perform (DbCall.maxSeq staff day excluded)

def slotTaken (line : TimeLine) : SaveTask Bool := Process.perform (DbCall.slotTaken line)

def write (line : TimeLine) : SaveTask Unit := Process.perform (DbCall.write line)

def delete (id : ℕ) : SaveTask Unit := Process.perform (DbCall.delete id)

def refuse {α : Type} (error : SaveError) : SaveTask α := Process.raise error

end SaveTask

open SaveTask

/-! ## Saving a line -/

/-- `lock_costing_jobs`, in one id-ordered step. -/
def lockCostingJobs (jobIds : List ℕ) : SaveTask Unit :=
  (jobIds.dedup.insertionSort (· ≤ ·)).foldr (fun id rest => do
    SaveTask.lock (.job id)
    rest) (pure ())

namespace CostLine

/-- `_lock_summary_owners`: of the line's job and of the one its row has. -/
def lockSummaryOwners (id job : ℕ) : SaveTask (Option TimeLine) := do
  let observed ← SaveTask.get id
  let jobIds := job :: (observed.map TimeLine.job).toList
  lockCostingJobs jobIds
  let current ← SaveTask.get id
  if current.any fun row => row.job ∉ jobIds then refuse .conflict
  else return current

def sequenceGroupChanged (line : MemoryLine) : SaveTask Bool :=
  if line.adding then return true
  else do
    let previous ← SaveTask.get line.id
    match previous with
    | none => refuse .doesNotExist
    | some previous => return previous.staff ≠ line.staff || previous.accountingDate ≠ line.accountingDate

def assignEntrySeq (line : MemoryLine) : SaveTask MemoryLine := do
  let shouldAssign ← if line.entrySeq.isNone then pure true else sequenceGroupChanged line
  if !shouldAssign then return line
  else
    SaveTask.lock (.sequenceGroup line.staff line.accountingDate)
    let previousMax ← SaveTask.maxSeq line.staff line.accountingDate line.id
    return { line with entrySeq := some (previousMax.getD 0 + 1) }

def saveValidated (line : MemoryLine) : SaveTask Unit :=
  match line.entrySeq with
  | none => refuse .entrySeqNotSet
  | some entrySeq => do
      let row : TimeLine := { id := line.id, staff := line.staff, accountingDate := line.accountingDate
                              job := line.job, entrySeq }
      let taken ← SaveTask.slotTaken row
      if taken then refuse .unique
      else SaveTask.write row

def save (line : MemoryLine) : SaveTask Unit := do
  let _ ← lockSummaryOwners line.id line.job
  let line ← assignEntrySeq line
  saveValidated line

/-- `delete`; a row that is gone is deleted by nothing. -/
def delete (line : TimeLine) : SaveTask Unit := do
  let current ← lockSummaryOwners line.id line.job
  match current with
  | none => return ()
  | some current => SaveTask.delete current.id

end CostLine

/-! ## Entry writes -/

/-- `CostLine.objects.get`. -/
def getLine (id : ℕ) : SaveTask TimeLine := do
  let line ← SaveTask.get id
  match line with
  | none => refuse .doesNotExist
  | some line => return line

/-- What an edit moves: `update_entry` names the day and the job, a save takes another person too. -/
structure EntryEdit where
  staff : Option ℕ
  accountingDate : Option ℤ
  job : Option ℕ
deriving DecidableEq, Repr

/-- The line read, edited. -/
def EntryEdit.apply (edit : EntryEdit) (line : TimeLine) : MemoryLine where
  id := line.id
  staff := edit.staff.getD line.staff
  accountingDate := edit.accountingDate.getD line.accountingDate
  job := edit.job.getD line.job
  entrySeq := some line.entrySeq
  adding := false

section Entries

variable (generalWork : Option ℕ)

def withGeneralWork (jobIds : List ℕ) : List ℕ := jobIds ++ generalWork.toList

/-- `create_entry`, of one line; an entry past the usual day is two. -/
def createEntry (owner : ℕ) (day : ℤ) (job : ℕ) : SaveTask Unit := do
  SaveTask.lock (.staff owner)
  lockCostingJobs (withGeneralWork generalWork [job])
  let id ← newId
  CostLine.save { id, staff := owner, accountingDate := day, job, entrySeq := none, adding := true }

def updateEntry (id : ℕ) (edit : EntryEdit) : SaveTask Unit := do
  let line ← getLine id
  SaveTask.lock (.staff line.staff)
  let jobIds := line.job :: edit.job.toList
  lockCostingJobs (withGeneralWork generalWork jobIds)
  let line ← getLine id
  if line.job ∉ jobIds then refuse .conflict
  else CostLine.save (edit.apply line)

def deleteEntry (id : ℕ) : SaveTask Unit := do
  let line ← getLine id
  SaveTask.lock (.staff line.staff)
  lockCostingJobs (withGeneralWork generalWork [line.job])
  let current ← SaveTask.getForUpdate id
  match current with
  | none => refuse .doesNotExist
  | some current => if current.job ≠ line.job then refuse .conflict else CostLine.delete current

/-- `_delete_line` of a line that was read before, as the General work of a day is. -/
def deleteLine (id : ℕ) : SaveTask Unit := do
  let line ← getLine id
  CostLine.delete line

/-- A write of a transaction. -/
inductive Operation where
  | createEntry (owner : ℕ) (day : ℤ) (job : ℕ)
  | updateEntry (id : ℕ) (edit : EntryEdit)
  | deleteEntry (id : ℕ)
  | deleteLine (id : ℕ)
deriving DecidableEq, Repr

/-- What the write does. -/
def Operation.task : Operation → SaveTask Unit
  | .createEntry owner day job => EntrySequence.createEntry generalWork owner day job
  | .updateEntry id edit => EntrySequence.updateEntry generalWork id edit
  | .deleteEntry id => EntrySequence.deleteEntry generalWork id
  | .deleteLine id => EntrySequence.deleteLine id

end Entries

/-! ## The database -/

/-- An open transaction: what it holds, the keys it drew, its writes and what it does next. -/
structure Session where
  number : ℕ
  locks : List Lock
  drawn : List ℕ
  writes : List (Write TimeLine ℕ)
  task : SaveTask Unit

/-- The committed lines, the next key and the open transactions. -/
structure Database where
  committed : Table TimeLine.id
  nextId : ℕ
  sessions : Table Session.number

namespace Database

/-- No transaction is open. -/
def start (committed : Table TimeLine.id) : Database where
  committed := committed
  nextId := committed.freshKey
  sessions := .empty

variable (s : Database)

/-- The lines a transaction reads. -/
def view (session : Session) : Table TimeLine.id := s.committed.overlay session.writes

/-- The transactions beside this one. -/
def others (session : Session) : List Session :=
  s.sessions.rows.filter fun other => other.number ≠ session.number

/-- Some other transaction has written the row. -/
def rowHeld (session : Session) (id : ℕ) : Bool :=
  (s.others session).any fun other => (written TimeLine.id other.writes id).isSome

/-- Some other transaction holds the lock. -/
def lockHeld (session : Session) (lock : Lock) : Bool :=
  (s.others session).any fun other => lock ∈ other.locks

/-- Another line of these columns, as the transaction reads them. -/
def conflicting (session : Session) (line : TimeLine) : Bool :=
  (s.view session).rows.any fun row => row.id ≠ line.id && row.slot = line.slot

/-- Some other transaction wrote a line of these columns. -/
def slotHeld (session : Session) (line : TimeLine) : Bool :=
  (s.others session).any fun other =>
    (s.view other).rows.any fun row =>
      (written TimeLine.id other.writes row.id).isSome && row.id ≠ line.id && row.slot = line.slot

/-- The numbers of a person's day, a line aside. -/
def daySeqs (session : Session) (staff : ℕ) (day : ℤ) (excluded : ℕ) : List ℕ :=
  ((s.view session).rows.filter fun row =>
    row.staff = staff && row.accountingDate = day && row.id ≠ excluded).map TimeLine.entrySeq

/-- The answer to a statement, with the transaction and the next key it leaves; none while it waits. -/
def answer (session : Session) : (call : DbCall) → Option (Except SaveError call.Answer × Session × ℕ)
  | .lock lock =>
      if s.lockHeld session lock then none
      else some (.ok (), { session with locks := lock :: session.locks }, s.nextId)
  | .get id => some (.ok ((s.view session).find? id), session, s.nextId)
  | .getForUpdate id =>
      if s.rowHeld session id then none
      else some (.ok ((s.view session).find? id), session, s.nextId)
  | .newId => some (.ok s.nextId, { session with drawn := s.nextId :: session.drawn }, s.nextId + 1)
  | .maxSeq staff day excluded =>
      some (.ok (s.daySeqs session staff day excluded).max?, session, s.nextId)
  | .slotTaken line => some (.ok (s.conflicting session line), session, s.nextId)
  | .write line =>
      if s.rowHeld session line.id then none
      -- a line another transaction is moving away counts: the index would wait for it
      else if s.conflicting session line then some (.error .unique, session, s.nextId)
      else if s.slotHeld session line then none
      else some (.ok (), { session with writes := session.writes ++ [.put line] }, s.nextId)
  | .delete id =>
      if s.rowHeld session id then none
      else some (.ok (), { session with writes := session.writes ++ [.erase id] }, s.nextId)

end Database

inductive Step where
  | begin (number : ℕ)
  | operate (number : ℕ) (operation : Operation)
  | advance (number : ℕ)
  | commit (number : ℕ)
  | rollback (number : ℕ)
deriving DecidableEq, Repr

/-- The transaction has nothing left to do, and nothing it did failed. -/
def Session.Idle (session : Session) : Bool :=
  match session.task with
  | .done (.ok _) => true
  | _ => false

/-- The transactions, one statement at a time. -/
def database (generalWork : Option ℕ) : Machine Database Step
  | s, .begin number =>
      (s.sessions.insert? ⟨number, [], [], [], pure ()⟩).map fun sessions => { s with sessions }
  | s, .operate number operation =>
      match s.sessions.find? number with
      | none => none
      | some session =>
          if session.Idle then
            some { s with sessions := s.sessions.put { session with task := operation.task generalWork } }
          else none
  | s, .advance number =>
      match s.sessions.find? number with
      | none => none
      | some session =>
          match session.task with
          | .done _ => none
          | .call call next =>
              (s.answer session call).map fun (answer, session, nextId) =>
                { s with nextId, sessions := s.sessions.put { session with task := next answer } }
  | s, .commit number =>
      match s.sessions.find? number with
      | none => none
      | some session =>
          if session.Idle then
            some { s with committed := s.view session, sessions := s.sessions.erase number }
          else none
  | s, .rollback number =>
      match s.sessions.find? number with
      | none => none
      | some _ => some { s with sessions := s.sessions.erase number }

end Docketworks.Timesheet.EntrySequence
