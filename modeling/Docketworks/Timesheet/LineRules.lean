import Docketworks.Timesheet.ClockTimes
import Docketworks.Timesheet.DaySubmission
import Docketworks.Timesheet.EntryChanges
import Docketworks.Timesheet.Refill

/-!
# Rules of the time lines

What every operation on people's time does to the lines: it books entries, patches one, takes lines
off, or approves them.  A rule that bookings and patches keep is kept by every operation.

* `DayWrite` — one of the writes to a day.
* `TimeOperation` — one of the operations: a write of a day, a clock-in, a fill, an approval, a sweep.
* `LineRule` — a rule of the lines, with what a booking and a patch are to give for it.
* `LineRule.Meets` — what the operation gives itself: the entry it makes, the patch it applies.
* `LineRule.holds_call` — an operation that meets the rule keeps it.
-/

namespace Docketworks

open Library Library.Transaction

namespace Timesheet

/-! ## The operations -/

/-- One of the writes to a person's day.  Whoever's day it is and whoever makes it are looked up. -/
inductive DayWrite where
  | createEntry (staff : ℕ) (data : WorkshopEntryCreateData) (managedBy : Option CostLineOwner)
  | updateEntry (actor : Staff) (data : WorkshopEntryUpdateData)
  | deleteEntry (actor : Staff) (entry : ℕ) (managedBy : Option CostLineOwner)
  | addBreak (actor : Staff) (staff : ℕ) (day : ℤ) (start finish : TimeOfDay) (paid : Bool)
  | changeBreak (actor : Staff) (entry : ℕ) (start finish : TimeOfDay)
  | removeBreak (actor : Staff) (entry : ℕ)
  | setClockTimes (actor : Staff) (staff : ℕ) (day : ℤ) (start : TimeOfDay)
      (finish : Option TimeOfDay)
  | clockOut (staff : ℕ)

namespace DayWrite

def call : DayWrite → TimesheetCall Unit
  | createEntry staff data managedBy => do
      let owner ← theStaff staff
      let _ ← Timesheet.createEntry owner data none managedBy
      pure ()
  | updateEntry actor data => Timesheet.updateEntry actor data
  | deleteEntry actor entry managedBy => Timesheet.deleteEntry actor entry managedBy
  | addBreak actor staff day start finish paid => do
      let owner ← theStaff staff
      Timesheet.addBreak owner day start finish paid actor
  | changeBreak actor entry start finish => Timesheet.changeBreak entry start finish actor
  | removeBreak actor entry => Timesheet.removeBreak entry actor
  | setClockTimes actor staff day start finish => do
      let owner ← theStaff staff
      Timesheet.setClockTimes actor owner day start finish
  | clockOut staff => do
      let worker ← theStaff staff
      Timesheet.clockOut worker

end DayWrite

inductive TimeOperation where
  | dayWrite (write : DayWrite)
  | clockIn (staff : ℕ)
  | fill (actor : Staff) (staff : ℕ) (day : ℤ)
  | approveDay (staff : ℕ) (day : ℤ)
  | sweepPerson (actor : Staff) (staff : ℕ) (days : List ℤ)
  | sweepEveryone (actor : Staff) (days : List ℤ)

def TimeOperation.call : TimeOperation → TimesheetCall Unit
  | dayWrite write => write.call
  | clockIn staff => do
      let worker ← theStaff staff
      Timesheet.clockIn worker
  | fill actor staff day => do
      let owner ← theStaff staff
      let _ ← fillWithGeneralWork owner day actor
      pure ()
  | approveDay staff day => do
      let worker ← theStaff staff
      let _ ← Timesheet.approveDay worker day
      pure ()
  | sweepPerson actor staff days => do
      let worker ← theStaff staff
      let _ ← Timesheet.sweepPerson worker days actor
      pure ()
  | sweepEveryone actor days => do
      let _ ← Timesheet.sweepEveryone days actor
      pure ()

/-! ## A rule -/

/-- A rule of the time lines, read in a setup that no operation changes: which owners' entries,
which entries and which patches it is kept by, and why. -/
structure LineRule where
  /-- What the rule reads beside the lines. -/
  Setup : Timesheets → Prop
  Line : TimeLine → Prop
  /-- Whose entries keep the rule. -/
  Owner : Staff → Prop
  /-- The entries that keep the rule. -/
  Gives : WorkshopEntryCreateData → Prop
  /-- The patches that keep the rule. -/
  Moves : Timesheets → WorkshopEntryUpdateData → Prop
  setup_written : ∀ {db} lines attendance fresh, Setup db →
    Setup { db with lines := lines, attendance := attendance, fresh := fresh }
  owner_of_setup : ∀ {db staff owner}, Setup db → db.staff.find? staff = some owner → Owner owner
  /-- An entry with both times in order keeps the rule, and so does a patch that sets both. -/
  gives_timed : ∀ {data start finish}, data.startTime = some start → data.endTime = some finish →
    start < finish → Gives data
  moves_timed : ∀ db entry start finish hours, Moves db
    { entry := entry
      startTime := some (some start)
      endTime := some (some finish)
      hours := some hours }
  booked : ∀ {db owner job source managedBy data lines part line}, Setup db → Owner owner →
    Gives data → db.findJob data.job = .ok job → refuseBadHours data.hours = .ok () →
    entryLines db owner job managedBy data = .ok lines → part ∈ lines.parts →
    Stores db owner job source managedBy part line → Line line
  patched : ∀ {db owner source line data edited}, Setup db → Line line → Moves db data →
    db.lines.find? data.entry = some line → db.staff.find? line.staff = some owner →
    db.findJob line.job = .ok source → Patched db owner source line data edited → Line edited

namespace LineRule

/-- The rule holds of every line, in its setup. -/
def Holds (rule : LineRule) (db : Timesheets) : Prop :=
  rule.Setup db ∧ ∀ line ∈ db.lines.rows, rule.Line line

variable {rule : LineRule} {owner actor worker : Staff} {day : ℤ}

/-! ### Lines and days -/

lemma keeps_deleteLine (line : TimeLine) : Keeps rule.Holds (deleteLine line) :=
  Keeps.write fun _ h =>
    ⟨rule.setup_written _ _ _ h.1, fun other hother => h.2 other (Table.mem_erase.mp hother).1⟩

lemma keeps_saveRow (row : AttendanceDay) : Keeps rule.Holds (saveRow row) := by
  refine Keeps.bind Keeps.read fun attendance => ?_
  split
  · exact Keeps.write fun _ h => ⟨rule.setup_written _ _ _ h.1, h.2⟩
  · exact Keeps.write fun _ h => ⟨rule.setup_written _ _ _ h.1, h.2⟩

lemma run_theStaff {db t : Timesheets} {staff : ℕ} (h : (theStaff staff).run db = .ok (owner, t)) :
    db.staff.find? staff = some owner ∧ t = db := by
  unfold theStaff at h
  rw [run_consult] at h
  obtain ⟨hfound, rfl⟩ := h
  split at hfound
  · rename_i hstored
    exact ⟨hstored.trans (congrArg some (Except.ok.inj hfound)), rfl⟩
  · cases hfound

lemma keeps_theStaff {β : Type} {f : Staff → TimesheetCall β} (staff : ℕ)
    (h : ∀ owner, rule.Owner owner → Keeps rule.Holds (f owner)) :
    Keeps rule.Holds (theStaff staff >>= f) := by
  refine Triple.bind (Q := fun owner db => rule.Owner owner ∧ rule.Holds db) ?_ fun owner => ?_
  · intro db hdb owner t hrun
    obtain ⟨hfound, rfl⟩ := run_theStaff hrun
    exact ⟨rule.owner_of_setup hdb.1 hfound, hdb⟩
  · exact fun db hdb => h owner hdb.1 db hdb.2

/-! ### Entries -/

lemma keeps_bookEntry (howner : rule.Owner owner) {data : WorkshopEntryCreateData}
    (hgives : rule.Gives data) (source : Option EntrySource) (managedBy : Option CostLineOwner) :
    Keeps rule.Holds (bookEntry owner data source managedBy) := by
  intro db hdb line db' hrun
  obtain ⟨job, lines, added, hjob, hhours, hlines, hadds, hstores⟩ := run_bookEntry hrun
  have hsetup : rule.Setup db' := by
    rw [hadds.books]
    exact rule.setup_written _ _ _ hdb.1
  refine ⟨hsetup, fun line hline => ?_⟩
  rw [hadds.rows] at hline
  rcases List.mem_append.mp hline with hold | hnew
  · exact hdb.2 line hold
  · obtain ⟨part, hpart, hstored⟩ := exists_part_of_stores hstores hnew
    exact rule.booked hdb.1 howner hgives hjob hhours hlines hpart hstored

lemma keeps_hoursFor {β : Type} {start finish : TimeOfDay} {f : ℚ → TimesheetCall β}
    (h : start < finish → ∀ hours, Keeps rule.Holds (f hours)) :
    Keeps rule.Holds (Transaction.consult (fun _ => hoursFor start finish []) >>= f) := by
  refine Triple.bind (Q := fun _ db => start < finish ∧ rule.Holds db)
    (Triple.consult fun _ _ hhours hdb => ⟨lt_of_hoursFor hhours, hdb⟩) fun hours => ?_
  exact fun db hdb => h hdb.1 hours db hdb.2

lemma keeps_refill (howner : rule.Owner owner) (day : ℤ) :
    Keeps rule.Holds (refillGeneralWork owner day) := by
  refine Keeps.bind Keeps.read fun row => ?_
  rcases row with _ | row
  · exact Keeps.pure
  refine Keeps.ite (fun _ => Keeps.pure) fun _ => Keeps.bind Keeps.consult fun generalWork =>
    Keeps.bind Keeps.read fun filled => Keeps.bind Keeps.consult fun windows =>
      Keeps.ite (fun _ => Keeps.pure) fun _ => ?_
  refine Keeps.bind (Keeps.forM fun line _ => keeps_deleteLine line) fun _ =>
    Keeps.bind (Keeps.forM fun window _ => ?_) fun _ => Keeps.consult
  refine keeps_hoursFor fun hlt hours => ?_
  exact Keeps.bind (keeps_bookEntry howner (rule.gives_timed rfl rfl hlt) _ _) fun _ => Keeps.pure

lemma keeps_rebuild (howner : rule.Owner owner) (day : ℤ) : Keeps rule.Holds (do
    let _ ← refillGeneralWork owner day
    pure ()) :=
  Keeps.bind (keeps_refill howner day) fun _ => Keeps.pure

lemma keeps_createEntry (howner : rule.Owner owner) {data : WorkshopEntryCreateData}
    (hgives : rule.Gives data) (source : Option EntrySource) (managedBy : Option CostLineOwner) :
    Keeps rule.Holds (createEntry owner data source managedBy) :=
  Keeps.bind (keeps_bookEntry howner hgives source managedBy) fun _ =>
    Keeps.bind (Keeps.when fun _ => keeps_rebuild howner _) fun _ => Keeps.pure

lemma holds_updateEntry (actor : Staff) (data : WorkshopEntryUpdateData) :
    Triple (fun db => rule.Holds db ∧ rule.Moves db data) (updateEntry actor data)
      fun _ => rule.Holds := by
  rintro db ⟨hdb, hmoves⟩ _ db' hrun
  unfold updateEntry theWorkJob at hrun
  obtain ⟨line, t₁, hline, hrun₁⟩ := run_bind.mp hrun
  obtain ⟨owner, t₂, howner, hrun₂⟩ := run_bind.mp hrun₁
  obtain ⟨source, t₃, hsource, hrun₃⟩ := run_bind.mp hrun₂
  obtain ⟨edited, t₄, hedited, hrun₄⟩ := run_bind.mp hrun₃
  obtain ⟨_, stored, hstored, hrun₅⟩ := run_bind.mp hrun₄
  obtain ⟨hfound, rfl⟩ := run_editableLine hline
  obtain ⟨hstaff, rfl⟩ := run_theStaff howner
  obtain ⟨hjob, rfl⟩ := run_consult.mp hsource
  obtain ⟨hpatched, rfl⟩ := run_consult.mp hedited
  obtain ⟨patched⟩ := patchedLine_eq_ok hpatched
  have hkept : rule.Holds stored := by
    rw [← run_write.mp hstored]
    refine ⟨rule.setup_written _ _ _ hdb.1, fun other hother => ?_⟩
    rcases Table.mem_put.mp hother with ⟨hold, -⟩ | ⟨rfl, -⟩
    · exact hdb.2 other hold
    · exact rule.patched hdb.1 (hdb.2 line (Table.mem_of_find? hfound)) hmoves hfound hstaff hjob
        patched
  exact Keeps.forM (fun day _ => keeps_rebuild (rule.owner_of_setup hdb.1 hstaff) day) stored hkept
    _ db' hrun₅

lemma keeps_generalWorkOff (owner : Staff) (day : ℤ) :
    Keeps rule.Holds (generalWorkOff owner day) := by
  refine Keeps.bind Keeps.read fun row => ?_
  have hdelete : Keeps rule.Holds (do
      let filled ← .read fun db => db.fillLines owner.id day
      filled.forM deleteLine) :=
    Keeps.bind Keeps.read fun filled => Keeps.forM fun line _ => keeps_deleteLine line
  rcases row with _ | row
  · exact hdelete
  · exact Keeps.bind (Keeps.write fun _ h => ⟨rule.setup_written _ _ _ h.1, h.2⟩) fun _ => hdelete

lemma keeps_deleteEntry (actor : Staff) (entry : ℕ) (managedBy : Option CostLineOwner) :
    Keeps rule.Holds (deleteEntry actor entry managedBy) :=
  Keeps.bind Keeps.consult fun line => keeps_theStaff _ fun _ howner =>
    Keeps.bind Keeps.consult fun _ => Keeps.bind Keeps.consult fun _ =>
      Keeps.bind Keeps.read fun _ => Keeps.ite (fun _ => keeps_generalWorkOff _ _) fun _ =>
        Keeps.bind (keeps_deleteLine line) fun _ => keeps_rebuild howner _

/-! ### Breaks and clock times -/

lemma keeps_createBreak (howner : rule.Owner owner) (day : ℤ) (each : StandardBreak)
    (generated : Bool) : Keeps rule.Holds (createBreak owner day each generated) := by
  refine Keeps.bind Keeps.read fun company => Keeps.bind Keeps.orRefuse fun job => ?_
  refine keeps_hoursFor fun hlt hours => ?_
  exact Keeps.bind (keeps_createEntry howner (rule.gives_timed rfl rfl hlt) _ _) fun _ => Keeps.pure

lemma keeps_generateDefaultBreaks (howner : rule.Owner owner) (row : AttendanceDay) :
    Keeps rule.Holds (generateDefaultBreaks owner row) :=
  Keeps.ite (fun _ => Keeps.pure) fun _ => Keeps.bind Keeps.consult fun _ =>
    Keeps.bind (Keeps.forM fun each _ => keeps_createBreak howner row.date each true) fun _ =>
      Keeps.bind (keeps_saveRow _) fun _ => Keeps.pure

lemma keeps_dropBreaksAfterFinish (actor : Staff) (row : AttendanceDay) :
    Keeps rule.Holds (dropBreaksAfterFinish actor row) := by
  unfold dropBreaksAfterFinish
  rcases row.clockOut with _ | finish
  · exact Keeps.pure
  · exact Keeps.bind Keeps.read fun lines => Keeps.forM fun line _ =>
      keeps_deleteEntry actor line.id none

lemma keeps_dayToFinish (hworker : rule.Owner worker) (today : ℤ) (finish : TimeOfDay) :
    Keeps rule.Holds (dayToFinish worker today finish) := by
  refine Keeps.bind Keeps.read fun row => ?_
  rcases row with _ | row
  · refine Keeps.bind Keeps.read fun company => ?_
    rcases standardDay company today with _ | standard
    · exact Keeps.refuse
    · exact Keeps.ite (fun _ => Keeps.refuse) fun _ =>
        Keeps.bind (keeps_saveRow _) fun _ => keeps_generateDefaultBreaks hworker _
  · exact Keeps.pure

lemma keeps_clockIn (hworker : rule.Owner worker) : Keeps rule.Holds (clockIn worker) := by
  refine Keeps.bind Keeps.read fun today => Keeps.bind Keeps.read fun now =>
    Keeps.bind Keeps.read fun row => ?_
  rcases row with _ | row
  · exact Keeps.bind (keeps_saveRow _) fun _ =>
      Keeps.bind (keeps_generateDefaultBreaks hworker _) fun _ => Keeps.pure
  · exact Keeps.ite (fun _ => Keeps.refuse) fun _ => Keeps.refuse

lemma keeps_clockOut (hworker : rule.Owner worker) : Keeps rule.Holds (clockOut worker) :=
  Keeps.bind Keeps.read fun _ => Keeps.bind Keeps.read fun _ =>
    Keeps.bind (keeps_dayToFinish hworker _ _) fun _ => Keeps.bind Keeps.require fun _ =>
      Keeps.bind Keeps.require fun _ => Keeps.bind Keeps.consult fun _ =>
        Keeps.bind Keeps.consult fun _ => Keeps.bind (keeps_saveRow _) fun _ =>
          Keeps.bind (keeps_dropBreaksAfterFinish _ _) fun _ => keeps_rebuild hworker _

lemma keeps_setClockTimes (howner : rule.Owner owner) (actor : Staff) (day : ℤ) (start : TimeOfDay)
    (finish : Option TimeOfDay) :
    Keeps rule.Holds (setClockTimes actor owner day start finish) :=
  Keeps.bind Keeps.require fun _ => Keeps.bind Keeps.consult fun _ => Keeps.bind Keeps.read fun _ =>
    Keeps.bind Keeps.consult fun _ => Keeps.bind (keeps_saveRow _) fun _ =>
      Keeps.bind (keeps_generateDefaultBreaks howner _) fun _ =>
        Keeps.bind (keeps_dropBreaksAfterFinish _ _) fun _ => keeps_rebuild howner _

lemma keeps_addBreak (howner : rule.Owner owner) (day : ℤ) (start finish : TimeOfDay) (paid : Bool)
    (actor : Staff) : Keeps rule.Holds (addBreak owner day start finish paid actor) :=
  Keeps.bind Keeps.require fun _ => Keeps.bind Keeps.consult fun _ => keeps_createBreak howner _ _ _

lemma readOnly_theBreakLine (entry : ℕ) : ReadOnly (theBreakLine entry) :=
  ReadOnly.bind ReadOnly.read fun _ => ReadOnly.bind ReadOnly.orRefuse fun _ =>
    ReadOnly.bind ReadOnly.read fun _ => ReadOnly.orRefuse

lemma keeps_changeBreak (entry : ℕ) (start finish : TimeOfDay) (actor : Staff) :
    Keeps rule.Holds (changeBreak entry start finish actor) := by
  refine Keeps.bind Keeps.consult fun _ => Keeps.bind (readOnly_theBreakLine entry).keeps fun line =>
    Keeps.bind Keeps.consult fun hours => ?_
  exact (holds_updateEntry actor _).conseq (fun db hdb => ⟨hdb, rule.moves_timed db _ _ _ _⟩)
    fun _ _ h => h

lemma keeps_removeBreak (entry : ℕ) (actor : Staff) : Keeps rule.Holds (removeBreak entry actor) :=
  Keeps.bind (readOnly_theBreakLine entry).keeps fun line => keeps_deleteEntry actor line.id none

lemma keeps_settleDay (howner : rule.Owner owner) (day : ℤ) (actor : Staff) :
    Keeps rule.Holds (settleDay owner day actor) := by
  refine Keeps.bind Keeps.read fun row => Keeps.bind Keeps.read fun today =>
    Keeps.bind Keeps.read fun now => Keeps.bind Keeps.read fun company => ?_
  rcases daySpan company today day row with _ | span
  · exact Keeps.ite (fun _ => Keeps.refuse) fun _ => Keeps.refuse
  rcases row with _ | row
  · exact Keeps.bind Keeps.require fun _ => Keeps.bind Keeps.consult fun row =>
      Keeps.bind (keeps_saveRow row) fun _ =>
        Keeps.bind (keeps_generateDefaultBreaks howner row) fun row =>
          Keeps.bind (keeps_dropBreaksAfterFinish actor row) fun _ => Keeps.pure
  · exact Keeps.ite (fun _ => Keeps.pure) fun _ => Keeps.bind Keeps.require fun _ =>
      Keeps.bind Keeps.consult fun row => Keeps.bind (keeps_saveRow row) fun _ =>
        Keeps.bind (keeps_dropBreaksAfterFinish actor row) fun _ => Keeps.pure

lemma keeps_fillWithGeneralWork (howner : rule.Owner owner) (day : ℤ) (actor : Staff) :
    Keeps rule.Holds (fillWithGeneralWork owner day actor) :=
  Keeps.bind Keeps.require fun _ => Keeps.bind (keeps_settleDay howner _ _) fun _ =>
    Keeps.bind (Keeps.when fun _ => keeps_saveRow _) fun _ => keeps_refill howner _

lemma holds_dayWrite (write : DayWrite)
    (hcreate : ∀ staff data managedBy, write = .createEntry staff data managedBy → rule.Gives data) :
    Triple (fun db => rule.Holds db ∧
        ∀ actor data, write = .updateEntry actor data → rule.Moves db data)
      write.call fun _ => rule.Holds := by
  rintro db ⟨hdb, hupdate⟩
  cases write with
  | createEntry staff data managedBy =>
      exact keeps_theStaff staff (fun owner howner => Keeps.bind
        (keeps_createEntry howner (hcreate _ _ _ rfl) _ _) fun _ => Keeps.pure) db hdb
  | updateEntry actor data => exact holds_updateEntry actor data db ⟨hdb, hupdate _ _ rfl⟩
  | deleteEntry actor entry managedBy => exact keeps_deleteEntry actor entry managedBy db hdb
  | addBreak actor staff day start finish paid =>
      exact keeps_theStaff staff (fun owner howner =>
        keeps_addBreak howner day start finish paid actor) db hdb
  | changeBreak actor entry start finish => exact keeps_changeBreak entry start finish actor db hdb
  | removeBreak actor entry => exact keeps_removeBreak entry actor db hdb
  | setClockTimes actor staff day start finish =>
      exact keeps_theStaff staff (fun owner howner =>
        keeps_setClockTimes howner actor day start finish) db hdb
  | clockOut staff => exact keeps_theStaff staff (fun _ howner => keeps_clockOut howner) db hdb

lemma keeps_submitDay (hgives : ∀ data, rule.Gives data) (hworker : rule.Owner worker)
    (actor : Staff) (day : ℤ) (rows : List FillRow) :
    Keeps rule.Holds (submitDay actor worker day rows) :=
  Keeps.bind Keeps.require fun _ => Keeps.bind (keeps_settleDay hworker _ _) fun _ =>
    Keeps.bind Keeps.consult fun _ => Keeps.bind (Keeps.forM fun _ _ =>
      Keeps.bind Keeps.consult fun _ =>
        Keeps.bind (keeps_createEntry hworker (hgives _) _ _) fun _ => Keeps.pure) fun _ =>
          keeps_saveRow _

/-! ### Approval and the sweep -/

section Approving

variable (happrove : ∀ line, rule.Line line → rule.Line { line with approved := true })

include happrove

lemma keeps_approveDay (worker : Staff) (day : ℤ) : Keeps rule.Holds (approveDay worker day) := by
  refine Triple.bind (Q := fun waiting db => (∀ line ∈ waiting, rule.Line line) ∧ rule.Holds db)
    (Triple.read fun db hdb => ⟨fun line hline => ?_, hdb⟩) fun waiting => ?_
  · exact hdb.2 line (List.mem_of_mem_filter (List.mem_of_mem_filter hline))
  rintro db ⟨hwaiting, hdb⟩
  refine Keeps.bind (Keeps.forM fun line hline => ?_) (fun _ => Keeps.pure) db hdb
  refine Keeps.write fun db hdb => ⟨rule.setup_written _ _ _ hdb.1, fun other hother => ?_⟩
  rcases Table.mem_put.mp hother with ⟨hold, -⟩ | ⟨rfl, -⟩
  · exact hdb.2 other hold
  · exact happrove line (hwaiting line hline)

lemma keeps_sweepOne (howner : rule.Owner owner) (actor : Staff) (day : ℤ) (data : SweepData) :
    Keeps rule.Holds (sweepOne actor day data owner) := by
  refine Keeps.bind Keeps.consult fun windows => ?_
  rcases windows with _ | windows
  · exact Keeps.bind Keeps.read fun _ => Keeps.pure
  · refine Keeps.bind Keeps.consult fun _ => Keeps.bind (keeps_fillWithGeneralWork howner _ _)
      fun _ => Keeps.bind (keeps_approveDay happrove _ _) fun _ => Keeps.bind ?_ fun _ => Keeps.pure
    exact Keeps.bind Keeps.read fun row => Keeps.bind Keeps.orRefuse fun row =>
      Keeps.when fun _ => keeps_saveRow _

lemma keeps_sweep {peopleByDay : List (ℤ × List Staff)}
    (hpeople : ∀ each ∈ peopleByDay, ∀ person ∈ each.2, rule.Owner person) (actor : Staff) :
    Keeps rule.Holds (sweep peopleByDay actor) := by
  refine Keeps.bind Keeps.consult fun _ => Keeps.foldlM fun data each heach => ?_
  obtain ⟨listed, hlisted, hin⟩ := List.mem_flatMap.mp heach
  obtain ⟨person, hperson, rfl⟩ := List.mem_map.mp hin
  exact keeps_sweepOne happrove (hpeople listed hlisted person hperson) actor _ data

lemma keeps_sweepPerson (howner : rule.Owner owner) (days : List ℤ) (actor : Staff) :
    Keeps rule.Holds (sweepPerson owner days actor) := by
  refine keeps_sweep happrove (fun each heach person hperson => ?_) actor
  obtain ⟨day, -, rfl⟩ := List.mem_map.mp heach
  exact List.mem_singleton.mp hperson ▸ howner

lemma keeps_sweepEveryone (days : List ℤ) (actor : Staff) :
    Keeps rule.Holds (sweepEveryone days actor) := by
  refine Triple.bind (Q := fun peopleByDay db =>
    (∀ each ∈ peopleByDay, ∀ person ∈ each.2, rule.Owner person) ∧ rule.Holds db)
    (Triple.consult fun db peopleByDay hpeople hdb => ⟨fun each heach person hperson => ?_, hdb⟩)
    fun peopleByDay => ?_
  · obtain ⟨day, -, hday⟩ := exists_of_mem_mapM hpeople heach
    obtain ⟨people, hon, rfl⟩ := map_eq_ok.mp hday
    have hstored := List.mem_of_mem_filter (mem_peopleOn hon hperson).1
    exact rule.owner_of_setup hdb.1 (Table.find?_of_mem hstored)
  · exact fun db hdb => keeps_sweep happrove hdb.1 actor db hdb.2

/-- What the operation gives for the rule: the entry it makes, and the patch it applies. -/
def Meets (rule : LineRule) (db : Timesheets) : TimeOperation → Prop
  | .dayWrite (.createEntry _ data _) => rule.Gives data
  | .dayWrite (.updateEntry _ data) => rule.Moves db data
  | _ => True

/-- **An operation that meets the rule keeps it.** -/
lemma holds_call (operation : TimeOperation) :
    Triple (fun db => rule.Holds db ∧ rule.Meets db operation) operation.call
      fun _ => rule.Holds := by
  rintro db ⟨hdb, hmeets⟩
  cases operation with
  | dayWrite write =>
      refine holds_dayWrite write ?_ db ⟨hdb, ?_⟩
      · rintro staff data managedBy rfl
        exact hmeets
      · rintro actor data rfl
        exact hmeets
  | clockIn staff => exact keeps_theStaff staff (fun _ howner => keeps_clockIn howner) db hdb
  | fill actor staff day =>
      exact keeps_theStaff staff (fun _ howner =>
        Keeps.bind (keeps_fillWithGeneralWork howner day actor) fun _ => Keeps.pure) db hdb
  | approveDay staff day =>
      exact keeps_theStaff staff (fun worker _ =>
        Keeps.bind (keeps_approveDay happrove worker day) fun _ => Keeps.pure) db hdb
  | sweepPerson actor staff days =>
      exact keeps_theStaff staff (fun _ howner =>
        Keeps.bind (keeps_sweepPerson happrove howner days actor) fun _ => Keeps.pure) db hdb
  | sweepEveryone actor days =>
      exact Keeps.bind (keeps_sweepEveryone happrove days actor) (fun _ => Keeps.pure) db hdb

end Approving

end LineRule

end Timesheet

end Docketworks
