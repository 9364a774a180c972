import Docketworks.Timesheet.LineRules

/-!
# Days of employment

Whether worked time can lie on a day its owner was not employed, after every run of the operations.

* `WorkOnEmployedDays` — every line but leave's is on a day its owner was employed.
* `WorkOperation` — an operation on people's time, or a day sent.
* `WorkOperation.MovesWithinEmployment` — a patch that sets a day sets one of employment.
* `work_lies_on_employed_days` — every run of the operations.

**Design.**  Every entry is refused outside its owner's employment when it is made.  A patch that moves
an entry to another day checks nothing of the day.
-/

namespace Docketworks

open Library Library.Transaction

namespace Timesheet

/-- Whose line it is was employed on its day. -/
def Employed (staff : Table Staff.id) (line : TimeLine) : Prop :=
  ∀ owner ∈ staff.find? line.staff, owner.isActiveOn line.accountingDate = true

instance (staff : Table Staff.id) : DecidablePred (Employed staff) :=
  fun _ => inferInstanceAs (Decidable (∀ _ ∈ _, _))

/-- **Work lies on days of employment**: every line but leave's. -/
def WorkOnEmployedDays (db : Timesheets) : Prop :=
  ∀ line ∈ db.lines.rows, line.managedBy ≠ some .leave → Employed db.staff line

instance : DecidablePred WorkOnEmployedDays := fun _ => inferInstanceAs (Decidable (∀ _ ∈ _, _ → _))

/-- The patch sets no day, or one the entry's owner was employed on. -/
def WithinEmployment (db : Timesheets) (data : WorkshopEntryUpdateData) : Prop :=
  ∀ day ∈ data.accountingDate, ∀ line ∈ db.lines.find? data.entry,
    ∀ owner ∈ db.staff.find? line.staff, owner.isActiveOn day = true

instance (db : Timesheets) : DecidablePred (WithinEmployment db) :=
  fun _ => inferInstanceAs (Decidable (∀ _ ∈ _, ∀ _ ∈ _, ∀ _ ∈ _, _))

lemma employed_of_patched {db : Timesheets} {owner : Staff} {source : WorkJob}
    {line edited : TimeLine} {data : WorkshopEntryUpdateData} (hline : Employed db.staff line)
    (hmoves : WithinEmployment db data) (hfound : db.lines.find? data.entry = some line)
    (patched : Patched db owner source line data edited) : Employed db.staff edited := by
  obtain ⟨-, hstaff, -, -, hday, -⟩ := patched.columns
  intro person hperson
  rw [hstaff] at hperson
  rw [hday]
  rcases hset : data.accountingDate with _ | day
  · exact hline person hperson
  · exact hmoves day hset line hfound person hperson

/-- Work lies on days of employment, as the staff table has it. -/
def employmentRule (staff : Table Staff.id) : LineRule where
  Setup db := db.staff = staff
  Line line := line.managedBy ≠ some .leave → Employed staff line
  Owner owner := staff.find? owner.id = some owner
  Gives _ := True
  Moves := WithinEmployment
  setup_written _ _ _ h := h
  owner_of_setup hsetup hfound := by
    rw [← hsetup, Table.key_of_find? hfound, hfound]
  gives_timed _ _ _ := trivial
  moves_timed _ _ _ _ _ := fun _ hday => absurd hday (Option.not_mem_none _)
  booked _ howner _ _ _ hlines hpart hstored _ person hperson := by
    obtain ⟨-, hstaff, hdate, -⟩ := hstored.columns
    obtain ⟨hdates, hactive⟩ := dates_of_entryLines hlines
    rw [hstaff, howner] at hperson
    obtain rfl := Option.some.inj hperson
    rw [hdate, hdates _ hpart]
    exact hactive
  patched hsetup hline hmoves hfound _ _ patched hworked := by
    subst hsetup
    exact employed_of_patched (hline (patched.columns.2.2.1 ▸ hworked)) hmoves hfound patched

/-! ## Every run of operations -/

/-- An operation on people's time, or a day sent. -/
inductive WorkOperation where
  | time (operation : TimeOperation)
  | submitDay (actor : Staff) (staff : ℕ) (day : ℤ) (rows : List FillRow)

def WorkOperation.call : WorkOperation → TimesheetCall Unit
  | time operation => operation.call
  | submitDay actor staff day rows => do
      let worker ← theStaff staff
      Timesheet.submitDay actor worker day rows

/-- What the operation does not check itself: a patch that moves an entry to another day moves it to
a day of its owner's employment. -/
def WorkOperation.MovesWithinEmployment (db : Timesheets) : WorkOperation → Prop
  | time (.dayWrite (.updateEntry _ data)) => WithinEmployment db data
  | _ => True

lemma WorkOperation.employed_call {db db' : Timesheets} (operation : WorkOperation)
    (hdb : WorkOnEmployedDays db) (hmoves : operation.MovesWithinEmployment db)
    (hrun : operation.call.run db = .ok ((), db')) : WorkOnEmployedDays db' := by
  have hholds : (employmentRule db.staff).Holds db := ⟨rfl, hdb⟩
  have hkept : (employmentRule db.staff).Holds db' := by
    cases operation with
    | time operation =>
        refine LineRule.holds_call (fun _ h => h) operation db ⟨hholds, ?_⟩ _ _ hrun
        cases operation with
        | dayWrite write => cases write <;> exact hmoves
        | _ => trivial
    | submitDay actor staff day rows =>
        exact LineRule.keeps_theStaff staff (fun _ hworker =>
          LineRule.keeps_submitDay (fun _ => trivial) hworker actor day rows) db hholds _ _ hrun
  obtain ⟨hstaff, hlines⟩ := hkept
  intro line hline hworked
  rw [hstaff]
  exact hlines line hline hworked

/-- The states after accepted operations, each made under `C`; between two of them anything may change
but the time lines, and when the people they are of were employed. -/
inductive WorkReached (C : Timesheets → WorkOperation → Prop) (start : Timesheets) :
    Timesheets → Prop
  | start : WorkReached C start start
  | elsewhere {db db' : Timesheets} (hdb : WorkReached C start db) (hlines : db'.lines = db.lines)
      (hstaff : ∀ line ∈ db.lines.rows, ∀ owner' ∈ db'.staff.find? line.staff,
        ∃ owner ∈ db.staff.find? line.staff,
          owner'.employmentStartDate = owner.employmentStartDate ∧ owner'.dateLeft = owner.dateLeft) :
      WorkReached C start db'
  | operation {db db' : Timesheets} (operation : WorkOperation) (hdb : WorkReached C start db)
      (hC : C db operation) (hrun : operation.call.run db = .ok ((), db')) : WorkReached C start db'

/-- **Work lies on days of employment** after every run of accepted operations whose patches move
entries within employment. -/
theorem work_lies_on_employed_days {start db : Timesheets} (hstart : WorkOnEmployedDays start)
    (hrun : WorkReached (fun db operation => operation.MovesWithinEmployment db) start db) :
    WorkOnEmployedDays db := by
  induction hrun with
  | start => exact hstart
  | @elsewhere db db' _ hlines hstaff ih =>
      intro line hline hworked owner' howner'
      rw [hlines] at hline
      obtain ⟨owner, howner, hfrom, hleft⟩ := hstaff line hline owner' howner'
      have hactive := ih line hline hworked owner howner
      unfold Staff.isActiveOn at hactive ⊢
      rw [hfrom, hleft]
      exact hactive
  | operation operation _ hmoves hrun ih => exact operation.employed_call ih hmoves hrun

/-! ### An entry moved before the first day -/

def firstMonday : Timesheets :=
  { fittersDay clockedDay .empty with
    staff := ⟨[{ fitter with employmentStartDate := 0 }], by decide⟩ }

def handrailEntry : WorkOperation :=
  .time (.dayWrite (.createEntry 9 { job := 3, accountingDate := 0, hours := 2 } none))

/-- The entry moved to another day. -/
def handrailMoved (day : ℤ) : WorkOperation :=
  .time (.dayWrite (.updateEntry fitter { entry := 10, accountingDate := some day }))

/-- An entry made on the first Monday and moved to the Tuesday. -/
theorem work_lies_on_employed_days_on_a_tuesday :
    ∃ db, WorkReached (fun db operation => operation.MovesWithinEmployment db) firstMonday db ∧
      db.lines.rows.map TimeLine.accountingDate = [1] ∧ WorkOnEmployedDays db := by
  obtain ⟨_, typed, htyped, hrest⟩ := exists_of_endsIn (x := handrailEntry.call) (s := firstMonday)
    (p := fun _ typed => decide (WithinEmployment typed { entry := 10, accountingDate := some 1 }) &&
      endsIn (handrailMoved 1).call typed fun _ db =>
        db.lines.rows.map TimeLine.accountingDate = [1])
    (by decide +kernel)
  obtain ⟨hwithin, hmoved⟩ := Bool.and_eq_true_iff.mp hrest
  obtain ⟨_, db, hrun, hday⟩ := exists_of_endsIn hmoved
  have hmoves : WithinEmployment typed { entry := 10, accountingDate := some 1 } :=
    of_decide_eq_true hwithin
  have hreached : WorkReached (fun db operation => operation.MovesWithinEmployment db) firstMonday db :=
    .operation (handrailMoved 1) (.operation handrailEntry .start trivial htyped) hmoves hrun
  have hnone : WorkOnEmployedDays firstMonday := fun _ hline => absurd hline List.not_mem_nil
  exact ⟨db, hreached, of_decide_eq_true hday, work_lies_on_employed_days hnone hreached⟩

/-- **An entry can be moved before the first day**: a patch that sets its day checks nothing of it. -/
theorem moved_before_the_first_day :
    ∃ start db, WorkOnEmployedDays start ∧ WorkReached (fun _ _ => True) start db ∧
      ¬WorkOnEmployedDays db := by
  obtain ⟨_, typed, htyped, hmoved⟩ := exists_of_endsIn (x := handrailEntry.call) (s := firstMonday)
    (p := fun _ typed => endsIn (handrailMoved (-1)).call typed fun _ db =>
      !decide (WorkOnEmployedDays db)) (by decide +kernel)
  obtain ⟨_, db, hrun, hoff⟩ := exists_of_endsIn hmoved
  refine ⟨firstMonday, db, fun _ hline => absurd hline List.not_mem_nil,
    .operation _ (.operation _ .start trivial htyped) trivial hrun, ?_⟩
  simpa using hoff

end Timesheet

end Docketworks
