import Docketworks.Payroll.Push

/-!
# One person's week in Xero

What posting a person's week does to her timesheets, to everybody else's, and to what is paid, however
it ends.

* `sheetsFor`, `otherSheets` — the timesheets of an employee's week, and the rest.
* `postTimesheet_ends` — one timesheet, replaced and approved, or stopped on the way.
* `postOneStaffWeek_ends` — a success is a week done.
* `postOneStaffWeek_guards` — what the calls it may make preserve, it preserves: `aside_callsGuard` of
  anyone else's week, `paid_callsGuard` of what is paid.
-/

namespace Docketworks

open Library Library.Remote

namespace Payroll

/-! ## An employee's week -/

/-- The timesheet is the employee's, for the period that starts on the day. -/
def isFor (employee : ℕ) (start : ℤ) (sheet : XeroTimesheet) : Bool :=
  sheet.employeeId = some employee && sheet.startDate = some start

/-- The timesheets of an employee's week. -/
def sheetsFor (s : Posting) (employee : ℕ) (start : ℤ) : List XeroTimesheet :=
  s.xero.timesheets.rows.filter (isFor employee start)

def otherSheets (s : Posting) (employee : ℕ) (start : ℤ) : List XeroTimesheet :=
  s.xero.timesheets.rows.filter fun sheet => !isFor employee start sheet

/-- The state with other timesheets in the organisation. -/
abbrev Posting.withTimesheets (s : Posting) (timesheets : Register XeroTimesheet.timesheetId) :
    Posting :=
  { s with xero := { s.xero with timesheets := timesheets } }

/-- Xero has moved the timesheet beyond reach. -/
def Paid (sheet : XeroTimesheet) : Prop :=
  sheet.status ≠ some .draft ∧ sheet.status ≠ some .approved

instance (sheet : XeroTimesheet) : Decidable (Paid sheet) := inferInstanceAs (Decidable (_ ∧ _))

/-- The week holds one timesheet, approved, with the payload as its multiset of lines. -/
def Posted (payload : List TimesheetLinePayload) (mine : List XeroTimesheet) : Prop :=
  ∃ sheet lines, mine = [sheet] ∧ sheet.status = some .approved ∧ readLines sheet = .ok lines ∧
    lines.Perm payload

section Weeks

variable {s s' : Posting} {employee other : ℕ} {start : ℤ} {sheet : XeroTimesheet}

lemma mem_sheetsFor : sheet ∈ sheetsFor s employee start ↔
    sheet ∈ s.xero.timesheets.rows ∧ sheet.employeeId = some employee ∧
      sheet.startDate = some start := by
  simp [sheetsFor, isFor]

@[simp] lemma isFor_withStatus {status : TimesheetStatus} :
    isFor employee start (sheet.withStatus status) = isFor employee start sheet := rfl

lemma mem_markTimesheet {xero : Xero} {id : ℕ} {status : TimesheetStatus} :
    sheet ∈ (xero.markTimesheet id status).timesheets.rows ↔
      (sheet ∈ xero.timesheets.rows ∧ sheet.timesheetId ≠ id) ∨
        ∃ row ∈ xero.timesheets.rows, row.timesheetId = id ∧ sheet = row.withStatus status :=
  Register.mem_update (XeroTimesheet.timesheetId_withStatus status)

end Weeks

/-! ## Calls on a timesheet -/

section Calls

variable {net : Call → Fate PayrollError} {employee : ℕ} {start : ℤ}
  {others mine : List XeroTimesheet} {yielded : List StaffWeekPostResult} {id : ℕ}
  {sheet : XeroTimesheet}

/-- The timesheets of a week, beside the others and the results yielded. -/
structure Week (employee : ℕ) (start : ℤ) (others : List XeroTimesheet)
    (yielded : List StaffWeekPostResult) (mine : List XeroTimesheet) (s : Posting) : Prop where
  others : otherSheets s employee start = others
  yielded : s.yielded = yielded
  mine : sheetsFor s employee start = mine

/-- The other timesheets and the results, whatever the week holds. -/
structure Beside (employee : ℕ) (start : ℤ) (others : List XeroTimesheet)
    (yielded : List StaffWeekPostResult) (s : Posting) : Prop where
  others : otherSheets s employee start = others
  yielded : s.yielded = yielded

lemma Week.beside {s : Posting} (h : Week employee start others yielded mine s) :
    Beside employee start others yielded s := ⟨h.others, h.yielded⟩

lemma Beside.week {s : Posting} (h : Beside employee start others yielded s) :
    Week employee start others yielded (sheetsFor s employee start) s := ⟨h.others, h.yielded, rfl⟩

lemma change_ends {α : Type} {k : Call} {serve : Xero → α × Xero} {P : Posting → Prop}
    {Q : α → Posting → Prop} {E : Posting → Prop}
    (h : ∀ s, P s → Q (serve s.xero).1 { s with xero := (serve s.xero).2 } ∧
      E { s with xero := (serve s.xero).2 }) (hE : ∀ s, P s → E s) :
    Ends net P (change k serve) Q E := by
  refine Ends.call (fun s a t hs hserve => ?_) hE
  obtain ⟨rfl, rfl⟩ := Prod.mk.inj (Except.ok.inj hserve)
  exact h s hs

lemma createTimesheet_ends {lines : List TimesheetLinePayload} :
    Ends net (Week employee start others yielded []) (createTimesheet employee start lines)
      (fun id s => Week employee start others yielded
        [⟨id, some employee, some start, some .draft, lines.map TimesheetLinePayload.line⟩] s)
      (Beside employee start others yielded) := by
  have hmade : ∀ s, Week employee start others yielded [] s → Week employee start others yielded
      [⟨s.xero.timesheets.next, some employee, some start, some .draft,
        lines.map TimesheetLinePayload.line⟩]
      (s.withTimesheets (s.xero.timesheets.add fun id =>
        ⟨id, some employee, some start, some .draft, lines.map TimesheetLinePayload.line⟩)) := by
    intro s hs
    refine ⟨?_, hs.yielded, ?_⟩
    · rw [← hs.others]
      simp [otherSheets, isFor]
    · have hmine := hs.mine
      unfold sheetsFor at hmine ⊢
      rw [Register.rows_add, List.filter_append, hmine]
      simp [isFor]
  exact change_ends (fun s hs => ⟨hmade s hs, (hmade s hs).beside⟩) fun s hs => hs.beside

lemma withStatus_week {s : Posting} {status : TimesheetStatus}
    (hs : Week employee start others yielded [sheet] s) :
    Week employee start others yielded [sheet.withStatus status]
      { s with xero := s.xero.markTimesheet sheet.timesheetId status } := by
  have hmem : sheet ∈ sheetsFor s employee start := by rw [hs.mine]; exact List.mem_cons_self
  obtain ⟨hrow, hfor⟩ := List.mem_filter.mp hmem
  have hsame : ∀ row ∈ s.xero.timesheets.rows, row.timesheetId = sheet.timesheetId → row = sheet :=
    fun row hr hid => Register.eq_of_key_eq hr hrow hid
  refine ⟨?_, hs.yielded, ?_⟩
  · rw [← hs.others]
    unfold otherSheets
    refine Register.filter_update (XeroTimesheet.timesheetId_withStatus status)
      (fun row hr hid => ?_) fun row hr hid => ?_
    · rw [hsame row hr hid]
      simp [hfor]
    · rw [hsame row hr hid, isFor_withStatus, hfor]
      rfl
  · have hmine := hs.mine
    unfold sheetsFor at hmine ⊢
    have hmap : ((s.xero.markTimesheet sheet.timesheetId status).timesheets.rows.filter
        (isFor employee start)) = (s.xero.timesheets.rows.filter (isFor employee start)).map fun row =>
          if row.timesheetId = sheet.timesheetId then row.withStatus status else row := by
      unfold Xero.markTimesheet
      rw [Register.rows_update, List.filter_map]
      congr 1
      refine List.filter_congr fun row _ => ?_
      by_cases hid : row.timesheetId = sheet.timesheetId <;>
        simp [hid, isFor, XeroTimesheet.withStatus]
    rw [hmap, hmine]
    simp

lemma approveTimesheet_ends :
    Ends net (Week employee start others yielded [sheet]) (approveTimesheet sheet.timesheetId)
      (fun _ => Week employee start others yielded [sheet.withStatus .approved])
      (Beside employee start others yielded) :=
  change_ends (fun _ hs => ⟨withStatus_week hs, (withStatus_week hs).beside⟩) fun _ hs => hs.beside

lemma revertTimesheet_ends :
    Ends net (Week employee start others yielded [sheet]) (revertTimesheet sheet.timesheetId)
      (fun _ => Week employee start others yielded [sheet.withStatus .draft])
      (Beside employee start others yielded) :=
  change_ends (fun _ hs => ⟨withStatus_week hs, (withStatus_week hs).beside⟩) fun _ hs => hs.beside

lemma deleteTimesheet_ends :
    Ends net (Week employee start others yielded [sheet]) (deleteTimesheet sheet.timesheetId)
      (fun _ => Week employee start others yielded []) (Beside employee start others yielded) := by
  have hgone : ∀ s, Week employee start others yielded [sheet] s →
      Week employee start others yielded []
        (s.withTimesheets (s.xero.timesheets.remove sheet.timesheetId)) := by
    intro s hs
    have hmem : sheet ∈ sheetsFor s employee start := by rw [hs.mine]; exact List.mem_cons_self
    obtain ⟨hrow, hfor⟩ := List.mem_filter.mp hmem
    refine ⟨?_, hs.yielded, ?_⟩
    · rw [← hs.others]
      unfold otherSheets
      refine Register.filter_remove fun row hr hid => ?_
      rw [Register.eq_of_key_eq hr hrow hid]
      simp [hfor]
    · have hmine := hs.mine
      unfold sheetsFor at hmine ⊢
      rw [Register.rows_remove, List.filter_filter, List.filter_congr
        fun row _ => Bool.and_comm _ _, ← List.filter_filter, hmine]
      simp
  exact change_ends (fun s hs => ⟨hgone s hs, (hgone s hs).beside⟩) fun s hs => hs.beside

/-- What the listing said of the week still stands. -/
def Describes (existing : Option PostedTimesheet) (mine : List XeroTimesheet) : Prop :=
  match existing with
  | none => mine = []
  | some found => ∃ sheet, mine = [sheet] ∧ sheet.timesheetId = found.timesheetId ∧
      sheet.status = some found.status

lemma clearTimesheet_ends {found : PostedTimesheet} (hid : sheet.timesheetId = found.timesheetId) :
    Ends net (Week employee start others yielded [sheet]) (clearTimesheet found)
      (fun _ => Week employee start others yielded []) (Beside employee start others yielded) := by
  obtain ⟨id, owner, status⟩ := found
  have hid : sheet.timesheetId = id := hid
  subst hid
  unfold clearTimesheet
  rcases status with _ | _ | name
  · refine Ends.bind (Q := fun _ => Week employee start others yielded [sheet]) ?_
      fun _ => deleteTimesheet_ends
    exact Ends.pure fun _ h => h
  · refine Ends.bind (Q := fun _ => Week employee start others yielded [sheet.withStatus .draft])
      revertTimesheet_ends fun _ => ?_
    show Ends net _ (deleteTimesheet (sheet.withStatus .draft).timesheetId) _ _
    exact deleteTimesheet_ends
  · refine Ends.bind (Q := fun _ _ => False) ?_ fun _ _ h => h.elim
    exact Ends.raise fun _ h => h.beside

lemma clearExisting_ends {existing : Option PostedTimesheet} (hexisting : Describes existing mine) :
    Ends net (Week employee start others yielded mine) (clearExisting existing)
      (fun _ => Week employee start others yielded []) (Beside employee start others yielded) := by
  rcases existing with _ | found
  · obtain rfl : mine = [] := hexisting
    exact Ends.pure fun _ h => h
  · obtain ⟨sheet, rfl, hid, -⟩ := hexisting
    exact clearTimesheet_ends hid

lemma readLines_line {payload : List TimesheetLinePayload}
    (hunits : ∀ line ∈ payload, quantize line.units = line.units) {sheet : XeroTimesheet}
    (hlines : sheet.lines = payload.map TimesheetLinePayload.line) :
    readLines sheet = .ok payload := by
  unfold readLines
  rw [hlines]
  clear hlines
  induction payload with
  | nil => rfl
  | cons line payload ih =>
      have hline : readLine line.line = .ok line := by
        unfold readLine TimesheetLinePayload.line
        simp only
        rw [hunits line List.mem_cons_self]
      rw [List.map_cons, List.mapM_cons, hline,
        ih fun line hline => hunits line (List.mem_cons_of_mem _ hline)]
      rfl

lemma replaceTimesheet_ends {db : Database} {week : WeekWindow} {payload : List TimesheetLinePayload}
    {existing : Option PostedTimesheet} (hunits : ∀ line ∈ payload, quantize line.units = line.units)
    (hexisting : Describes existing mine) :
    Ends net (Week employee week.start others yielded mine)
      (replaceTimesheet db employee week payload existing)
      (fun _ s => Beside employee week.start others yielded s ∧
        Posted payload (sheetsFor s employee week.start))
      (Beside employee week.start others yielded) := by
  unfold replaceTimesheet
  refine Ends.bind (clearExisting_ends hexisting) fun _ => ?_
  refine Ends.bind (Q := fun _ => Week employee week.start others yielded [])
    (Ends.compute (fun _ _ _ h => h) fun s h => h.beside) fun _ => ?_
  refine Ends.bind createTimesheet_ends fun id => Ends.bind approveTimesheet_ends fun _ =>
    Ends.pure fun s hs => ⟨hs.beside, ?_⟩
  rw [hs.mine]
  exact ⟨_, payload, rfl, rfl, readLines_line hunits rfl, List.Perm.refl _⟩

lemma alreadyHolds_ends {payload : List TimesheetLinePayload} {existing : Option PostedTimesheet}
    (hexisting : Describes existing mine) :
    Ends net (Week employee start others yielded mine) (alreadyHolds existing payload)
      (fun held s => Week employee start others yielded mine s ∧ (held = true →
        ∃ sheet lines, mine = [sheet] ∧ readLines sheet = .ok lines ∧ lines.Perm payload))
      (Week employee start others yielded mine) := by
  unfold alreadyHolds
  rcases existing with _ | found
  · exact Ends.pure fun _ h => ⟨h, nofun⟩
  · obtain ⟨sheet, rfl, hid, -⟩ := hexisting
    unfold timesheetLines getTimesheet
    refine Ends.bind (Q := fun lines s => Week employee start others yielded [sheet] s ∧
      readLines sheet = .ok lines) ?_ fun lines => Ends.pure ?_
    · refine Ends.bind (Q := fun row s => Week employee start others yielded [sheet] s ∧
        row = sheet) (Ends.ask (fun s row hs hrow => ⟨hs, ?_⟩) fun _ h => h) fun row => ?_
      · have hmem : sheet ∈ sheetsFor s employee start := by
          rw [hs.mine]
          exact List.mem_cons_self
        have hfind : s.xero.timesheets.find? found.timesheetId = some sheet :=
          hid ▸ Register.find?_of_mem (mem_sheetsFor.mp hmem).1
        rw [hfind] at hrow
        exact (Except.ok.inj hrow).symm
      · refine Ends.compute (fun lines hlines s hs => ⟨hs.1, ?_⟩) fun s hs => hs.1
        rw [← hs.2]
        exact hlines
    · rintro s ⟨hs, hlines⟩
      refine ⟨hs, fun hmatch => ⟨sheet, lines, rfl, hlines, ?_⟩⟩
      exact of_decide_eq_true hmatch

/-- **One timesheet.**  However the posting of it ends, the other timesheets are as they were; if it
goes through the week is posted. -/
theorem postTimesheet_ends {db : Database} {week : WeekWindow} {payload : List TimesheetLinePayload}
    {existing : Option PostedTimesheet} (hunits : ∀ line ∈ payload, quantize line.units = line.units)
    (hexisting : Describes existing mine) :
    Ends net (Week employee week.start others yielded mine)
      (postTimesheet db employee week payload existing)
      (fun _ s => Beside employee week.start others yielded s ∧
        Posted payload (sheetsFor s employee week.start))
      (Beside employee week.start others yielded) := by
  unfold postTimesheet
  refine Ends.bind ((alreadyHolds_ends hexisting).conseq (fun _ h => h) (fun _ _ h => h)
    fun s h => h.beside) fun held => ?_
  split
  · -- the lines are there and approved: nothing is written
    obtain ⟨sheet, rfl, -, hstatus⟩ := hexisting
    refine Ends.pure fun s hs => ⟨hs.1.beside, ?_⟩
    obtain ⟨row, lines, hrow, hlines, hperm⟩ := hs.2 rfl
    obtain rfl := (List.cons.inj hrow).1
    rw [hs.1.mine]
    exact ⟨sheet, lines, rfl, hstatus, hlines, hperm⟩
  · -- the lines are there and the timesheet is a draft: it is approved
    rename_i timesheet owner
    obtain ⟨sheet, rfl, hid, hstatus⟩ := hexisting
    have hid : sheet.timesheetId = timesheet := hid
    subst hid
    intro s hs
    obtain ⟨row, lines, hrow, hlines, hperm⟩ := hs.2 rfl
    obtain rfl := (List.cons.inj hrow).1
    refine Ends.bind approveTimesheet_ends (fun _ => Ends.pure fun t ht => ⟨ht.beside, ?_⟩) s hs.1
    rw [ht.mine]
    exact ⟨_, lines, rfl, rfl, hlines, hperm⟩
  · exact (replaceTimesheet_ends hunits hexisting).conseq (fun _ h => h.1) (fun _ _ h => h)
      fun _ h => h

end Calls

/-! ## One person's week -/

section StaffWeek

variable {net : Call → Fate PayrollError} {db : Database} {prepared : Prepared} {staff : Staff}
  {employee : ℕ} {I : Posting → Prop}

/-- What every call that the posting of an employee's week may make preserves. -/
structure CallsGuard (net : Call → Fate PayrollError) (employee : ℕ) (start : ℤ)
    (existing : Option PostedTimesheet) (I : Posting → Prop) : Prop where
  revert : ∀ found ∈ existing, found.status = .approved →
    Guards net I (revertTimesheet found.timesheetId)
  delete : ∀ found ∈ existing, found.status = .approved ∨ found.status = .draft →
    Guards net I (deleteTimesheet found.timesheetId)
  approve : ∀ found ∈ existing, found.status = .draft →
    Guards net I (approveTimesheet found.timesheetId)
  create : ∀ lines, Guards net I do
    let timesheet ← createTimesheet employee start lines
    approveTimesheet timesheet

lemma alreadyHolds_guards {existing : Option PostedTimesheet} {payload : List TimesheetLinePayload} :
    Guards net I (alreadyHolds existing payload) := by
  unfold alreadyHolds
  rcases existing with _ | found
  · exact Guards.pure
  · exact Guards.bind (Guards.bind Guards.ask fun _ => Guards.compute) fun _ => Guards.pure

lemma clearExisting_guards {start : ℤ} {existing : Option PostedTimesheet}
    (h : CallsGuard net employee start existing I) : Guards net I (clearExisting existing) := by
  unfold clearExisting
  rcases existing with _ | ⟨id, owner, status⟩
  · exact Guards.pure
  · unfold clearTimesheet revertToDraft
    rcases status with _ | _ | name
    · exact Guards.bind Guards.pure fun _ => h.delete _ rfl (.inr rfl)
    · exact Guards.bind (h.revert _ rfl rfl) fun _ => h.delete _ rfl (.inl rfl)
    · -- a timesheet that is neither a draft nor approved stops the posting before any call
      intro s hs
      exact hs

lemma postTimesheet_guards {week : WeekWindow} {payload : List TimesheetLinePayload}
    {existing : Option PostedTimesheet} (h : CallsGuard net employee week.start existing I) :
    Guards net I (postTimesheet db employee week payload existing) := by
  unfold postTimesheet
  refine Guards.bind alreadyHolds_guards fun _ => ?_
  split
  · exact Guards.pure
  · exact Guards.bind (h.approve _ rfl rfl) fun _ => Guards.pure
  · unfold replaceTimesheet
    refine Guards.bind (clearExisting_guards h) fun _ => Guards.bind Guards.compute fun _ => ?_
    intro s hs
    have hmade := h.create payload s hs
    rcases hcreate : (createTimesheet employee week.start payload).run net s with ⟨_ | id, t⟩
    · rw [run_bind_of_error hcreate] at hmade ⊢
      exact hmade
    · rw [run_bind_of_ok hcreate] at hmade ⊢
      rcases happrove : (approveTimesheet id).run net t with ⟨_ | _, u⟩
      · rw [happrove] at hmade
        rw [run_bind_of_error happrove]
        exact hmade
      · rw [happrove] at hmade
        rw [run_bind_of_ok happrove]
        exact hmade

/-- **The frame of one person's week**: what the calls preserve that it may make. -/
lemma postOneStaffWeek_guards
    (h : ∀ link employee, staff.xeroUserId = some link → link.employee = some employee →
      CallsGuard net employee prepared.week.start (timesheetFor prepared.existing employee) I) :
    Guards net I (postOneStaffWeek db prepared staff) := by
  unfold postOneStaffWeek
  refine Guards.ite (fun _ => Guards.pure) fun _ => ?_
  rcases hlink : staff.xeroUserId with _ | link
  · exact Guards.pure
  · rcases hemployee : link.employee with _ | employee
    · simp only [XeroUserId.uuid, hemployee, compute_error_bind]
      exact Guards.raise
    · have hcalls := h link employee hlink hemployee
      simp only [XeroUserId.uuid, hemployee, compute_ok_bind]
      refine Guards.bind Guards.compute fun split => Guards.ite (fun _ => ?_) fun _ => ?_
      · exact Guards.bind (clearExisting_guards hcalls).settle fun outcome => by
          rcases outcome with _ | _ <;> exact Guards.pure
      · refine Guards.bind (Guards.bind Guards.compute fun _ =>
          postTimesheet_guards hcalls).settle fun outcome => ?_
        rcases outcome with _ | _ <;> exact Guards.pure

/-- What an hourly person's week is posted with. -/
def weekPayload (lines : List PayLine) (catalogue : LeaveCatalogue) :
    Except PayrollError (List TimesheetLinePayload) := do
  let split ← splitBySurface lines catalogue
  timesheetLinePayloads split.timesheet

/-- What a success says of the person's week: nothing for the salaried, one approved timesheet with the
payload for anyone else. -/
def WeekDone (staff : Staff) (payload : Except PayrollError (List TimesheetLinePayload))
    (mine : List XeroTimesheet) : Prop :=
  if staff.payBasis = some .salary then mine = []
  else ∃ lines, payload = .ok lines ∧ Posted lines mine

lemma quantize_units_timesheetLinePayloads {lines : List PayLine}
    {payload : List TimesheetLinePayload} (h : timesheetLinePayloads lines = .ok payload) :
    ∀ line ∈ payload, quantize line.units = line.units := by
  unfold timesheetLinePayloads at h
  obtain ⟨items, -, hpayload⟩ := bind_eq_ok.mp h
  rw [← pure_eq_ok.mp hpayload]
  intro line hline
  obtain ⟨total, -, rfl⟩ := List.mem_map.mp hline
  exact quantize_quantize _

lemma postOneStaffWeek_ends {link : XeroUserId} {others mine : List XeroTimesheet}
    {yielded : List StaffWeekPostResult} (hlink : staff.xeroUserId = some link)
    (hemployee : link.employee = some employee)
    (hactive : staff.isActiveBetween prepared.week.start prepared.week.finish = true)
    (hexisting : Describes (timesheetFor prepared.existing employee) mine) :
    Ends net (Week employee prepared.week.start others yielded mine)
      (postOneStaffWeek db prepared staff)
      (fun result s => Beside employee prepared.week.start others yielded s ∧
        (result.success = true →
          WeekDone staff (weekPayload (prepared.linesOf staff.id) prepared.catalogue)
            (sheetsFor s employee prepared.week.start)))
      (Beside employee prepared.week.start others yielded) := by
  unfold postOneStaffWeek
  simp only [hactive, not_true_eq_false, if_false, hlink, XeroUserId.uuid, hemployee, compute_ok_bind]
  intro s hs
  rcases hsplit : splitBySurface (prepared.linesOf staff.id) prepared.catalogue with e | split
  · exact hs.beside
  · rw [compute_ok_bind]
    refine Ends.ite (fun hsalary => ?_) (fun hhourly => ?_) s hs
    · refine Ends.bind (Ends.settle (clearExisting_ends hexisting)) fun outcome => ?_
      rcases outcome with error | _
      · refine Ends.pure fun t ht => ⟨ht.2 ⟨error, rfl⟩, nofun⟩
      · refine Ends.pure fun t ht => ⟨(ht.1 _ rfl).beside, fun _ => ?_⟩
        unfold WeekDone
        rw [if_pos hsalary]
        exact (ht.1 _ rfl).mine
    · have hpost : Ends net (Week employee prepared.week.start others yielded mine)
          (postSplit db split employee prepared.week (timesheetFor prepared.existing employee))
          (fun _ s => Beside employee prepared.week.start others yielded s ∧
            ∃ payload, timesheetLinePayloads split.timesheet = .ok payload ∧
              Posted payload (sheetsFor s employee prepared.week.start))
          (Beside employee prepared.week.start others yielded) := by
        unfold postSplit
        rcases hpayload : timesheetLinePayloads split.timesheet with e | payload
        · exact Ends.raise fun t ht => ht.beside
        · rw [compute_ok_bind]
          exact (postTimesheet_ends (quantize_units_timesheetLinePayloads hpayload)
            hexisting).conseq (fun _ h => h) (fun _ _ h => ⟨h.1, payload, rfl, h.2⟩) fun _ h => h
      refine Ends.bind (Ends.settle hpost) fun outcome => ?_
      rcases outcome with error | _
      · refine Ends.pure fun t ht => ⟨ht.2 ⟨error, rfl⟩, nofun⟩
      · refine Ends.pure fun t ht => ⟨(ht.1 _ rfl).1, fun _ => ?_⟩
        obtain ⟨-, payload, hpayload, hposted⟩ := ht.1 _ rfl
        unfold WeekDone weekPayload
        rw [if_neg hhourly, hsplit]
        exact ⟨payload, hpayload, hposted⟩

lemma postOneStaffWeek_staffId : Ends net I (postOneStaffWeek db prepared staff)
    (fun result _ => result.staffId = staff.id) fun _ => True := by
  unfold postOneStaffWeek
  refine Ends.ite (fun _ => Ends.pure fun _ _ => rfl) fun _ => ?_
  rcases staff.xeroUserId with _ | link
  · exact Ends.pure fun _ _ => rfl
  · refine Ends.bind Ends.trivial fun employee => Ends.bind Ends.trivial fun split =>
      Ends.ite (fun _ => ?_) fun _ => ?_
    · refine Ends.bind Ends.trivial fun outcome => ?_
      rcases outcome with _ | _ <;> exact Ends.pure fun _ _ => rfl
    · refine Ends.bind Ends.trivial fun outcome => ?_
      rcases outcome with _ | _ <;> exact Ends.pure fun _ _ => rfl

/-- A timesheet that was listed is its employee's while it is there. -/
def Owned (existing : List PostedTimesheet) (s : Posting) : Prop :=
  ∀ found ∈ existing, found.timesheetId < s.xero.timesheets.next ∧
    ∀ sheet ∈ s.xero.timesheets.rows, sheet.timesheetId = found.timesheetId →
      sheet.employeeId = some found.employeeId

/-- What one person's posting leaves of another's week. -/
structure Aside (existing : List PostedTimesheet) (employee : ℕ) (start : ℤ)
    (mine : List XeroTimesheet) (yielded : List StaffWeekPostResult) (s : Posting) : Prop where
  owned : Owned existing s
  mine : sheetsFor s employee start = mine
  yielded : s.yielded = yielded

lemma employeeId_of_timesheetFor {existing : List PostedTimesheet} {found : PostedTimesheet}
    (h : timesheetFor existing employee = some found) :
    found ∈ existing ∧ found.employeeId = employee :=
  ⟨List.mem_of_find?_eq_some h, by simpa using List.find?_some h⟩

section Aside

variable {existing : List PostedTimesheet} {other : ℕ} {start : ℤ} {mine : List XeroTimesheet}
  {yielded : List StaffWeekPostResult} {s : Posting} {id : ℕ}

lemma Owned.markTimesheet {status : TimesheetStatus} (h : Owned existing s) :
    Owned existing { s with xero := s.xero.markTimesheet id status } := by
  intro found hfound
  obtain ⟨hlt, hrows⟩ := h found hfound
  refine ⟨Nat.lt_succ_of_lt hlt, fun sheet hsheet hid => ?_⟩
  rcases mem_markTimesheet.mp hsheet with ⟨hrow, -⟩ | ⟨row, hrow, -, rfl⟩
  · exact hrows sheet hrow hid
  · exact hrows row hrow hid

lemma Aside.markTimesheet {status : TimesheetStatus} (h : Aside existing employee start mine yielded s)
    (hother : ∀ sheet ∈ s.xero.timesheets.rows, sheet.timesheetId = id →
      sheet.employeeId = some other) (hne : other ≠ employee) :
    Aside existing employee start mine yielded
      { s with xero := s.xero.markTimesheet id status } := by
  have hfor : ∀ sheet ∈ s.xero.timesheets.rows, sheet.timesheetId = id →
      isFor employee start sheet = false := by
    intro sheet hsheet hid
    simp [isFor, hother sheet hsheet hid, hne]
  refine ⟨h.owned.markTimesheet, ?_, h.yielded⟩
  rw [← h.mine]
  exact Register.filter_update (XeroTimesheet.timesheetId_withStatus status) hfor hfor

lemma Owned.remove (h : Owned existing s) :
    Owned existing (s.withTimesheets (s.xero.timesheets.remove id)) := by
  intro found hfound
  obtain ⟨hlt, hrows⟩ := h found hfound
  exact ⟨Nat.lt_succ_of_lt hlt, fun sheet hsheet => hrows sheet (List.mem_of_mem_filter hsheet)⟩

lemma Aside.remove (h : Aside existing employee start mine yielded s)
    (hother : ∀ sheet ∈ s.xero.timesheets.rows, sheet.timesheetId = id →
      sheet.employeeId = some other) (hne : other ≠ employee) :
    Aside existing employee start mine yielded
      (s.withTimesheets (s.xero.timesheets.remove id)) := by
  refine ⟨h.owned.remove, ?_, h.yielded⟩
  rw [← h.mine]
  refine Register.filter_remove fun sheet hsheet hid => ?_
  simp [isFor, hother sheet hsheet hid, hne]

lemma Owned.add {lines : List TimesheetLine} (h : Owned existing s) :
    Owned existing (s.withTimesheets (s.xero.timesheets.add fun id =>
      ⟨id, some other, some start, some .draft, lines⟩)) := by
  intro found hfound
  obtain ⟨hlt, hrows⟩ := h found hfound
  refine ⟨Nat.lt_succ_of_lt hlt, fun sheet hsheet hid => ?_⟩
  rcases List.mem_append.mp hsheet with hold | hnew
  · exact hrows sheet hold hid
  · obtain rfl := List.mem_singleton.mp hnew
    have hnext : s.xero.timesheets.next = found.timesheetId := hid
    omega

lemma Aside.add {lines : List TimesheetLine} (h : Aside existing employee start mine yielded s)
    (hne : other ≠ employee) : Aside existing employee start mine yielded
      (s.withTimesheets (s.xero.timesheets.add fun id =>
        ⟨id, some other, some start, some .draft, lines⟩)) := by
  refine ⟨h.owned.add, ?_, h.yielded⟩
  rw [← h.mine]
  unfold sheetsFor
  rw [Register.rows_add, List.filter_append]
  simp [isFor, hne]

lemma owned_callsGuard {found? : Option PostedTimesheet} :
    CallsGuard net other start found? (Owned existing) where
  revert _ _ _ := Ends.guards (change_ends
    (fun _ hs => ⟨hs.markTimesheet, hs.markTimesheet⟩) fun _ hs => hs)
  delete _ _ _ := Ends.guards (change_ends (fun _ hs => ⟨hs.remove, hs.remove⟩) fun _ hs => hs)
  approve _ _ _ := Ends.guards (change_ends
    (fun _ hs => ⟨hs.markTimesheet, hs.markTimesheet⟩) fun _ hs => hs)
  create _ := Ends.guards (Ends.bind (Q := fun _ => Owned existing)
    (change_ends (fun _ hs => ⟨hs.add, hs.add⟩) fun _ hs => hs) fun _ =>
      change_ends (fun _ hs => ⟨hs.markTimesheet, hs.markTimesheet⟩) fun _ hs => hs)

/-- **Anyone else's posting leaves the week.** -/
lemma aside_callsGuard (hne : other ≠ employee) : CallsGuard net other start
    (timesheetFor existing other) (Aside existing employee start mine yielded) := by
  have hlisted : ∀ found ∈ timesheetFor existing other, ∀ s,
      Aside existing employee start mine yielded s → ∀ sheet ∈ s.xero.timesheets.rows,
        sheet.timesheetId = found.timesheetId → sheet.employeeId = some other := by
    intro found hfound s hs sheet hsheet hid
    obtain ⟨hmem, howner⟩ := employeeId_of_timesheetFor hfound
    rw [(hs.owned found hmem).2 sheet hsheet hid, howner]
  constructor
  · intro found hfound _
    refine Ends.guards (change_ends (fun s hs => ?_) fun _ hs => hs)
    exact ⟨hs.markTimesheet (hlisted found hfound s hs) hne,
      hs.markTimesheet (hlisted found hfound s hs) hne⟩
  · intro found hfound _
    refine Ends.guards (change_ends (fun s hs => ?_) fun _ hs => hs)
    exact ⟨hs.remove (hlisted found hfound s hs) hne, hs.remove (hlisted found hfound s hs) hne⟩
  · intro found hfound _
    refine Ends.guards (change_ends (fun s hs => ?_) fun _ hs => hs)
    exact ⟨hs.markTimesheet (hlisted found hfound s hs) hne,
      hs.markTimesheet (hlisted found hfound s hs) hne⟩
  · intro lines
    refine Ends.guards (Ends.bind (Q := fun id s => Aside existing employee start mine yielded s ∧
      ∀ sheet ∈ s.xero.timesheets.rows, sheet.timesheetId = id → sheet.employeeId = some other)
      (change_ends (fun s hs => ⟨⟨hs.add hne, fun sheet hsheet hid => ?_⟩, hs.add hne⟩)
        fun _ hs => hs) fun id => change_ends (fun s hs => ?_) fun _ hs => hs.1)
    · rcases List.mem_append.mp hsheet with hold | hnew
      · have hlt := s.xero.timesheets.below sheet hold
        have hnext : sheet.timesheetId = s.xero.timesheets.next := hid
        omega
      · rw [List.mem_singleton.mp hnew]
    · exact ⟨hs.1.markTimesheet hs.2 hne, hs.1.markTimesheet hs.2 hne⟩

/-- **Nobody's posting touches what is paid.** -/
lemma paid_callsGuard {found? : Option PostedTimesheet} {sheet : XeroTimesheet}
    (hpaid : ∀ found ∈ found?, found.timesheetId = sheet.timesheetId →
      found.status ≠ .draft ∧ found.status ≠ .approved) :
    CallsGuard net employee start found? (fun s => sheet ∈ s.xero.timesheets.rows) := by
  have hmark : ∀ (id : ℕ) (status : TimesheetStatus) (s : Posting), id ≠ sheet.timesheetId →
      sheet ∈ s.xero.timesheets.rows →
      sheet ∈ (s.xero.markTimesheet id status).timesheets.rows := fun id status s hne hsheet =>
    mem_markTimesheet.mpr (.inl ⟨hsheet, hne.symm⟩)
  constructor
  · intro found hfound hstatus
    have hne : found.timesheetId ≠ sheet.timesheetId :=
      fun heq => (hpaid found hfound heq).2 hstatus
    exact Ends.guards (change_ends (fun s hs => ⟨hmark _ _ s hne hs, hmark _ _ s hne hs⟩)
      fun _ hs => hs)
  · intro found hfound hstatus
    have hne : found.timesheetId ≠ sheet.timesheetId := fun heq =>
      hstatus.elim (hpaid found hfound heq).2 (hpaid found hfound heq).1
    have hkept : ∀ s : Posting, sheet ∈ s.xero.timesheets.rows →
        sheet ∈ (s.xero.timesheets.remove found.timesheetId).rows := fun s hs =>
      List.mem_filter.mpr ⟨hs, by simpa using hne.symm⟩
    exact Ends.guards (change_ends (fun s hs => ⟨hkept s hs, hkept s hs⟩) fun _ hs => hs)
  · intro found hfound hstatus
    have hne : found.timesheetId ≠ sheet.timesheetId :=
      fun heq => (hpaid found hfound heq).1 hstatus
    exact Ends.guards (change_ends (fun s hs => ⟨hmark _ _ s hne hs, hmark _ _ s hne hs⟩)
      fun _ hs => hs)
  · intro lines
    refine Ends.guards (Ends.bind (Q := fun id s => sheet ∈ s.xero.timesheets.rows ∧
      id ≠ sheet.timesheetId) (change_ends (fun s hs => ?_) fun _ hs => hs) fun id =>
        change_ends (fun s hs => ⟨hmark id _ s hs.2 hs.1, hmark id _ s hs.2 hs.1⟩)
          fun _ hs => hs.1)
    have hlt := s.xero.timesheets.below sheet hs
    have hkept := List.mem_append_left [(⟨s.xero.timesheets.next, some employee, some start,
      some .draft, lines.map TimesheetLinePayload.line⟩ : XeroTimesheet)] hs
    exact ⟨⟨hkept, hlt.ne'⟩, hkept⟩

end Aside

end StaffWeek

end Payroll

end Docketworks
