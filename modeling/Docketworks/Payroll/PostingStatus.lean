import Docketworks.Payroll.LeaveSettled

/-!
# The check of a posted week agrees with the run

What a run posts and what the check compares are the same lines, split the same way.

* `leave_of_attempt` — what a run that reports a person leaves of her leave.
* `units_weekPayload` — what an hourly person's timesheet comes to.
* `staffWeekPosting_ends` — the figures of one row of the check.
* `posting_status_agrees` — a person reported posted is reported a match.
-/

namespace Docketworks

open Library Library.Remote

namespace Payroll

/-! ## What the run leaves -/

section Run

variable {attempt : Attempt} {s : Posting} {result : StaffWeekPostResult} {staff : Staff}

lemma callsGuard_of_withTimesheets {net : Call → Fate PayrollError} {employee : ℕ} {start : ℤ}
    {found? : Option PostedTimesheet} {I : Posting → Prop}
    (h : ∀ s timesheets, I s → I (s.withTimesheets timesheets)) :
    CallsGuard net employee start found? I where
  revert _ _ _ := Ends.guards (change_ends (fun s hs => ⟨h s _ hs, h s _ hs⟩) fun _ hs => hs)
  delete _ _ _ := Ends.guards (change_ends (fun s hs => ⟨h s _ hs, h s _ hs⟩) fun _ hs => hs)
  approve _ _ _ := Ends.guards (change_ends (fun s hs => ⟨h s _ hs, h s _ hs⟩) fun _ hs => hs)
  create _ := Guards.bind
    (Ends.guards (change_ends (fun s hs => ⟨h s _ hs, h s _ hs⟩) fun _ hs => hs)) fun _ =>
      Ends.guards (change_ends (fun s hs => ⟨h s _ hs, h s _ hs⟩) fun _ hs => hs)

/-- The leave is as given, and everybody reported is among the people. -/
structure Reports (leave : Register EmployeeLeave.leaveId) (people : List Staff) (s : Posting) : Prop where
  leave : s.xero.leave = leave
  people : ∀ result ∈ s.yielded, ∃ person ∈ people, result.staffId = person.id

/-- A run that reports anybody got through everything before its first result, and has not touched leave
since. -/
lemma preflight_of_yielded (hresult : result ∈ (attempt.run s).yielded) :
    ∃ prepared t, (preflight attempt.db attempt.connection attempt.staffIds
        attempt.weekStartDate).run attempt.net { s with yielded := [] } = (.ok prepared, t) ∧
      (attempt.run s).xero.leave = t.xero.leave ∧
      ∃ person ∈ prepared.staff, result.staffId = person.id := by
  rcases hrun : (preflight attempt.db attempt.connection attempt.staffIds
    attempt.weekStartDate).run attempt.net { s with yielded := [] } with ⟨e | prepared, t⟩
  · have hrefused : attempt.Refused s := refused_iff.mpr ⟨e, by
      rw [hrun]
      unfold Attempt.run postPayrollWeek
      rw [run_bind_of_error hrun]⟩
    rw [hrefused.2] at hresult
    cases hresult
  · refine ⟨prepared, t, rfl, ?_⟩
    have hyielded : t.yielded = [] :=
      (preflight_ends.of_ok (P := fun u : Posting => u.xero.timesheets = s.xero.timesheets ∧ u.yielded = [])
        (s := { s with yielded := [] }) ⟨rfl, rfl⟩ hrun).1.2
    have hturns : Guards attempt.net (Reports t.xero.leave prepared.staff)
        ((prepared.staff.take attempt.taken).forM (yieldStaffWeek attempt.db prepared)) := by
      refine Guards.forM fun person hperson => ?_
      have hcalls : Guards attempt.net (Reports t.xero.leave prepared.staff)
          (postOneStaffWeek attempt.db prepared person) :=
        postOneStaffWeek_guards fun _ _ _ _ => callsGuard_of_withTimesheets fun _ _ hs =>
          ⟨hs.leave, hs.people⟩
      refine Ends.guards (Ends.bind ((postOneStaffWeek_staffId.and_guards hcalls).conseq
        (fun _ h => h) (fun _ _ h => h) fun _ h => h.2) fun posted => Ends.write fun u hu => ?_)
      refine ⟨hu.2.leave, fun result hresult => ?_⟩
      rcases List.mem_append.mp hresult with hold | hnew
      · exact hu.2.people result hold
      · rw [List.mem_singleton.mp hnew, hu.1]
        exact ⟨person, List.mem_of_mem_take hperson, rfl⟩
    have hends := hturns t ⟨rfl, by rw [hyielded]; exact List.forall_mem_nil _⟩
    have hfinal : attempt.run s = (((prepared.staff.take attempt.taken).forM
        (yieldStaffWeek attempt.db prepared)).run attempt.net t).2 := by
      unfold Attempt.run postPayrollWeek
      rw [run_bind_of_ok hrun]
    rw [hfinal] at hresult ⊢
    exact ⟨hends.leave, hends.people result hresult⟩

lemma link_of_leaveOf {week : WeekWindow} {linesOf : ℕ → List PayLine} {catalogue : LeaveCatalogue}
    {employee : ℕ} {lines : List PayLine}
    (h : leaveOf week linesOf catalogue staff = .ok (some (employee, lines))) :
    ∃ link, staff.xeroUserId = some link ∧ link.employee = some employee := by
  unfold leaveOf at h
  split at h
  · cases Except.ok.inj h
  · rename_i link hlink
    split at h
    · simp only [bind_eq_ok, pure_eq_ok] at h
      obtain ⟨split, -, whose, hwhose, hsome⟩ := h
      obtain ⟨rfl, -⟩ := Prod.mk.inj (Option.some.inj hsome)
      refine ⟨link, hlink, ?_⟩
      unfold XeroUserId.uuid at hwhose
      split at hwhose
      · rename_i employee hemployee
        rw [hemployee, Except.ok.inj hwhose]
      · cases hwhose
    · cases Except.ok.inj h

/-- **The leave of a person the run reports** is what her lines ask for, beside what spans the week's
ends. -/
lemma leave_of_attempt {week : WeekWindow} {link : XeroUserId} {employee : ℕ}
    (hstart : week.start = attempt.weekStartDate)
    (hstaff : attempt.db.staff.find? staff.id = some staff) (hlink : staff.xeroUserId = some link)
    (hemployee : link.employee = some employee)
    (hactive : staff.isActiveBetween week.start week.finish = true)
    (hown : ∀ other ∈ attempt.db.staff.rows, other.id ∈ attempt.staffIds → other.id ≠ staff.id →
      ∀ link, other.xeroUserId = some link → link.employee ≠ some employee)
    (hresult : result ∈ (attempt.run s).yielded) (hid : result.staffId = staff.id) :
    staff.id ∈ attempt.staffIds ∧
    ∃ split held, splitBySurface (linesOf (weekTimeLines attempt.db week (some attempt.staffIds))
        staff.id) (.load attempt.db) = .ok split ∧
      sortLeave (heldBy employee s.xero.leave) week = .ok held ∧
      paidLeave week employee (attempt.run s).xero.leave =
        quantities split.leaveApi + (held.spanning.map (pays week)).sum := by
  obtain ⟨prepared, t, hrun, hleave, person, hperson, hsame⟩ := preflight_of_yielded hresult
  obtain ⟨hchecks, hcatalogue, hafter, hthrough⟩ := preflight_eq_ok hrun
  obtain ⟨hweek, hlines, hpeople⟩ := checks_eq_ok hchecks
  obtain rfl : week = prepared.week := WeekWindow.ext (hstart.trans hweek.symm)
  obtain ⟨hnodup, hfound⟩ := staffToPost_eq_ok hpeople
  have hself : person = staff := by
    have hfind := (hfound person hperson).1
    rw [← hsame, hid, hstaff] at hfind
    exact (Option.some.inj hfind).symm
  subst hself
  obtain ⟨whose, hwhose⟩ := leaveOf_of_through hthrough person hperson
  have hsplit := hwhose
  unfold leaveOf at hsplit
  simp only [hlink, hactive, if_true, bind_eq_ok, pure_eq_ok] at hsplit
  obtain ⟨split, hsplit, whose', hwhose', rfl⟩ := hsplit
  obtain rfl : whose' = employee := by
    unfold XeroUserId.uuid at hwhose'
    rw [hemployee] at hwhose'
    exact (Except.ok.inj hwhose').symm
  obtain ⟨held, hheld, hpaid⟩ := paidLeave_people hthrough (List.Nodup.of_map _ hnodup) hperson hwhose
    fun other hother hne whose lines hother' heq => by
      obtain ⟨link', hlink', hemployee'⟩ := link_of_leaveOf hother'
      obtain ⟨hfind, hids⟩ := hfound other hother
      refine hown other (Table.mem_of_find? hfind) hids (fun hsameId => hne ?_) link' hlink'
        (heq ▸ hemployee')
      exact List.inj_on_of_nodup_map hnodup hother hperson hsameId
  refine ⟨(hfound person hperson).2, split, held, ?_, hheld, ?_⟩
  · rw [← hsplit, hlines, hcatalogue]
  · rw [hleave, hafter]
    exact hpaid

end Run

/-! ## What the lines come to -/

section Lines

variable {catalogue : LeaveCatalogue} {lines : List PayLine} {split : SurfaceSplit} {db : Database}
  {week : WeekWindow} {staffIds : List ℕ} {id : ℕ}

lemma quantities_splitBySurface (h : splitBySurface lines catalogue = .ok split) :
    quantities split.timesheet = hoursOn catalogue .timesheet lines ∧
      quantities split.leaveApi = hoursOn catalogue .leaveApi lines := by
  unfold splitBySurface at h
  obtain ⟨surfaces, hsurfaces, hsplit⟩ := bind_eq_ok.mp h
  rw [← pure_eq_ok.mp hsplit]
  have hread := mapM_eq_ok.mp hsurfaces
  have hon : ∀ surface, quantities ((surfaces.filter fun line => line.2 = surface).map Prod.fst) =
      hoursOn catalogue surface lines := by
    intro surface
    clear h hsurfaces hsplit
    unfold quantities
    induction hread with
    | nil => rfl
    | @cons line first lines rest hline _ ih =>
        obtain ⟨own, hown, rfl⟩ := map_eq_ok.mp hline
        rw [hoursOn_cons, ← ih, hown]
        by_cases hsame : own = surface <;> simp [hsame]
  exact ⟨hon .timesheet, hon .leaveApi⟩

/-- **An hourly person's timesheet** comes to the hours of the lines that reach it. -/
lemma units_weekPayload {payload : List TimesheetLinePayload}
    (h : weekPayload lines catalogue = .ok payload) :
    (payload.map TimesheetLinePayload.units).sum = hoursOn catalogue .timesheet lines := by
  unfold weekPayload at h
  obtain ⟨split, hsplit, hpayload⟩ := bind_eq_ok.mp h
  unfold timesheetLinePayloads at hpayload
  obtain ⟨items, hitems, hpayload⟩ := bind_eq_ok.mp hpayload
  rw [← pure_eq_ok.mp hpayload, ← (quantities_splitBySurface hsplit).1, List.map_map]
  obtain ⟨hsum, -, hdecimal⟩ := @foldl_tally _ _ _ []
    (fun item : ItemLine => (item.1.accountingDate, item.2.xeroText))
    (fun item => item.1.quantity) items (fun item _ => item.1.quantity_scale) List.nodup_nil
    (List.forall_mem_nil _)
  refine (congrArg List.sum (List.map_congr_left fun total htotal =>
    quantize_of_isDecimal (hdecimal total htotal))).trans (hsum.trans ?_)
  have hread := mapM_eq_ok.mp hitems
  unfold quantities
  clear h hpayload hsum hdecimal hitems
  simp only [List.map_nil, List.sum_nil, zero_add]
  generalize split.timesheet = posted at hread
  induction hread with
  | nil => rfl
  | cons hline _ ih =>
      obtain ⟨item, -, rfl⟩ := map_eq_ok.mp hline
      rw [List.map_cons, List.map_cons, List.sum_cons, List.sum_cons, ih]

lemma linesOf_weekTimeLines (h : id ∈ staffIds) :
    linesOf (weekTimeLines db week (some staffIds)) id = linesOf (weekTimeLines db week none) id := by
  unfold linesOf weekTimeLines
  rw [List.filter_filter, List.filter_filter]
  refine List.filter_congr fun line _ => ?_
  by_cases hline : line.staff = some id
  · simp [hline, h]
  · simp [hline]

lemma isDecimal_hoursOn {surface : PostingSurface} : IsDecimal 3 (hoursOn catalogue surface lines) := by
  refine isDecimal_sum fun q hq => ?_
  obtain ⟨line, -, rfl⟩ := List.mem_map.mp hq
  exact line.quantity_scale

lemma hours_linesOf : hours (linesOf (weekTimeLines db week none) id) =
    linesOf (weekTimeLines db week none) id := by
  unfold hours
  refine List.filter_eq_self.mpr fun line hline => ?_
  have hmem := List.mem_of_mem_filter (List.mem_of_mem_filter hline)
  exact (List.mem_filter.mp hmem).2

end Lines

/-! ## What the check reports -/

/-- The figures of one row of the check, of what is recorded and what stands. -/
structure Figures (week : WeekWindow) (found : List PostedTimesheet) (recorded : ℕ → List PayLine)
    (catalogue : LeaveCatalogue) (staff : Staff) (link : XeroUserId) (employee : ℕ) (s : Posting)
    (row : StaffWeekPosting) : Prop where
  staffId : row.staffId = staff.id
  payBasis : row.payBasis = staff.payBasis
  recorded : ∃ figures, categorise (recorded staff.id) catalogue = .ok figures ∧
    row.recordedTimesheetHours = figures.timesheet ∧ row.recordedLeaveHours = figures .leaveApi
  posted : row.posted = (timesheetByText found link).isSome
  timesheet : ∀ listed ∈ timesheetByText found link, ∃ sheet lines,
    s.xero.timesheets.find? listed.timesheetId = some sheet ∧ readLines sheet = .ok lines ∧
      row.postedTimesheetHours = quantize (lines.map TimesheetLinePayload.units).sum
  leave : ∃ held, sortLeave (heldBy employee s.xero.leave) week = .ok held ∧
    leaveTotal held week = .ok row.postedLeaveHours

section Check

variable {net : Call → Fate PayrollError} {week : WeekWindow} {found : List PostedTimesheet}
  {recorded : ℕ → List PayLine} {catalogue : LeaveCatalogue} {staff : Staff} {link : XeroUserId}
  {employee : ℕ} {s : Posting}

lemma postedTotal_ends {listed : Option PostedTimesheet} :
    Ends net (· = s) (postedTotal listed) (fun hours t => t = s ∧ ∀ sheet ∈ listed, ∃ row lines,
      s.xero.timesheets.find? sheet.timesheetId = some row ∧ readLines row = .ok lines ∧
        hours = quantize (lines.map TimesheetLinePayload.units).sum) fun _ => True := by
  unfold postedTotal
  rcases listed with _ | sheet
  · exact Ends.pure fun t ht => ⟨ht, by simp⟩
  · unfold timesheetLines getTimesheet
    refine Ends.bind (Q := fun lines t => t = s ∧ ∃ row,
      s.xero.timesheets.find? sheet.timesheetId = some row ∧ readLines row = .ok lines)
      (Ends.bind (Q := fun row t => t = s ∧ s.xero.timesheets.find? sheet.timesheetId = some row)
        (Ends.ask (fun t row ht hrow => ⟨ht, ?_⟩) fun _ _ => trivial) fun row =>
          Ends.compute (fun lines hlines t ht => ⟨ht.1, row, ht.2, hlines⟩) fun _ _ => trivial)
      fun lines => Ends.pure fun t ht => ⟨ht.1, ?_⟩
    · subst ht
      split at hrow
      · rename_i found hfound
        rw [hfound, Except.ok.inj hrow]
      · cases hrow
    · rintro _ ⟨⟩
      obtain ⟨row, hrow, hlines⟩ := ht.2
      exact ⟨row, lines, hrow, hlines, rfl⟩

lemma postedLeaveHours_ends : Ends net (· = s) (postedLeaveHours employee week)
    (fun hours t => t = s ∧ ∃ held, sortLeave (heldBy employee s.xero.leave) week = .ok held ∧
      leaveTotal held week = .ok hours) fun _ => True := by
  unfold postedLeaveHours weekLeave getEmployeeLeaves
  refine Ends.bind (Q := fun held t => t = s ∧
    sortLeave (heldBy employee s.xero.leave) week = .ok held)
    (Ends.bind (Q := fun leaves t => t = s ∧ leaves = heldBy employee s.xero.leave)
      (Ends.ask (fun t leaves ht hleaves => ⟨ht, ?_⟩) fun _ _ => trivial) fun leaves =>
        Ends.compute (fun held hheld t ht => ⟨ht.1, ht.2 ▸ hheld⟩) fun _ _ => trivial)
    fun held => Ends.compute (fun hours hhours t ht => ⟨ht.1, held, ht.2, hhours⟩) fun _ _ => trivial
  subst ht
  exact (Except.ok.inj hleaves).symm

/-- **One row of the check.** -/
lemma staffWeekPosting_ends (hemployee : link.employee = some employee) :
    Ends net (· = s) (staffWeekPosting week found recorded catalogue staff link)
      (fun row t => t = s ∧ Figures week found recorded catalogue staff link employee s row)
      fun _ => True := by
  unfold staffWeekPosting
  rcases hfigures : categorise (recorded staff.id) catalogue with e | figures
  · exact Ends.raise fun _ _ => trivial
  · simp only [compute_ok_bind, XeroUserId.uuid, hemployee]
    refine Ends.bind postedTotal_ends fun hours => ?_
    intro t ht
    obtain ⟨rfl, hhours⟩ := ht
    refine Ends.bind postedLeaveHours_ends (fun leave => Ends.pure fun u hu => ⟨hu.1, ?_⟩) t rfl
    exact ⟨rfl, rfl, ⟨figures, hfigures, rfl, rfl⟩, rfl, hhours, hu.2⟩

lemma statusRows_ends {row : Staff → XeroUserId → PayrollCall StaffWeekPosting}
    {R : Staff → XeroUserId → StaffWeekPosting → Prop} {people : List Staff}
    (h : ∀ person ∈ people, ∀ link, person.xeroUserId = some link →
      Ends net (· = s) (row person link) (fun result t => t = s ∧ R person link result) fun _ => True) :
    Ends net (· = s) (statusRows row people)
      (fun rows t => t = s ∧
        (∀ result ∈ rows, ∃ person ∈ people, ∃ link, person.xeroUserId = some link ∧
          R person link result) ∧
        ∀ person ∈ people, ∀ link, person.xeroUserId = some link → ∃ result ∈ rows, R person link result)
      fun _ => True := by
  induction people with
  | nil => exact Ends.pure fun t ht => ⟨ht, by simp, by simp⟩
  | cons person people ih =>
      obtain ⟨hperson, hpeople⟩ := List.forall_mem_cons.mp h
      have ih := ih hpeople
      unfold statusRows
      split
      · rename_i hnone
        refine ih.conseq (fun _ h => h) (fun rows t ht => ⟨ht.1, ?_, ?_⟩) fun _ h => h
        · intro result hresult
          obtain ⟨other, hother, hrest⟩ := ht.2.1 result hresult
          exact ⟨other, List.mem_cons_of_mem _ hother, hrest⟩
        · refine List.forall_mem_cons.mpr ⟨fun link hlink => ?_, ht.2.2⟩
          rw [hnone] at hlink
          cases hlink
      · rename_i link hlink
        intro t ht
        refine Ends.bind (hperson link hlink) (fun first => ?_) t ht
        rintro u ⟨rfl, hfirst⟩
        refine Ends.bind ih (fun rest => Ends.pure fun v hv => ⟨hv.1, ?_, ?_⟩) u rfl
        · refine List.forall_mem_cons.mpr ⟨⟨person, List.mem_cons_self, link, hlink, hfirst⟩, ?_⟩
          intro result hresult
          obtain ⟨other, hother, hrest⟩ := hv.2.1 result hresult
          exact ⟨other, List.mem_cons_of_mem _ hother, hrest⟩
        · refine List.forall_mem_cons.mpr ⟨fun link' hlink' => ?_, fun other hother link' hlink' => ?_⟩
          · rw [hlink] at hlink'
            obtain rfl := Option.some.inj hlink'
            exact ⟨first, List.mem_cons_self, hfirst⟩
          · obtain ⟨result, hresult, hR⟩ := hv.2.2 other hother link' hlink'
            exact ⟨result, List.mem_cons_of_mem _ hresult, hR⟩

end Check

/-! ## Agreement -/

section Agreement

variable {attempt : Attempt} {s : Posting} {result : StaffWeekPostResult} {staff : Staff}
  {week : WeekWindow} {link : XeroUserId} {employee : ℕ} {found : List PostedTimesheet}
  {row : StaffWeekPosting}

lemma figures_match (hstart : week.start = attempt.weekStartDate)
    (hstaff : attempt.db.staff.find? staff.id = some staff) (hlink : staff.xeroUserId = some link)
    (hemployee : link.employee = some employee) (hspelling : link.spelling = 0)
    (hactive : staff.isActiveBetween week.start week.finish = true)
    (hown : ∀ other ∈ attempt.db.staff.rows, other.id ∈ attempt.staffIds → other.id ≠ staff.id →
      ∀ link, other.xeroUserId = some link → link.employee ≠ some employee)
    (hspanning : ∀ held, sortLeave (heldBy employee s.xero.leave) week = .ok held → held.spanning = [])
    (hresult : result ∈ (attempt.run s).yielded) (hid : result.staffId = staff.id)
    (hsuccess : result.success = true)
    (hlists : Lists week found (attempt.run s).xero.timesheets.rows)
    (hrow : Figures week found (linesOf (weekTimeLines attempt.db week none)) (.load attempt.db) staff
      link employee (attempt.run s) row) :
    row.matches = true ∧ (staff.payBasis ≠ some .salary →
      row.postedTimesheetHours + row.postedLeaveHours +
        hoursOn (.load attempt.db) .xeroComputed
          (linesOf (weekTimeLines attempt.db week none) staff.id) =
        quantities (linesOf (weekTimeLines attempt.db week none) staff.id)) := by
  have hdone := week_of_attempt hstart hstaff hlink hemployee hactive hown s result hresult hid hsuccess
  obtain ⟨hasked, split, held, hsplit, hheld, hpaid⟩ :=
    leave_of_attempt hstart hstaff hlink hemployee hactive hown hresult hid
  rw [hspanning held hheld, List.map_nil, List.sum_nil, add_zero,
    (quantities_splitBySurface hsplit).2, linesOf_weekTimeLines hasked] at hpaid
  obtain ⟨-, hbasis, ⟨figures, hfigures, htimesheetHours, hleaveHours⟩, hposted, htimesheet, held', hheld',
    hleave⟩ := hrow
  obtain ⟨hon, honLeave, -, hall⟩ := categorise_eq_ok hfigures
  rw [hours_linesOf] at hon honLeave hall
  have hleave' : row.postedLeaveHours = row.recordedLeaveHours := by
    rw [leaveTotal_eq hheld' hleave, hpaid, hleaveHours, honLeave]
    exact quantize_of_isDecimal isDecimal_hoursOn
  have htext : timesheetByText found link = timesheetFor found employee := by
    unfold timesheetByText
    rw [if_pos hspelling, hemployee]
    rfl
  rw [htext] at hposted htimesheet
  have hdescribes : Describes (timesheetFor found employee)
      (sheetsFor (attempt.run s) employee week.start) := hlists.describes employee
  unfold WeekDone at hdone
  unfold StaffWeekPosting.matches
  rw [hbasis, hleave']
  by_cases hsalary : staff.payBasis = some .salary
  · -- nothing stands for someone on a salary
    rw [if_pos hsalary] at hdone
    rw [hdone] at hdescribes
    rw [if_pos hsalary]
    rcases hlisted : timesheetFor found employee with _ | listed
    · rw [hlisted] at hposted
      exact ⟨by simp [hposted], fun h => absurd hsalary h⟩
    · rw [hlisted] at hdescribes
      obtain ⟨sheet, hsheet, -⟩ := hdescribes
      cases hsheet
  · -- the timesheet that stands holds the payload
    rw [if_neg hsalary] at hdone
    rw [if_neg hsalary]
    obtain ⟨payload, hpayload, sheet, lines, hmine, -, hlines, hperm⟩ := hdone
    rw [hmine] at hdescribes
    rcases hlisted : timesheetFor found employee with _ | listed
    · rw [hlisted] at hdescribes
      cases hdescribes
    · rw [hlisted] at hdescribes hposted
      obtain ⟨same, hsame, hsheetId, -⟩ := hdescribes
      obtain rfl := (List.cons.inj hsame).1
      obtain ⟨read, lines', hread, hlines', hhours⟩ := htimesheet listed hlisted
      have hmem : sheet ∈ (attempt.run s).xero.timesheets.rows :=
        (mem_sheetsFor.mp (hmine ▸ List.mem_cons_self)).1
      have hfind := Register.find?_of_mem hmem
      rw [hsheetId, hread] at hfind
      obtain rfl := Option.some.inj hfind
      obtain rfl := Except.ok.inj (hlines'.symm.trans hlines)
      have hunits : row.postedTimesheetHours = row.recordedTimesheetHours := by
        rw [hhours, (hperm.map _).sum_eq, htimesheetHours, hon]
        unfold Attempt.payload at hpayload
        rw [units_weekPayload hpayload, linesOf_weekTimeLines hasked]
        exact quantize_of_isDecimal isDecimal_hoursOn
      refine ⟨by simp [hposted, hunits], fun _ => ?_⟩
      rw [hunits, htimesheetHours, hon, hleaveHours, honLeave]
      exact hall.symm

/-- **Posting and its check agree.**  A person the run reported posted has her row in the check, and it is
a match; of an hourly person, what is posted and what Xero computes is every hour recorded. -/
theorem posting_status_agrees (s : Posting) (attempt : Attempt) (week : WeekWindow)
    (hstart : week.start = attempt.weekStartDate) (staff : Staff) (link : XeroUserId) (employee : ℕ)
    (hstaff : attempt.db.staff.find? staff.id = some staff) (hlink : staff.xeroUserId = some link)
    (hemployee : link.employee = some employee) (hspelling : link.spelling = 0)
    (hactive : staff.isActiveBetween week.start week.finish = true)
    (hown : ∀ other ∈ attempt.db.staff.rows, other.id ∈ attempt.staffIds → other.id ≠ staff.id →
      ∀ link, other.xeroUserId = some link → link.employee ≠ some employee)
    (hspanning : ∀ held, sortLeave (heldBy employee s.xero.leave) week = .ok held → held.spanning = [])
    (result : StaffWeekPostResult) (hresult : result ∈ (attempt.run s).yielded)
    (hid : result.staffId = staff.id) (hsuccess : result.success = true)
    (net : Call → Fate PayrollError) (rows : List StaffWeekPosting) (after : Posting)
    (hcheck : (weekPostingStatus attempt.db attempt.weekStartDate).run net (attempt.run s) =
      (.ok rows, after)) :
    (∃ row ∈ rows, row.staffId = staff.id) ∧ ∀ row ∈ rows, row.staffId = staff.id →
      row.matches = true ∧ (staff.payBasis ≠ some .salary →
        row.postedTimesheetHours + row.postedLeaveHours +
          hoursOn (.load attempt.db) .xeroComputed
            (linesOf (weekTimeLines attempt.db week none) staff.id) =
          quantities (linesOf (weekTimeLines attempt.db week none) staff.id)) := by
  have hweek : WeekWindow.of attempt.weekStartDate = .ok week := by
    unfold WeekWindow.of
    rw [← hstart, dif_pos week.monday]
  have hends : Ends net (· = attempt.run s) (weekPostingStatus attempt.db attempt.weekStartDate)
      (fun rows _ => ∃ found, Lists week found (attempt.run s).xero.timesheets.rows ∧
        (∀ row ∈ rows, ∃ person ∈ displayableStaff attempt.db week, ∃ link,
          person.xeroUserId = some link ∧ ∃ employee, link.employee = some employee ∧
            Figures week found (linesOf (weekTimeLines attempt.db week none)) (.load attempt.db) person
              link employee (attempt.run s) row) ∧
        ∀ person ∈ displayableStaff attempt.db week, ∀ link, person.xeroUserId = some link →
          ∃ row ∈ rows, row.staffId = person.id) fun _ => True := by
    unfold weekPostingStatus
    rw [hweek, compute_ok_bind]
    refine Ends.bind (existingTimesheets_ends.conseq (fun _ h => h) (fun _ _ h => h)
      fun _ _ => trivial) fun found => ?_
    rintro t ⟨rfl, hlists⟩
    rcases hrecorded : groupedByStaff (weekTimeLines attempt.db week none) with e | recorded
    · exact trivial
    rw [compute_ok_bind]
    have hlines : recorded = linesOf (weekTimeLines attempt.db week none) := by
      unfold groupedByStaff at hrecorded
      split at hrecorded
      · cases hrecorded
      · exact (Except.ok.inj hrecorded).symm
    subst hlines
    refine (statusRows_ends (R := fun person link row => ∃ employee, link.employee = some employee ∧
      Figures week found (linesOf (weekTimeLines attempt.db week none)) (.load attempt.db) person link
        employee (attempt.run s) row) fun person hperson link hlink => ?_).conseq (fun _ h => h)
          (fun rows t ht => ⟨found, hlists, ht.2.1, fun person hperson link hlink => ?_⟩)
          (fun _ h => h) _ rfl
    · obtain ⟨employee, hemployee⟩ : ∃ employee, link.employee = some employee := by
        have hshown := (List.mem_filter.mp hperson).2
        rw [hlink, Bool.and_eq_true_iff] at hshown
        exact Option.isSome_iff_exists.mp hshown.2
      exact (staffWeekPosting_ends hemployee).conseq (fun _ h => h)
        (fun _ _ h => ⟨h.1, employee, hemployee, h.2⟩) fun _ h => h
    · obtain ⟨row, hrow, _, _, hfigures⟩ := ht.2.2 person hperson link hlink
      exact ⟨row, hrow, hfigures.staffId⟩
  obtain ⟨found, hlists, hrows, hshown⟩ := hends.of_ok rfl hcheck
  refine ⟨hshown staff (List.mem_filter.mpr ⟨Table.mem_of_find? hstaff, ?_⟩) link hlink,
    fun row hrow hrowId => ?_⟩
  · rw [hactive, hlink]
    simp [hemployee]
  · obtain ⟨person, hperson, link', hlink', employee', hemployee', hfigures⟩ := hrows row hrow
    have hself : person = staff := Table.eq_of_key_eq (List.mem_of_mem_filter hperson)
      (Table.mem_of_find? hstaff) (hfigures.staffId.symm.trans hrowId)
    subst hself
    obtain rfl := Option.some.inj (hlink'.symm.trans hlink)
    obtain rfl := Option.some.inj (hemployee'.symm.trans hemployee)
    exact figures_match hstart hstaff hlink hemployee hspelling hactive hown hspanning hresult hid
      hsuccess hlists hfigures

/-- The check of an attempt's week, answered throughout: whose rows there are, and which are matches. -/
def Attempt.checked (attempt : Attempt) (s : Posting) : Option (List (ℕ × Bool)) :=
  ((weekPostingStatus attempt.db attempt.weekStartDate).run (fun _ => .served)
    (attempt.run s)).1.toOption.map (List.map fun row => (row.staffId, row.matches))

theorem posting_status_agrees_fitter :
    ∃ rows after, (weekPostingStatus workshopWeek 0).run (fun _ => .served)
        ((answered [1]).run newOrganisation) = (.ok rows, after) ∧
      (∃ row ∈ rows, row.staffId = fitter.id) ∧ ∀ row ∈ rows, row.staffId = fitter.id →
        row.matches = true ∧ (fitter.payBasis ≠ some .salary →
          row.postedTimesheetHours + row.postedLeaveHours + hoursOn (.load workshopWeek) .xeroComputed
            (linesOf (weekTimeLines workshopWeek firstWeek none) fitter.id) =
              quantities (linesOf (weekTimeLines workshopWeek firstWeek none) fitter.id)) := by
  have hsome : ((answered [1]).checked newOrganisation).isSome = true := by
    decide +kernel
  have hany : ((answered [1]).run newOrganisation).yielded.any
      (fun result => result.staffId = fitter.id && result.success) = true := by
    decide +kernel
  rcases hcheck : (weekPostingStatus workshopWeek 0).run (fun _ => .served)
    ((answered [1]).run newOrganisation) with ⟨e | rows, after⟩
  · unfold Attempt.checked at hsome
    rw [show (weekPostingStatus (answered [1]).db (answered [1]).weekStartDate).run (fun _ => .served)
      ((answered [1]).run newOrganisation) = (.error e, after) from hcheck] at hsome
    cases hsome
  · obtain ⟨result, hresult, hfacts⟩ := List.any_eq_true.mp hany
    obtain ⟨hid, hsuccess⟩ := Bool.and_eq_true_iff.mp hfacts
    have hown : ∀ other ∈ workshopWeek.staff.rows, other.id ∈ [1] → other.id ≠ fitter.id →
        ∀ link, other.xeroUserId = some link → link.employee ≠ some 7 := by
      intro other _ hmem hne
      exact absurd (List.mem_singleton.mp hmem) hne
    have hspanning : ∀ held, sortLeave (heldBy 7 newOrganisation.xero.leave) firstWeek = .ok held →
        held.spanning = [] := by
      intro held hheld
      rw [← Except.ok.inj hheld]
      rfl
    exact ⟨rows, after, rfl, posting_status_agrees newOrganisation (answered [1]) firstWeek rfl fitter
      ⟨some 7, 0⟩ 7 (by decide +kernel) rfl rfl rfl (by decide) hown hspanning result hresult
      (of_decide_eq_true hid) hsuccess (fun _ => .served) rows after hcheck⟩

/-- The fitter has leave in Xero since the week before, and none recorded. -/
def leaveGoesOn : Posting :=
  { newOrganisation with xero := { newOrganisation.xero with
      leave := Register.empty.add fun id =>
        ⟨id, 7, some "annual", "Annual Leave", some (-3), some 0,
          [⟨some (-7), some (-1), some 24⟩, ⟨some 0, some 6, some 8⟩]⟩ } }

/-- The check reports no match where leave that spans the week's ends is paid beside what is recorded, nor
for a link in another spelling; and it is refused where two people of the run share an employee. -/
theorem posting_status_disagrees :
    ((answered [1]).outcomes leaveGoesOn = [(1, true)] ∧
      (answered [1]).checked leaveGoesOn = some [(1, false), (2, true), (4, false)]) ∧
    ((answered [4]).outcomes newOrganisation = [(4, true)] ∧
      (answered [4]).checked newOrganisation = some [(1, false), (2, true), (4, false)]) ∧
    ((answered [1, 4]).outcomes newOrganisation = [(1, true), (4, true)] ∧
      (answered [1, 4]).checked newOrganisation = none) := by
  decide +kernel

end Agreement

end Payroll

end Docketworks
