import Docketworks.Payroll.StaffWeek

/-!
# What a sequence of posting attempts leaves of a person's week

Every attempt may be stopped at any of its calls, the call having taken effect or not, and the next one
starts from whatever is there.

* `Attempt` — one posting run, with the database it posts and the fates of its calls.
* `existingTimesheets_ends` — what the timesheet list says of every week.
* `preflight_ends` — nothing before the first result touches a timesheet.
* `weeks_of_attempts` — a success leaves the week done; what was paid stays as it is.
-/

namespace Docketworks

open Library Library.Remote

namespace Payroll

/-! ## The listing -/

section Listing

variable {net : Call → Fate PayrollError} {week : WeekWindow} {found found' : List PostedTimesheet}
  {sheet : XeroTimesheet} {before : List XeroTimesheet} {employee : ℕ}

/-- What a listing says of some timesheets. -/
structure Lists (week : WeekWindow) (found : List PostedTimesheet) (sheets : List XeroTimesheet) :
    Prop where
  describes : ∀ employee, Describes (timesheetFor found employee)
    (sheets.filter (isFor employee week.start))
  rows : ∀ listed ∈ found, ∃ sheet ∈ sheets, sheet.timesheetId = listed.timesheetId ∧
    sheet.employeeId = some listed.employeeId ∧ sheet.status = some listed.status

lemma addFound_lists (h : addFound week found sheet = .ok found') (hlists : Lists week found before) :
    Lists week found' (before ++ [sheet]) := by
  have hold : ∀ listed ∈ found, ∃ row ∈ before ++ [sheet], row.timesheetId = listed.timesheetId ∧
      row.employeeId = some listed.employeeId ∧ row.status = some listed.status := by
    intro listed hlisted
    obtain ⟨row, hrow, hfacts⟩ := hlists.rows listed hlisted
    exact ⟨row, List.mem_append_left _ hrow, hfacts⟩
  unfold addFound at h
  split at h
  · -- a timesheet of another period
    rename_i hstart
    obtain rfl := Except.ok.inj h
    refine ⟨fun employee => ?_, hold⟩
    have hfor : isFor employee week.start sheet = false := by simp [isFor, hstart]
    rw [List.filter_append, List.filter_cons_of_neg (by simp [hfor]), List.filter_nil,
      List.append_nil]
    exact hlists.describes employee
  · rename_i hstart
    have hstart : sheet.startDate = some week.start := not_not.mp hstart
    split at h
    · rename_i owner status howner hstatus
      split at h
      · cases h
      · -- the first timesheet of its employee
        rename_i hnew
        obtain rfl := Except.ok.inj h
        refine ⟨fun employee => ?_, fun listed hlisted => ?_⟩
        · have hnone : timesheetFor found owner = none := by
            refine List.find?_eq_none.mpr fun listed hlisted heq => hnew ?_
            exact List.any_eq_true.mpr ⟨listed, hlisted, heq⟩
          have hsplit : timesheetFor (found ++ [⟨sheet.timesheetId, owner, status⟩]) employee =
              (timesheetFor found employee).or
                (if owner = employee then some ⟨sheet.timesheetId, owner, status⟩ else none) := by
            unfold timesheetFor
            rw [List.find?_append]
            by_cases howner : owner = employee <;> simp [howner]
          have hdescribes := hlists.describes employee
          rw [hsplit, List.filter_append]
          by_cases hemployee : owner = employee
          · subst hemployee
            rw [hnone] at hdescribes ⊢
            have hempty : before.filter (isFor owner week.start) = [] := hdescribes
            rw [hempty, if_pos rfl, List.filter_cons_of_pos (by simp [isFor, howner, hstart])]
            exact ⟨sheet, rfl, rfl, hstatus⟩
          · rw [if_neg hemployee, Option.or_none,
              List.filter_cons_of_neg (by simp [isFor, howner, hemployee]), List.filter_nil,
              List.append_nil]
            exact hdescribes
        · rcases List.mem_append.mp hlisted with hlisted | hlisted
          · exact hold listed hlisted
          · obtain rfl := List.mem_singleton.mp hlisted
            exact ⟨sheet, List.mem_append_right _ List.mem_cons_self, rfl, howner, hstatus⟩
    · cases h

lemma foldlM_addFound_lists {sheets : List XeroTimesheet}
    (h : sheets.foldlM (addFound week) found = .ok found') (hlists : Lists week found before) :
    Lists week found' (before ++ sheets) := by
  induction sheets generalizing found before with
  | nil =>
      obtain rfl := pure_eq_ok.mp h
      rwa [List.append_nil]
  | cons sheet sheets ih =>
      rw [List.foldlM_cons] at h
      obtain ⟨next, hsheet, hrest⟩ := bind_eq_ok.mp h
      have hnext := ih hrest (addFound_lists hsheet hlists)
      rwa [List.append_assoc, List.singleton_append] at hnext

/-- **The listing.** -/
lemma existingTimesheets_ends {I : Posting → Prop} :
    Ends net I (existingTimesheetsForWeek week)
      (fun found s => I s ∧ Lists week found s.xero.timesheets.rows) I := by
  unfold existingTimesheetsForWeek getTimesheets
  refine Ends.bind (Q := fun sheets s => I s ∧ sheets = s.xero.timesheets.rows)
    (Ends.ask (fun s sheets hs hsheets => ⟨hs, (Except.ok.inj hsheets).symm⟩) fun _ hs => hs)
    fun sheets => Ends.compute (fun found hfound s hs => ⟨hs.1, ?_⟩) fun s hs => hs.1
  obtain ⟨-, rfl⟩ := hs
  have hnothing : Lists week [] [] := ⟨fun _ => rfl, nofun⟩
  simpa using foldlM_addFound_lists hfound hnothing

lemma Lists.owned {s : Posting} (h : Lists week found s.xero.timesheets.rows) : Owned found s := by
  intro listed hlisted
  obtain ⟨row, hrow, hid, howner, -⟩ := h.rows listed hlisted
  refine ⟨hid ▸ s.xero.timesheets.below row hrow, fun sheet hsheet heq => ?_⟩
  rw [Register.eq_of_key_eq hsheet hrow (heq.trans hid.symm)]
  exact howner

lemma Lists.paid {s : Posting} (h : Lists week found s.xero.timesheets.rows)
    (hsheet : sheet ∈ s.xero.timesheets.rows) (hpaid : Paid sheet) :
    ∀ listed ∈ found, listed.timesheetId = sheet.timesheetId →
      listed.status ≠ .draft ∧ listed.status ≠ .approved := by
  intro listed hlisted heq
  obtain ⟨row, hrow, hid, -, hstatus⟩ := h.rows listed hlisted
  obtain rfl := Register.eq_of_key_eq hrow hsheet (hid.trans heq)
  exact ⟨fun hdraft => hpaid.1 (hdraft ▸ hstatus), fun happroved => hpaid.2 (happroved ▸ hstatus)⟩

end Listing

/-! ## Before the first result -/

section Preflight

variable {net : Call → Fate PayrollError} {db : Database} {I : Posting → Prop} {tenant : ℕ}
  {week : WeekWindow}

lemma mirrorPayRun_guards (hmirror : ∀ s m, I s → I { s with mirror := m }) {run : PayRun} :
    Guards net I (mirrorPayRun run tenant) := by
  unfold mirrorPayRun
  exact Guards.bind Guards.consult fun _ =>
    Guards.bind (Guards.write fun s hs => hmirror s _ hs) fun _ => Guards.pure

lemma refreshPayRuns_guards (hmirror : ∀ s m, I s → I { s with mirror := m }) :
    Guards net I (refreshPayRuns tenant) := by
  unfold refreshPayRuns syncPayRuns
  refine Guards.bind Guards.ask fun payRuns =>
    Guards.bind (Guards.write fun s hs => hmirror s _ hs) fun _ => Guards.forM fun run _ => ?_
  exact Guards.bind (mirrorPayRun_guards hmirror) fun _ => Guards.pure

lemma ensurePayRunForWeek_guards (hmirror : ∀ s m, I s → I { s with mirror := m })
    (hcreate : ∀ calendar start payment, Guards net I (createPayRun calendar start payment)) :
    Guards net I (ensurePayRunForWeek db week tenant) := by
  unfold ensurePayRunForWeek
  refine Guards.bind Guards.compute fun calendar => Guards.bind Guards.consult fun sameWeek => ?_
  rcases sameWeek with _ | row
  · refine Guards.bind Guards.consult fun _ => Guards.bind Guards.compute fun _ =>
      Guards.bind Guards.ask fun _ => Guards.bind Guards.compute fun _ =>
        Guards.bind (hcreate _ _ _) fun created => Guards.ite (fun _ => ?_) fun _ => ?_
    · exact Guards.bind (mirrorPayRun_guards hmirror) fun _ => Guards.raise
    · exact Guards.bind Guards.ask fun _ => mirrorPayRun_guards hmirror
  · exact Guards.pure

lemma reconcileLeave_guards {employee : ℕ} {lines : List PayLine}
    (hleave : ∀ s leave, I s → I { s with xero := { s.xero with leave := leave } }) :
    Guards net I (reconcileLeaveForStaffWeek employee lines week) := by
  unfold reconcileLeaveForStaffWeek weekLeave
  refine Guards.bind (Guards.bind Guards.ask fun _ => Guards.compute) fun held =>
    Guards.bind Guards.compute fun changes => Guards.forM fun change _ => ?_
  have hchange : ∀ {α : Type} (k : Call) (serve : Xero → α × Xero),
      (∀ xero, ∃ leave, (serve xero).2 = { xero with leave := leave }) →
      Guards net I (Payroll.change k serve) := by
    intro α k serve hserve
    refine Ends.guards (change_ends (fun s hs => ?_) fun _ hs => hs)
    obtain ⟨leave, heq⟩ := hserve s.xero
    rw [heq]
    exact ⟨hleave s leave hs, hleave s leave hs⟩
  rcases change with ⟨leave, spec⟩ | leave | spec
  · exact Guards.mapError (Guards.bind Guards.compute fun _ => hchange _ _ fun _ => ⟨_, rfl⟩)
  · exact Guards.mapError (hchange _ _ fun _ => ⟨_, rfl⟩)
  · exact Guards.bind Guards.compute fun _ =>
      Guards.bind (hchange _ _ fun _ => ⟨_, rfl⟩) fun _ => Guards.pure

lemma reconcileStaffLeave_guards {linesOf : ℕ → List PayLine} {catalogue : LeaveCatalogue}
    {staff : Staff}
    (hleave : ∀ s leave, I s → I { s with xero := { s.xero with leave := leave } }) :
    Guards net I (reconcileStaffLeave week linesOf catalogue staff) := by
  unfold reconcileStaffLeave
  rcases staff.xeroUserId with _ | link
  · exact Guards.pure
  · exact Guards.ite (fun _ => Guards.bind Guards.compute fun _ => Guards.bind Guards.compute
      fun _ => reconcileLeave_guards hleave) fun _ => Guards.pure

/-- **Before the first result** no timesheet is touched; then they are listed. -/
lemma preflight_ends {connection : ℕ} {staffIds : List ℕ} {weekStartDate : ℤ}
    {T : Register XeroTimesheet.timesheetId} {yielded : List StaffWeekPostResult} :
    Ends net (fun s => s.xero.timesheets = T ∧ s.yielded = yielded)
      (preflight db connection staffIds weekStartDate)
      (fun prepared s => (s.xero.timesheets = T ∧ s.yielded = yielded) ∧
        Lists prepared.week prepared.existing s.xero.timesheets.rows ∧
        checks db connection staffIds weekStartDate =
          .ok (prepared.week, prepared.linesOf, prepared.staff) ∧
        prepared.catalogue = .load db)
      (fun s => s.xero.timesheets = T ∧ s.yielded = yielded) := by
  unfold preflight
  rcases hchecks : checks db connection staffIds weekStartDate with e | ⟨week, linesOf, staff⟩
  · exact Ends.raise fun _ hs => hs
  · rw [compute_ok_bind]
    refine Ends.bind (refreshPayRuns_guards fun _ _ hs => hs).ends fun _ => ?_
    refine Ends.bind Guards.consult.ends fun _ => ?_
    refine Ends.bind (Guards.forM fun person _ => reconcileStaffLeave_guards fun _ _ hs => hs).ends
      fun _ => ?_
    refine Ends.bind (ensurePayRunForWeek_guards (fun _ _ hs => hs) fun calendar start payment =>
      Ends.guards (change_ends (fun _ hs => ⟨hs, hs⟩) fun _ hs => hs)).ends fun _ => ?_
    refine Ends.bind existingTimesheets_ends fun existing => Ends.pure fun s hs => ?_
    exact ⟨hs.1, hs.2, rfl, rfl⟩

end Preflight

/-! ## The attempts -/

/-- A posting run: the database it posts from, what it is asked for, how many results its consumer
takes, and the fates of its calls. -/
structure Attempt where
  db : Database
  connection : ℕ
  staffIds : List ℕ
  weekStartDate : ℤ
  taken : ℕ
  net : Call → Fate PayrollError

/-- What an attempt leaves, the results it yielded among it. -/
def Attempt.run (attempt : Attempt) (s : Posting) : Posting :=
  ((postPayrollWeek attempt.db attempt.connection attempt.staffIds attempt.weekStartDate
    attempt.taken).run attempt.net { s with yielded := [] }).2

/-- What some attempts leave, one after the other. -/
def runAttempts (s : Posting) (attempts : List Attempt) : Posting :=
  attempts.foldl (fun s attempt => attempt.run s) s

def Attempt.payload (attempt : Attempt) (week : WeekWindow) (staff : Staff) :
    Except PayrollError (List TimesheetLinePayload) :=
  weekPayload (linesOf (weekTimeLines attempt.db week (some attempt.staffIds)) staff.id)
    (.load attempt.db)

section Attempts

variable {net : Call → Fate PayrollError} {db : Database} {prepared : Prepared} {staff : Staff}
  {sheet : XeroTimesheet}

lemma paid_of_attempt (attempt : Attempt) {s : Posting} (hsheet : sheet ∈ s.xero.timesheets.rows)
    (hpaid : Paid sheet) : sheet ∈ (attempt.run s).xero.timesheets.rows := by
  unfold Attempt.run postPayrollWeek
  have hends : Ends attempt.net
      (fun t => t.xero.timesheets = s.xero.timesheets ∧ t.yielded = [])
      (do
        let prepared ← preflight attempt.db attempt.connection attempt.staffIds attempt.weekStartDate
        (prepared.staff.take attempt.taken).forM (yieldStaffWeek attempt.db prepared))
      (fun _ t => sheet ∈ t.xero.timesheets.rows) (fun t => sheet ∈ t.xero.timesheets.rows) := by
    refine Ends.bind (preflight_ends.conseq (fun _ h => h) (fun _ _ h => h) fun t h => ?_)
      fun prepared => ?_
    · rw [h.1]
      exact hsheet
    · rintro t ⟨⟨hsame, -⟩, hlists, -⟩
      have hmem : sheet ∈ t.xero.timesheets.rows := hsame ▸ hsheet
      refine (Guards.forM fun person _ => ?_).ends t hmem
      refine Guards.bind (postOneStaffWeek_guards fun link employee _ _ => ?_) fun result =>
        Guards.write fun _ h => h
      refine paid_callsGuard fun found hfound => ?_
      exact hlists.paid hmem hpaid found (employeeId_of_timesheetFor hfound).1
  exact hends.always ⟨rfl, rfl⟩

/-- What the results yielded so far say of a person's week. -/
def Reported (staff : Staff) (employee : ℕ) (start : ℤ)
    (payload : Except PayrollError (List TimesheetLinePayload)) (s : Posting) : Prop :=
  ∀ result ∈ s.yielded, result.staffId = staff.id → result.success = true →
    WeekDone staff payload (sheetsFor s employee start)

/-- Before the person's turn: her week is as it was listed, and no result is hers. -/
structure Awaits (prepared : Prepared) (staff : Staff) (employee : ℕ) (s : Posting) : Prop where
  owned : Owned prepared.existing s
  describes : Describes (timesheetFor prepared.existing employee)
    (sheetsFor s employee prepared.week.start)
  unreported : ∀ result ∈ s.yielded, result.staffId ≠ staff.id

section Turns

variable {employee : ℕ} {person : Staff} {payload : Except PayrollError (List TimesheetLinePayload)}

lemma Awaits.reported {s : Posting} (h : Awaits prepared staff employee s) :
    Reported staff employee prepared.week.start payload s :=
  fun result hresult hid => absurd hid (h.unreported result hresult)

/-- What a turn that is not hers leaves. -/
structure OtherTurn (prepared : Prepared) (person : Staff) (employee : ℕ) (s t : Posting) : Prop where
  owned : Owned prepared.existing t
  mine : sheetsFor t employee prepared.week.start = sheetsFor s employee prepared.week.start
  yielded : ∃ new : List StaffWeekPostResult, t.yielded = s.yielded ++ new ∧
    ∀ result ∈ new, result.staffId = person.id

lemma yieldStaffWeek_other {s : Posting} (howned : Owned prepared.existing s)
    (hperson : ∀ link other, person.xeroUserId = some link → link.employee = some other →
      other ≠ employee) :
    OtherTurn prepared person employee s ((yieldStaffWeek db prepared person).run net s).2 := by
  unfold yieldStaffWeek
  have hguards : Guards net (Aside prepared.existing employee prepared.week.start
      (sheetsFor s employee prepared.week.start) s.yielded) (postOneStaffWeek db prepared person) :=
    postOneStaffWeek_guards fun link other hlink hother =>
      aside_callsGuard (hperson link other hlink hother)
  refine (Ends.bind (postOneStaffWeek_staffId.and_guards hguards) fun result =>
    Ends.write fun t ht => ?_).conseq (fun _ h => h) (fun _ _ h => h) (fun t ht => ?_) |>.always
      ⟨howned, rfl, rfl⟩
  · refine ⟨ht.2.owned, ht.2.mine, [result], ?_, fun reported hreported => ?_⟩
    · exact congrArg (· ++ [result]) ht.2.yielded
    · rw [List.mem_singleton.mp hreported]
      exact ht.1
  · have hyielded : t.yielded = s.yielded := ht.2.yielded
    exact ⟨ht.2.owned, ht.2.mine, [], hyielded.trans (List.append_nil _).symm,
      List.forall_mem_nil _⟩

lemma yieldStaffWeek_own {link : XeroUserId} (hlink : staff.xeroUserId = some link)
    (hemployee : link.employee = some employee)
    (hactive : staff.isActiveBetween prepared.week.start prepared.week.finish = true) :
    Ends net (Awaits prepared staff employee) (yieldStaffWeek db prepared staff)
      (fun _ => Reported staff employee prepared.week.start
        (weekPayload (prepared.linesOf staff.id) prepared.catalogue))
      (Reported staff employee prepared.week.start
        (weekPayload (prepared.linesOf staff.id) prepared.catalogue)) := by
  intro s hs
  unfold yieldStaffWeek
  have hnone : ∀ t : Posting, t.yielded = s.yielded → Reported staff employee prepared.week.start
      (weekPayload (prepared.linesOf staff.id) prepared.catalogue) t := by
    intro t ht result hresult hid
    exact absurd hid (hs.unreported result (ht ▸ hresult))
  refine Ends.bind ((postOneStaffWeek_ends hlink hemployee hactive hs.describes).conseq
    (fun _ h => h) (fun _ _ h => h) fun t ht => hnone t ht.yielded) (fun result =>
      Ends.write fun t ht => ?_) s (Beside.week ⟨rfl, rfl⟩)
  intro reported hreported hid hsuccess
  rcases List.mem_append.mp hreported with hold | hnew
  · exact absurd hid (hs.unreported reported (ht.1.yielded ▸ hold))
  · obtain rfl := List.mem_singleton.mp hnew
    exact ht.2 hsuccess

lemma yieldStaffWeek_after (hne : person.id ≠ staff.id)
    (hperson : ∀ link other, person.xeroUserId = some link → link.employee = some other →
      other ≠ employee) :
    Guards net (fun s => Owned prepared.existing s ∧
      Reported staff employee prepared.week.start payload s) (yieldStaffWeek db prepared person) := by
  rintro s ⟨howned, hreported⟩
  obtain ⟨howned', hmine, new, hyielded, hnew⟩ :=
    yieldStaffWeek_other howned hperson
  refine ⟨howned', fun result hresult hid hsuccess => ?_⟩
  rw [hmine]
  rw [hyielded] at hresult
  rcases List.mem_append.mp hresult with hold | hmem
  · exact hreported result hold hid hsuccess
  · exact absurd ((hnew result hmem).symm.trans hid) hne

lemma yieldStaffWeek_owned : Guards net (Owned prepared.existing) (yieldStaffWeek db prepared person) :=
  Guards.bind (postOneStaffWeek_guards fun _ _ _ _ => owned_callsGuard) fun _ =>
    Guards.write fun _ hs => hs

lemma yieldStaffWeek_before (hne : person.id ≠ staff.id)
    (hperson : ∀ link other, person.xeroUserId = some link → link.employee = some other →
      other ≠ employee) :
    Guards net (Awaits prepared staff employee) (yieldStaffWeek db prepared person) := by
  intro s hs
  obtain ⟨howned, hmine, new, hyielded, hnew⟩ :=
    yieldStaffWeek_other hs.owned hperson
  refine ⟨howned, hmine ▸ hs.describes, fun result hresult hid => ?_⟩
  rw [hyielded] at hresult
  rcases List.mem_append.mp hresult with hold | hmem
  · exact hs.unreported result hold hid
  · exact hne ((hnew result hmem).symm.trans hid)

/-- **The turns of a run**, hers among them or not. -/
lemma turns_ends {link : XeroUserId} {people : List Staff} (hlink : staff.xeroUserId = some link)
    (hemployee : link.employee = some employee)
    (hactive : staff.isActiveBetween prepared.week.start prepared.week.finish = true)
    (hnodup : (people.map Staff.id).Nodup) (hself : ∀ person ∈ people, person.id = staff.id →
      person = staff)
    (hothers : ∀ person ∈ people, person.id ≠ staff.id → ∀ link other,
      person.xeroUserId = some link → link.employee = some other → other ≠ employee) :
    Ends net (Awaits prepared staff employee) (people.forM (yieldStaffWeek db prepared))
      (fun _ => Reported staff employee prepared.week.start
        (weekPayload (prepared.linesOf staff.id) prepared.catalogue))
      (Reported staff employee prepared.week.start
        (weekPayload (prepared.linesOf staff.id) prepared.catalogue)) := by
  induction people with
  | nil => exact Ends.pure fun _ hs => hs.reported
  | cons person people ih =>
      rw [List.map_cons, List.nodup_cons] at hnodup
      have hrest := fun other hother => hothers other (List.mem_cons_of_mem person hother)
      by_cases hid : person.id = staff.id
      · -- her turn; nobody after it is her
        obtain rfl := hself person List.mem_cons_self hid
        have hafter : Guards net (fun s => Owned prepared.existing s ∧
            Reported person employee prepared.week.start
              (weekPayload (prepared.linesOf person.id) prepared.catalogue) s)
            (people.forM (yieldStaffWeek db prepared)) := by
          refine Guards.forM fun other hother => ?_
          have hne : other.id ≠ person.id := fun heq =>
            hnodup.1 (heq ▸ List.mem_map_of_mem (f := Staff.id) hother)
          exact yieldStaffWeek_after hne (hrest other hother hne)
        have hown := (@yieldStaffWeek_own net db prepared person employee _ hlink hemployee hactive).and_guards
          fun s hs => yieldStaffWeek_owned s hs.owned
        refine Ends.bind (hown.conseq (fun _ h => h) (fun _ _ h => h) fun _ h => h.1) fun _ => ?_
        exact hafter.ends.conseq (fun _ h => ⟨h.2, h.1⟩) (fun _ _ h => h.2) fun _ h => h.2
      · refine Ends.bind ((yieldStaffWeek_before hid (hothers person List.mem_cons_self hid)).ends.conseq
          (fun _ h => h) (fun _ _ h => h) fun _ h => h.reported) fun _ => ?_
        exact ih hnodup.2 (fun other hother => hself other (List.mem_cons_of_mem person hother)) hrest

end Turns

/-! ## The runs -/

section Runs

variable {connection : ℕ} {staffIds : List ℕ} {weekStartDate : ℤ} {week : WeekWindow}
  {linesByStaff : ℕ → List PayLine} {people : List Staff}

lemma mem_firsts {κ : Type} [DecidableEq κ] {key : κ} {keys : List κ} :
    key ∈ firsts keys ↔ key ∈ keys := by
  induction keys with
  | nil => simp [firsts]
  | cons first keys ih =>
      by_cases h : key = first <;> simp [firsts, ih, h]

lemma nodup_firsts {κ : Type} [DecidableEq κ] (keys : List κ) : (firsts keys).Nodup := by
  induction keys with
  | nil => exact List.nodup_nil
  | cons first keys ih =>
      refine List.nodup_cons.mpr ⟨?_, ih.sublist List.filter_sublist⟩
      simp

lemma staffToPost_eq_ok (h : staffToPost db staffIds = .ok people) :
    (people.map Staff.id).Nodup ∧
      ∀ person ∈ people, db.staff.find? person.id = some person ∧ person.id ∈ staffIds := by
  unfold staffToPost at h
  split at h
  · cases h
  · obtain rfl := Except.ok.inj h
    have hids : ∀ ids : List ℕ, ((ids.filterMap db.staff.find?).map Staff.id).Sublist ids := by
      intro ids
      induction ids with
      | nil => exact List.Sublist.refl _
      | cons id ids ih =>
          rcases hfind : db.staff.find? id with _ | person
          · rw [List.filterMap_cons_none hfind]
            exact ih.cons id
          · rw [List.filterMap_cons_some hfind, List.map_cons, Table.key_of_find? hfind]
            exact ih.cons_cons id
    refine ⟨(nodup_firsts staffIds).sublist (hids _), fun person hperson => ?_⟩
    obtain ⟨id, hid, hfind⟩ := List.mem_filterMap.mp hperson
    rw [Table.key_of_find? hfind]
    exact ⟨hfind, mem_firsts.mp hid⟩

lemma checks_eq_ok (h : checks db connection staffIds weekStartDate =
    .ok (week, linesByStaff, people)) :
    week.start = weekStartDate ∧ linesByStaff = linesOf (weekTimeLines db week (some staffIds)) ∧
      staffToPost db staffIds = .ok people := by
  unfold checks at h
  simp only [bind_eq_ok] at h
  obtain ⟨_, -, window, hwindow, h⟩ := h
  split at h
  · simp at h
  · simp only [bind_eq_ok, pure_eq_ok] at h
    obtain ⟨_, -, grouped, hgrouped, staff, hstaff, hresult⟩ := h
    obtain ⟨rfl, hrest⟩ := Prod.mk.inj hresult
    obtain ⟨rfl, rfl⟩ := Prod.mk.inj hrest
    refine ⟨?_, ?_, hstaff⟩
    · unfold WeekWindow.of at hwindow
      split at hwindow
      · rw [← Except.ok.inj hwindow]
      · cases hwindow
    · unfold groupedByStaff at hgrouped
      split at hgrouped
      · cases hgrouped
      · exact (Except.ok.inj hgrouped).symm

lemma week_of_attempt {attempt : Attempt} {link : XeroUserId} {employee : ℕ}
    (hstart : week.start = attempt.weekStartDate)
    (hstaff : attempt.db.staff.find? staff.id = some staff) (hlink : staff.xeroUserId = some link)
    (hemployee : link.employee = some employee)
    (hactive : staff.isActiveBetween week.start week.finish = true)
    (hown : ∀ other ∈ attempt.db.staff.rows, other.id ∈ attempt.staffIds → other.id ≠ staff.id →
      ∀ link, other.xeroUserId = some link → link.employee ≠ some employee) (s : Posting) :
    Reported staff employee week.start (attempt.payload week staff) (attempt.run s) := by
  unfold Attempt.run postPayrollWeek
  refine (Ends.bind (preflight_ends.conseq (fun _ h => h) (fun _ _ h => h) fun t ht result hresult =>
    ?_) fun prepared => ?_).always (s := { s with yielded := [] }) ⟨rfl, rfl⟩
  · rw [ht.2] at hresult
    cases hresult
  · rintro t ⟨⟨-, hyielded⟩, hlists, hchecks, hcatalogue⟩
    obtain ⟨hweek, hlines, hpeople⟩ := checks_eq_ok hchecks
    obtain rfl : week = prepared.week := WeekWindow.ext (hstart.trans hweek.symm)
    obtain ⟨hnodup, hfound⟩ := staffToPost_eq_ok hpeople
    have htaken : ∀ person ∈ prepared.staff.take attempt.taken,
        attempt.db.staff.find? person.id = some person ∧ person.id ∈ attempt.staffIds :=
      fun person hperson => hfound person (List.mem_of_mem_take hperson)
    have hawaits : Awaits prepared staff employee t :=
      ⟨hlists.owned, hlists.describes employee, by rw [hyielded]; exact List.forall_mem_nil _⟩
    have hpayload : attempt.payload prepared.week staff =
        weekPayload (prepared.linesOf staff.id) prepared.catalogue := by
      rw [hlines, hcatalogue]
      rfl
    rw [hpayload]
    refine turns_ends hlink hemployee hactive (hnodup.sublist ((List.take_sublist _ _).map _))
      (fun person hperson hid => ?_) (fun person hperson hne other employee' hother hemployee' heq =>
        ?_) t hawaits
    · have hfind := (htaken person hperson).1
      rw [hid, hstaff] at hfind
      exact (Option.some.inj hfind).symm
    · obtain ⟨hfind, hid⟩ := htaken person hperson
      exact hown person (Table.mem_of_find? hfind) hid hne other hother (heq ▸ hemployee')

/-- **The attempts of a week.**  However each of them was stopped, what is paid stays as it is; and
where the last one reports a person's week a success, the week is done. -/
theorem weeks_of_attempts (s : Posting) (attempts : List Attempt) (last : Attempt) (week : WeekWindow)
    (hstart : week.start = last.weekStartDate) :
    (∀ sheet ∈ s.xero.timesheets.rows, Paid sheet →
      sheet ∈ (last.run (runAttempts s attempts)).xero.timesheets.rows) ∧
    ∀ staff link employee, last.db.staff.find? staff.id = some staff →
      staff.xeroUserId = some link → link.employee = some employee →
      staff.isActiveBetween week.start week.finish = true →
      (∀ other ∈ last.db.staff.rows, other.id ∈ last.staffIds → other.id ≠ staff.id →
        ∀ link, other.xeroUserId = some link → link.employee ≠ some employee) →
      ∀ result ∈ (last.run (runAttempts s attempts)).yielded, result.staffId = staff.id →
        result.success = true → WeekDone staff (last.payload week staff)
          (sheetsFor (last.run (runAttempts s attempts)) employee week.start) := by
  refine ⟨fun sheet hsheet hpaid => paid_of_attempt last ?_ hpaid,
    fun staff link employee hstaff hlink hemployee hactive hown =>
      week_of_attempt hstart hstaff hlink hemployee hactive hown _⟩
  unfold runAttempts
  induction attempts generalizing s with
  | nil => exact hsheet
  | cons attempt attempts ih => exact ih (attempt.run s) (paid_of_attempt attempt hsheet hpaid)

end Runs

/-! ## A week in the workshop -/

def ordinaryTime : PayItem := ⟨1, some "ordinary", "Ordinary Time", false, some 1⟩

/-- Time at the ordinary rate. -/
def worked (id staff : ℕ) (day : ℤ) (quantity : ℚ) (scale : IsDecimal 3 quantity) : PayLine where
  id := id
  job := 1
  staff := some staff
  accountingDate := day
  quantity := quantity
  approved := true
  xeroPayItem := some ordinaryTime
  isBillable := true
  wageRateMultiplier := 1
  quantity_scale := scale

/-- Someone who started on a day and has not left. -/
def employed (id employee spelling : ℕ) (started : ℤ) (basis : Timesheet.PayBasis) : Staff :=
  ⟨id, "Staff member", some ⟨some employee, spelling⟩, started, none, some basis⟩

def fitter : Staff := employed 1 7 0 0 .hourly

/-- Beside the fitter there are someone on a salary, someone who starts after the week and someone
linked to the fitter's employee by another spelling. -/
def workshopWeek : Database where
  connected := some 1
  xeroPayrollCalendarId := some 1
  xeroPayrollCalendarName := some "Weekly"
  staff := ⟨[fitter, employed 2 8 0 0 .salary, employed 3 9 0 7 .hourly, employed 4 7 1 0 .hourly],
    by decide⟩
  leaveTypes := []
  lines := [worked 1 1 0 (15 / 2) (by decide +kernel), worked 2 4 0 4 (by decide +kernel)]
  xeroUserId_unique := by decide

def newOrganisation : Posting :=
  ⟨⟨.empty, .empty, .empty, [⟨1, "Weekly", 0, 6⟩]⟩, [], []⟩

def firstWeek : WeekWindow := ⟨0, by decide⟩

/-- An attempt to post some people's week that is answered throughout. -/
def answered (staffIds : List ℕ) : Attempt :=
  ⟨workshopWeek, 1, staffIds, 0, staffIds.length, fun _ => .served⟩

/-- The same attempt, whose call for a new timesheet is not answered. -/
def cutShort : Attempt :=
  { answered [1] with net := fun call =>
      if call = .createTimesheet 7 then .unanswered (.api "Timed out") else .served }

theorem weeks_of_attempts_retried :
    ∃ result ∈ ((answered [1]).run (runAttempts newOrganisation [cutShort])).yielded,
      result.staffId = fitter.id ∧ result.success = true ∧
        WeekDone fitter ((answered [1]).payload firstWeek fitter)
          (sheetsFor ((answered [1]).run (runAttempts newOrganisation [cutShort])) 7 0) := by
  have hany : ((answered [1]).run (runAttempts newOrganisation [cutShort])).yielded.any
      (fun result => result.staffId = fitter.id && result.success) = true := by
    decide +kernel
  obtain ⟨result, hresult, hfacts⟩ := List.any_eq_true.mp hany
  obtain ⟨hid, hsuccess⟩ := (Bool.and_eq_true_iff.mp hfacts)
  have hid := of_decide_eq_true hid
  have hown : ∀ other ∈ workshopWeek.staff.rows, other.id ∈ [1] → other.id ≠ fitter.id →
      ∀ link, other.xeroUserId = some link → link.employee ≠ some 7 := by
    intro other _ hmem hne
    exact absurd (List.mem_singleton.mp hmem) hne
  exact ⟨result, hresult, hid, hsuccess,
    (weeks_of_attempts newOrganisation [cutShort] (answered [1]) firstWeek rfl).2 fitter ⟨some 7, 0⟩ 7
      (by decide +kernel) rfl rfl (by decide) hown result hresult hid hsuccess⟩

/-- An approved timesheet, its hours finer than the code reads them. -/
def nearlyPosted : Posting :=
  { newOrganisation with xero := { newOrganisation.xero with
      timesheets := Register.empty.add fun id =>
        ⟨id, some 7, some 0, some .approved, [⟨some 0, some "ordinary", some (7.5004)⟩]⟩ } }

/-- Whose weeks an attempt reports, and whether as successes. -/
def Attempt.outcomes (attempt : Attempt) (s : Posting) : List (ℕ × Bool) :=
  (attempt.run s).yielded.map fun result => (result.staffId, result.success)

/-- The lines of each timesheet an attempt leaves of the fitter's employee. -/
def Attempt.leaves (attempt : Attempt) (s : Posting) : List (List TimesheetLine) :=
  (sheetsFor (attempt.run s) 7 0).map XeroTimesheet.lines

/-- A success is no timesheet of the payload for someone on a salary, for someone not employed in the
week, for someone whose employee another of the run is linked to, and where the timesheet that stands
differs beyond the third decimal. -/
theorem weeks_of_attempts_not_exactly_payload :
    (∀ staff ∈ [2, 3], (answered [staff]).outcomes newOrganisation = [(staff, true)] ∧
      ((answered [staff]).run newOrganisation).xero.timesheets.rows = []) ∧
    (∀ staffIds ∈ [[1], [1, 4]],
      (answered staffIds).payload firstWeek fitter = .ok [⟨0, "ordinary", 15 / 2⟩]) ∧
    ((answered [1, 4]).outcomes newOrganisation = [(1, true), (4, true)] ∧
      (answered [1, 4]).leaves newOrganisation =
        [[⟨some 0, some "ordinary", some (15 / 2)⟩], [⟨some 0, some "ordinary", some 4⟩]]) ∧
    (answered [1]).outcomes nearlyPosted = [(1, true)] ∧
      (answered [1]).leaves nearlyPosted = [[⟨some 0, some "ordinary", some 7.5004⟩]] := by
  decide +kernel

end Attempts

end Payroll

end Docketworks
