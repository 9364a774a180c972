import Docketworks.Library.Course
import Docketworks.Payroll.PostingRuns

/-!
# What a refused posting run has written

A posting run is refused if it raises before its first result.  What it has changed in Xero by then
depends on the order of its checks, its questions and its changes.

* `Attempt.course` — the stages of a run before its first result.
* `refused_unchanged_iff` — a refused run has changed nothing exactly if nothing on its course can stop
  it once a change has taken effect.
-/

namespace Docketworks

open Library Library.Remote

namespace Payroll

/-! ## The stages -/

def Xero.changesSeen (xero : Xero) : ℕ :=
  xero.timesheets.next + xero.leave.next + xero.payRuns.next

/-- The mirror with a pay run in it. -/
def mirrored (tenant : ℕ) (mirror : List XeroPayRun) (run : PayRun) :
    Except PayrollError (List XeroPayRun) :=
  (transformPayRun run tenant mirror).map Prod.snd

/-- The mirror after a refresh. -/
def syncedMirror (payRuns : List PayRun) (tenant : ℕ) (mirror : List XeroPayRun) :
    Except PayrollError (List XeroPayRun) :=
  payRuns.foldlM (mirrored tenant)
    (mirror.filter fun row =>
      row.xeroTenantId ≠ tenant || payRuns.any fun run => run.payRunId = row.xeroId)

/-- Another week's draft is open. -/
def blocked (week : WeekWindow) (tenant : ℕ) (mirror : List XeroPayRun) : Bool :=
  mirror.any fun row => row.draftOf tenant && !row.coversWeek week

section Leave

variable (week : WeekWindow) (linesOf : ℕ → List PayLine) (catalogue : LeaveCatalogue)

/-- Whose leave a person's is, with the lines that ask for it; none for a person who is passed over. -/
def leaveOf (staff : Staff) : Except PayrollError (Option (ℕ × List PayLine)) :=
  match staff.xeroUserId with
  | none => .ok none
  | some link =>
      if staff.isActiveBetween week.start week.finish then do
        let split ← splitBySurface (linesOf staff.id) catalogue
        let employee ← link.uuid
        pure (some (employee, split.leaveApi))
      else .ok none

/-- What is to be done about the leave Xero holds of an employee. -/
def dueChanges (leave : Register EmployeeLeave.leaveId) (employee : ℕ) (lines : List PayLine) :
    Except PayrollError (List LeaveChange) := do
  let held ← sortLeave (leave.rows.filter fun row => row.employee = employee) week
  outlook held lines week

def LeaveChange.stages (employee : ℕ) : LeaveChange → List (Stage Call)
  | .update leave spec => [.check (leavePayload spec week).isOk,
      .change (.updateEmployeeLeave employee leave.leaveId)]
  | .delete leave => [.change (.deleteEmployeeLeave employee leave.leaveId)]
  | .create spec => [.check (leavePayload spec week).isOk, .change (.createEmployeeLeave employee spec)]

def LeaveChange.after (employee : ℕ) (leave : Register EmployeeLeave.leaveId) :
    LeaveChange → Register EmployeeLeave.leaveId
  | .update row spec => match leavePayload spec week with
      | .ok payload => leave.update row.leaveId (fun row => payload.record row.employee row.leaveId)
          (LeavePayload.leaveId_record payload)
      | .error _ => leave
  | .delete row => leave.remove row.leaveId
  | .create spec => match leavePayload spec week with
      | .ok payload => leave.add (fun id => payload.record employee id) (payload.leaveId_made employee)
      | .error _ => leave

def leaveStages (leave : Register EmployeeLeave.leaveId) (staff : Staff) : List (Stage Call) :=
  match leaveOf week linesOf catalogue staff with
  | .error _ => [.check false]
  | .ok none => []
  | .ok (some (employee, lines)) =>
      .ask (.getEmployeeLeaves employee) :: match dueChanges week leave employee lines with
        | .error _ => [.check false]
        | .ok changes => changes.flatMap (LeaveChange.stages week employee)

def leaveAfter (leave : Register EmployeeLeave.leaveId) (staff : Staff) :
    Register EmployeeLeave.leaveId :=
  match leaveOf week linesOf catalogue staff with
  | .ok (some (employee, lines)) => match dueChanges week leave employee lines with
      | .ok changes => changes.foldl (LeaveChange.after week employee) leave
      | .error _ => leave
  | _ => leave

/-- The stages of everybody's leave, one person after the other. -/
def leaveCourse (leave : Register EmployeeLeave.leaveId) (people : List Staff) : List (Stage Call) :=
  turns (leaveStages week linesOf catalogue) (leaveAfter week linesOf catalogue) leave people

end Leave

/-- The row is the calendar's draft for the week. -/
def XeroPayRun.isDraftFor (tenant calendar : ℕ) (week : WeekWindow) (row : XeroPayRun) : Bool :=
  row.draftOf tenant && row.payrollCalendarId = some calendar && row.coversWeek week

/-- The stages of a new pay run. -/
def createStages (db : Database) (week : WeekWindow) (xero : Xero) : List (Stage Call) :=
  match calendarName db with
  | .error _ => [.check false]
  | .ok name => .ask .getPayRunCalendars :: match theCalendar name xero.calendars with
      | .error _ => [.check false]
      | .ok calendar => [.change (.createPayRun week.start),
          .check (calendar.periodStartDate = week.start && calendar.periodEndDate = week.finish),
          .ask (.getPayRun xero.payRuns.next)]

def payRunStages (db : Database) (week : WeekWindow) (tenant : ℕ) (mirror : List XeroPayRun)
    (xero : Xero) : List (Stage Call) :=
  match calendarId db with
  | .error _ => [.check false]
  | .ok calendar =>
      if mirror.any (XeroPayRun.isDraftFor tenant calendar week) then []
      else createStages db week xero

def timesheetStages (week : WeekWindow) (xero : Xero) : List (Stage Call) :=
  [.ask (.getTimesheets week.start),
    .check (xero.timesheets.rows.foldlM (addFound week) []).isOk]

/-- **The course** of a run before its first result. -/
def Attempt.course (attempt : Attempt) (s : Posting) : List (Stage Call) :=
  match checks attempt.db attempt.connection attempt.staffIds attempt.weekStartDate with
  | .error _ => [.check false]
  | .ok (week, linesOf, staff) =>
      .ask .getPayRuns :: match syncedMirror s.xero.payRuns.rows attempt.connection s.mirror with
        | .error _ => [.check false]
        | .ok mirror => .check (!blocked week attempt.connection mirror) ::
            (leaveCourse week linesOf (.load attempt.db) s.xero.leave staff ++
              (payRunStages attempt.db week attempt.connection mirror s.xero ++
                timesheetStages week s.xero))

/-! ## Following them -/

section Follows

variable {net : Call → Fate PayrollError} {s : Posting} {tenant : ℕ} {week : WeekWindow}

/-- The program takes the course, and moves the organisation on with it. -/
abbrev Takes {α : Type} (net : Call → Fate PayrollError) (x : PayrollCall α) (s : Posting)
    (course : List (Stage Call)) (Q : α → Posting → Prop) : Prop :=
  Follows Posting.xero Xero.changesSeen net x s course Q

lemma run_mirrorPayRun {run : PayRun} : (mirrorPayRun run tenant).run net s =
    match transformPayRun run tenant s.mirror with
    | .ok (row, mirror) => (.ok row, { s with mirror := mirror })
    | .error e => (.error e, s) := by
  unfold mirrorPayRun
  rcases h : transformPayRun run tenant s.mirror with e | ⟨row, mirror⟩
  · exact run_bind_of_error (Prod.ext h rfl)
  · rw [run_bind_of_ok (show (consult fun s => transformPayRun run tenant s.mirror).run net s =
      (.ok (row, mirror), s) from Prod.ext h rfl)]
    rfl

lemma run_mirrorPayRuns (payRuns : List PayRun) (s : Posting) :
    match payRuns.foldlM (mirrored tenant) s.mirror with
    | .ok mirror => (payRuns.forM fun run => do let _ ← mirrorPayRun run tenant).run net s =
        (.ok (), { s with mirror := mirror })
    | .error _ => ∃ e t, (payRuns.forM fun run => do let _ ← mirrorPayRun run tenant).run net s =
        (.error e, t) ∧ t.xero = s.xero := by
  induction payRuns generalizing s with
  | nil => rfl
  | cons run payRuns ih =>
      rw [List.foldlM_cons, forM_cons]
      rcases h : transformPayRun run tenant s.mirror with e | ⟨row, mirror⟩
      · have hmirrored : mirrored tenant s.mirror run = .error e := by simp [mirrored, h, Except.map]
        have hrun : (do let _ ← mirrorPayRun run tenant : PayrollCall Unit).run net s =
            (.error e, s) := run_bind_of_error (by rw [run_mirrorPayRun, h])
        rw [hmirrored]
        exact ⟨e, s, run_bind_of_error hrun, rfl⟩
      · have hmirrored : mirrored tenant s.mirror run = .ok mirror := by
          simp [mirrored, h, Except.map]
        have hrun : (do let _ ← mirrorPayRun run tenant : PayrollCall Unit).run net s =
            (.ok (), { s with mirror := mirror }) :=
          run_bind_of_ok (a := row) (t := { s with mirror := mirror }) (by rw [run_mirrorPayRun, h])
        rw [hmirrored, run_bind_of_ok hrun]
        exact ih { s with mirror := mirror }

lemma refreshPayRuns_takes {α : Type} {f : Unit → PayrollCall α} {Q : α → Posting → Prop}
    {course : List XeroPayRun → List (Stage Call)}
    (h : ∀ mirror, Takes net (f ()) { s with mirror := mirror } (course mirror) Q) :
    Takes net (refreshPayRuns tenant >>= f) s
      (.ask .getPayRuns :: match syncedMirror s.xero.payRuns.rows tenant s.mirror with
        | .error _ => [.check false]
        | .ok mirror => course mirror) Q := by
  unfold refreshPayRuns syncPayRuns getPayRuns
  rw [Remote.bind_assoc]
  refine Follows.bind (c := [_]) (Follows.ask (Q := fun payRuns t =>
    payRuns = s.xero.payRuns.rows ∧ s = t) rfl ⟨rfl, rfl⟩) ?_
  rintro _ _ ⟨rfl, rfl⟩
  rw [Remote.bind_assoc]
  refine Follows.answer_bind (t := { s with mirror := s.mirror.filter fun row =>
    row.xeroTenantId ≠ tenant || s.xero.payRuns.rows.any fun run => run.payRunId = row.xeroId })
      rfl rfl ?_
  have hrun := @run_mirrorPayRuns net tenant s.xero.payRuns.rows
    { s with mirror := s.mirror.filter fun row => row.xeroTenantId ≠ tenant ||
      s.xero.payRuns.rows.any fun run => run.payRunId = row.xeroId }
  unfold syncedMirror
  split at hrun
  · rename_i mirror hmirror
    rw [hmirror]
    exact Follows.answer_bind hrun rfl (h mirror)
  · rename_i e hmirror
    rw [hmirror]
    obtain ⟨e, t, hrun, hsame⟩ := hrun
    exact Follows.error_bind hrun hsame

lemma requireNoBlockingDraft_open (hopen : blocked week tenant s.mirror = false) :
    (requireNoBlockingDraft week tenant).run net s = (.ok (), s) := by
  unfold requireNoBlockingDraft
  rw [run_consult, show (s.mirror.any fun row => row.draftOf tenant && !row.coversWeek week) = false
    from hopen]
  rfl

lemma requireNoBlockingDraft_blocked (hblocked : blocked week tenant s.mirror = true) :
    ∃ e, (requireNoBlockingDraft week tenant).run net s = (.error e, s) := by
  unfold requireNoBlockingDraft
  rw [run_consult, show (s.mirror.any fun row => row.draftOf tenant && !row.coversWeek week) = true
    from hblocked]
  exact ⟨_, rfl⟩

section Leave

variable {employee : ℕ} {lines : List PayLine} {linesOf : ℕ → List PayLine}
  {catalogue : LeaveCatalogue} {leave : Register EmployeeLeave.leaveId} {people : List Staff}

/-- The state with other leave in the organisation. -/
abbrev Posting.withLeave (s : Posting) (leave : Register EmployeeLeave.leaveId) : Posting :=
  { s with xero := { s.xero with leave := leave } }

lemma after_update {row : EmployeeLeave} {spec : LeaveRequestSpec} {payload : LeavePayload}
    (h : leavePayload spec week = .ok payload) :
    (LeaveChange.update row spec).after week employee leave = leave.update row.leaveId
      (fun row => payload.record row.employee row.leaveId) (LeavePayload.leaveId_record payload) := by
  simp only [LeaveChange.after, h]

lemma after_create {spec : LeaveRequestSpec} {payload : LeavePayload}
    (h : leavePayload spec week = .ok payload) :
    (LeaveChange.create spec).after week employee leave =
      leave.add fun id => payload.record employee id := by
  simp only [LeaveChange.after, h]

lemma after_update_refused {row : EmployeeLeave} {spec : LeaveRequestSpec} {e : PayrollError}
    (h : leavePayload spec week = .error e) :
    (LeaveChange.update row spec).after week employee leave = leave := by
  simp only [LeaveChange.after, h]

lemma after_create_refused {spec : LeaveRequestSpec} {e : PayrollError}
    (h : leavePayload spec week = .error e) :
    (LeaveChange.create spec).after week employee leave = leave := by
  simp only [LeaveChange.after, h]

lemma changeLeave_takes {α : Type} {k : Call} {serve : Xero → α × Xero}
    {leave' : Register EmployeeLeave.leaveId}
    (hserve : (serve (s.withLeave leave).xero).2 = (s.withLeave leave').xero)
    (hnext : leave.next < leave'.next) :
    Takes net (change k serve) (s.withLeave leave) [.change k] fun _ t => t = s.withLeave leave' := by
  refine Follows.change ?_ ?_
  · show ({ s.withLeave leave with xero := (serve (s.withLeave leave).xero).2 } : Posting) = _
    rw [hserve]
  · show _ < Xero.changesSeen (serve (s.withLeave leave).xero).2
    rw [hserve]
    unfold Xero.changesSeen
    simp only
    omega

lemma makeChange_takes (change : LeaveChange) : Takes net (makeChange employee week change)
    (s.withLeave leave) (change.stages week employee)
    fun _ t => t = s.withLeave (change.after week employee leave) := by
  rcases change with ⟨row, spec⟩ | row | spec
  · unfold makeChange LeaveChange.stages
    refine Follows.mapError (Follows.bind (c := [_]) (d := [_])
      (Follows.compute (Q := fun payload t => leavePayload spec week = .ok payload ∧
        t = s.withLeave leave) fun payload h => ⟨h, rfl⟩) ?_)
    rintro payload _ ⟨hpayload, rfl⟩
    rw [after_update hpayload]
    exact changeLeave_takes rfl (Nat.lt_succ_self _)
  · exact Follows.mapError (changeLeave_takes rfl (Nat.lt_succ_self _))
  · unfold makeChange LeaveChange.stages
    refine Follows.bind (c := [_]) (d := [_])
      (Follows.compute (Q := fun payload t => leavePayload spec week = .ok payload ∧
        t = s.withLeave leave) fun payload h => ⟨h, rfl⟩) ?_
    rintro payload _ ⟨hpayload, rfl⟩
    rw [after_create hpayload]
    refine Follows.bind (c := [_]) (d := []) (changeLeave_takes rfl (Nat.lt_succ_self _))
      fun _ t ht => Follows.pure ht

lemma reconcileLeave_takes : Takes net (reconcileLeaveForStaffWeek employee lines week)
    (s.withLeave leave)
    (.ask (.getEmployeeLeaves employee) :: match dueChanges week leave employee lines with
      | .error _ => [.check false]
      | .ok changes => changes.flatMap (LeaveChange.stages week employee))
    fun _ t => ∃ changes, dueChanges week leave employee lines = .ok changes ∧
      t = s.withLeave (changes.foldl (LeaveChange.after week employee) leave) := by
  unfold reconcileLeaveForStaffWeek weekLeave
  set rows := leave.rows.filter fun row => row.employee = employee with hrows
  rw [Remote.bind_assoc]
  refine Follows.bind (c := [_]) (Follows.ask (Q := fun leaves t => leaves = rows ∧
    t = s.withLeave leave) rfl ⟨rfl, rfl⟩) ?_
  rintro _ _ ⟨rfl, rfl⟩
  unfold dueChanges
  rw [← hrows]
  rcases hsort : sortLeave rows week with e | held
  · exact Follows.raise
  · rw [compute_ok_bind]
    show Takes net _ _ (match outlook held lines week with
      | .error _ => [.check false]
      | .ok changes => changes.flatMap (LeaveChange.stages week employee))
        fun _ t => ∃ changes, outlook held lines week = .ok changes ∧
          t = s.withLeave (changes.foldl (LeaveChange.after week employee) leave)
    rcases houtlook : outlook held lines week with e | changes
    · exact Follows.raise
    · rw [compute_ok_bind]
      show Takes net _ _ (changes.flatMap (LeaveChange.stages week employee)) _
      have hturns : turns (fun _ => LeaveChange.stages week employee)
          (LeaveChange.after week employee) leave changes =
            changes.flatMap (LeaveChange.stages week employee) := turns_const
      rw [← hturns]
      exact (Follows.forM s.withLeave fun leave change _ => makeChange_takes change).conseq
        fun _ t ht => ⟨changes, rfl, ht⟩

lemma reconcileStaffLeave_takes (staff : Staff) :
    Takes net (reconcileStaffLeave week linesOf catalogue staff) (s.withLeave leave)
      (leaveStages week linesOf catalogue leave staff)
      fun _ t => t = s.withLeave (leaveAfter week linesOf catalogue leave staff) := by
  unfold reconcileStaffLeave leaveStages leaveAfter leaveOf
  rcases staff.xeroUserId with _ | link
  · exact Follows.pure rfl
  · simp only
    by_cases hactive : staff.isActiveBetween week.start week.finish = true
    · rw [if_pos hactive, if_pos hactive]
      rcases hsplit : splitBySurface (linesOf staff.id) catalogue with e | split
      · exact Follows.raise
      · rw [compute_ok_bind]
        rcases hemployee : link.uuid with e | employee
        · exact Follows.raise
        · rw [compute_ok_bind]
          refine reconcileLeave_takes.conseq ?_
          rintro _ _ ⟨changes, hchanges, rfl⟩
          simp only [bind, Except.bind, pure, Except.pure, hchanges]
    · rw [if_neg hactive, if_neg hactive]
      exact Follows.pure rfl

lemma reconcileLeave_turns : Takes net (people.forM (reconcileStaffLeave week linesOf catalogue)) s
    (leaveCourse week linesOf catalogue s.xero.leave people)
    fun _ t => t = s.withLeave
      (people.foldl (leaveAfter week linesOf catalogue) s.xero.leave) :=
  Follows.forM s.withLeave fun _ staff _ => reconcileStaffLeave_takes staff

end Leave

lemma adoptPayRun_takes {run : PayRun} {start finish payment : ℤ}
    (hfind : s.xero.payRuns.find? run.payRunId = some run) (hstart : run.periodStartDate = some start)
    (hfinish : run.periodEndDate = some finish) (hpayment : run.paymentDate = some payment) :
    Takes net (adoptPayRun week tenant run) s
      [.check (start = week.start && finish = week.finish), .ask (.getPayRun run.payRunId)]
      fun _ t => t.xero = s.xero := by
  have hmirror : ∃ row mirror, (mirrorPayRun run tenant).run net s =
      (.ok row, { s with mirror := mirror }) := by
    rw [run_mirrorPayRun]
    unfold transformPayRun
    rw [hstart, hfinish, hpayment]
    exact ⟨_, _, rfl⟩
  obtain ⟨row, mirror, hmirror⟩ := hmirror
  have hcovers : run.coversWeek week = (start = week.start && finish = week.finish : Bool) := by
    unfold PayRun.coversWeek
    rw [hstart, hfinish]
    simp
  unfold adoptPayRun
  rcases hweek : (start = week.start && finish = week.finish : Bool) with _ | _
  · rw [if_pos (by rw [hcovers, hweek]; simp)]
    exact Follows.answer_bind hmirror rfl Follows.raise
  · rw [if_neg (by rw [hcovers, hweek]; simp)]
    refine Follows.check_true (Follows.bind (c := [_]) (d := []) (Follows.ask (Q := fun detail t =>
      detail = run ∧ s = t) (by rw [hfind]) ⟨rfl, rfl⟩) ?_)
    rintro _ _ ⟨rfl, rfl⟩
    exact Follows.answers hmirror rfl rfl

lemma createPayRunForWeek_takes {db : Database} : Takes net (createPayRunForWeek db week tenant) s
    (createStages db week s.xero)
    fun _ t => t.xero.timesheets = s.xero.timesheets ∧ t.xero.leave = s.xero.leave := by
  unfold createPayRunForWeek createStages
  rcases calendarName db with e | name
  · exact Follows.raise
  · rw [compute_ok_bind]
    refine Follows.bind (c := [_]) (Follows.ask (Q := fun calendars t =>
      calendars = s.xero.calendars ∧ s = t) rfl ⟨rfl, rfl⟩) ?_
    rintro _ _ ⟨rfl, rfl⟩
    rcases theCalendar name s.xero.calendars with e | calendar
    · exact Follows.raise
    · rw [compute_ok_bind]
      let made (id : ℕ) : PayRun := ⟨id, some calendar.id, some calendar.periodStartDate,
        some calendar.periodEndDate, some (week.finish + paymentOffsetDays), some .draft⟩
      refine Follows.bind (c := [_]) (Follows.change (Q := fun run t => run = made s.xero.payRuns.next ∧
        t = { s with xero := { s.xero with payRuns := s.xero.payRuns.add made } }) ⟨rfl, rfl⟩ ?_) ?_
      · show _ < s.xero.timesheets.next + s.xero.leave.next + (s.xero.payRuns.next + 1)
        exact Nat.lt_succ_self _
      · rintro _ _ ⟨rfl, rfl⟩
        refine (@adoptPayRun_takes _ _ _ _ _ calendar.periodStartDate
          calendar.periodEndDate _ ?_ rfl rfl rfl).conseq fun _ t ht => ?_
        · exact Register.find?_of_mem (List.mem_append_right _ (List.mem_singleton_self _))
        · rw [ht]
          exact ⟨rfl, rfl⟩

lemma ensurePayRunForWeek_takes {db : Database} (hopen : blocked week tenant s.mirror = false) :
    Takes net (ensurePayRunForWeek db week tenant) s (payRunStages db week tenant s.mirror s.xero)
      fun _ t => t.xero.timesheets = s.xero.timesheets ∧ t.xero.leave = s.xero.leave := by
  unfold ensurePayRunForWeek payRunStages
  rcases calendarId db with e | calendar
  · exact Follows.raise
  · rw [compute_ok_bind]
    refine Follows.answer_bind rfl rfl ?_
    dsimp only
    split
    · rename_i row hfind
      have hany : s.mirror.any (XeroPayRun.isDraftFor tenant calendar week) = true :=
        List.any_eq_true.mpr ⟨row, List.mem_of_find?_eq_some hfind, List.find?_some hfind⟩
      rw [if_pos hany]
      exact Follows.pure ⟨rfl, rfl⟩
    · rename_i hfind
      have hany : s.mirror.any (XeroPayRun.isDraftFor tenant calendar week) = false := by
        rw [List.any_eq_false]
        exact fun row hrow => List.find?_eq_none.mp hfind row hrow
      rw [if_neg (by rw [hany]; exact Bool.false_ne_true)]
      exact Follows.answer_bind (requireNoBlockingDraft_open hopen) rfl createPayRunForWeek_takes

lemma existingTimesheets_takes {Q : List PostedTimesheet → Posting → Prop}
    (h : ∀ found, s.xero.timesheets.rows.foldlM (addFound week) [] = .ok found → Q found s) :
    Takes net (existingTimesheetsForWeek week) s
      [.ask (.getTimesheets week.start),
        .check (s.xero.timesheets.rows.foldlM (addFound week) []).isOk] Q := by
  unfold existingTimesheetsForWeek
  refine Follows.bind (c := [_]) (Follows.ask (Q := fun sheets t =>
    sheets = s.xero.timesheets.rows ∧ s = t) rfl ⟨rfl, rfl⟩) ?_
  rintro _ _ ⟨rfl, rfl⟩
  exact Follows.compute h

/-- **The course is taken.** -/
lemma preflight_takes (attempt : Attempt) : Takes net
    (preflight attempt.db attempt.connection attempt.staffIds attempt.weekStartDate) s
    (attempt.course s) fun prepared t =>
      checks attempt.db attempt.connection attempt.staffIds attempt.weekStartDate =
        .ok (prepared.week, prepared.linesOf, prepared.staff) ∧
      prepared.catalogue = .load attempt.db ∧
      t.xero.leave = prepared.staff.foldl
        (leaveAfter prepared.week prepared.linesOf prepared.catalogue) s.xero.leave := by
  unfold preflight Attempt.course
  rcases hchecks : checks attempt.db attempt.connection attempt.staffIds attempt.weekStartDate with
    e | ⟨week, linesOf, staff⟩
  · exact Follows.raise
  · rw [compute_ok_bind]
    refine refreshPayRuns_takes fun mirror => ?_
    rcases hblocked : blocked week attempt.connection mirror with _ | _
    · refine Follows.check_true (Follows.answer_bind (requireNoBlockingDraft_open hblocked) rfl ?_)
      refine Follows.bind reconcileLeave_turns ?_
      rintro _ _ rfl
      refine Follows.bind (ensurePayRunForWeek_takes hblocked) fun _ t ht => ?_
      rw [← List.append_nil (timesheetStages _ _)]
      unfold timesheetStages
      have hsame : t.xero.timesheets = s.xero.timesheets := ht.1
      rw [← hsame]
      refine Follows.bind (existingTimesheets_takes (Q := fun _ u => t = u) fun _ _ => rfl) ?_
      rintro existing _ rfl
      exact Follows.pure ⟨rfl, rfl, ht.2⟩
    · obtain ⟨e, hrun⟩ := @requireNoBlockingDraft_blocked net
        { s with mirror := mirror } _ _ hblocked
      exact Follows.error_bind hrun rfl

end Follows

/-! ## After it -/

section Turns

variable {net : Call → Fate PayrollError} {db : Database} {prepared : Prepared} {staff : Staff}

lemma yieldStaffWeek_answers {whose : Option (ℕ × List PayLine)}
    (h : leaveOf prepared.week prepared.linesOf prepared.catalogue staff = .ok whose) :
    Ends net (fun _ => True) (yieldStaffWeek db prepared staff) (fun _ _ => True) fun _ => False := by
  unfold yieldStaffWeek
  refine Ends.bind (Q := fun _ _ => True) ?_ fun _ => Ends.write fun _ _ => trivial
  unfold postOneStaffWeek
  unfold leaveOf at h
  by_cases hactive : staff.isActiveBetween prepared.week.start prepared.week.finish = true
  · rw [if_neg (not_not.mpr hactive)]
    rcases hlink : staff.xeroUserId with _ | link
    · exact Ends.pure fun _ _ => trivial
    · rw [hlink] at h
      simp only [hactive, if_true, bind_eq_ok] at h
      obtain ⟨split, hsplit, employee, hemployee, -⟩ := h
      simp only [hsplit, hemployee, compute_ok_bind]
      refine Ends.ite (fun _ => ?_) fun _ => ?_
      · refine Ends.bind (Q := fun _ _ => True) ((Ends.settle Ends.trivial).conseq (fun _ h => h)
          (fun _ _ _ => trivial) fun _ h => h) fun outcome => ?_
        rcases outcome with _ | _ <;> exact Ends.pure fun _ _ => trivial
      · refine Ends.bind (Q := fun _ _ => True) ((Ends.settle Ends.trivial).conseq (fun _ h => h)
          (fun _ _ _ => trivial) fun _ h => h) fun outcome => ?_
        rcases outcome with _ | _ <;> exact Ends.pure fun _ _ => trivial
  · rw [if_pos hactive]
    exact Ends.pure fun _ _ => trivial

lemma leaveOf_of_through {week : WeekWindow} {linesOf : ℕ → List PayLine}
    {catalogue : LeaveCatalogue} {leave : Register EmployeeLeave.leaveId} {people : List Staff}
    (h : through net (leaveCourse week linesOf catalogue leave people) = true) :
    ∀ person ∈ people, ∃ whose, leaveOf week linesOf catalogue person = .ok whose := by
  induction people generalizing leave with
  | nil => exact List.forall_mem_nil _
  | cons person people ih =>
      unfold leaveCourse turns at h
      rw [through_append, Bool.and_eq_true_iff] at h
      refine List.forall_mem_cons.mpr ⟨?_, ih h.2⟩
      rcases hwhose : leaveOf week linesOf catalogue person with e | whose
      · have hstages := h.1
        simp [leaveStages, hwhose, Stage.passes] at hstages
      · exact ⟨whose, rfl⟩

end Turns

/-! ## The refused run -/

/-- How an attempt ends. -/
def Attempt.outcome (attempt : Attempt) (s : Posting) : Except PayrollError Unit :=
  ((postPayrollWeek attempt.db attempt.connection attempt.staffIds attempt.weekStartDate
    attempt.taken).run attempt.net { s with yielded := [] }).1

/-- The run raises before its first result. -/
def Attempt.Refused (attempt : Attempt) (s : Posting) : Prop :=
  (∃ e, attempt.outcome s = .error e) ∧ (attempt.run s).yielded = []

section Refused

variable {attempt : Attempt} {s : Posting}

/-- What a run has before its first result: it has passed its checks and has everybody's leave
reconciled. -/
lemma preflight_eq_ok {prepared : Prepared} {t : Posting} (hrun : (preflight attempt.db
    attempt.connection attempt.staffIds attempt.weekStartDate).run attempt.net s =
      (.ok prepared, t)) :
    checks attempt.db attempt.connection attempt.staffIds attempt.weekStartDate =
      .ok (prepared.week, prepared.linesOf, prepared.staff) ∧
    prepared.catalogue = .load attempt.db ∧
    t.xero.leave = prepared.staff.foldl
      (leaveAfter prepared.week prepared.linesOf prepared.catalogue) s.xero.leave ∧
    through attempt.net (leaveCourse prepared.week prepared.linesOf prepared.catalogue s.xero.leave
      prepared.staff) = true := by
  have htakes := (@preflight_takes attempt.net s attempt).2
  rw [hrun] at htakes
  obtain ⟨hthrough, hchecks, hcatalogue, hleave⟩ := htakes
  refine ⟨hchecks, hcatalogue, hleave, ?_⟩
  unfold Attempt.course at hthrough
  rw [hchecks] at hthrough
  rcases hsync : syncedMirror s.xero.payRuns.rows attempt.connection s.mirror with e | mirror
  · simp [hsync, Stage.passes] at hthrough
  · simp only [hsync, through_cons, through_append, Bool.and_eq_true_iff] at hthrough
    rw [hcatalogue]
    exact hthrough.2.2.1

/-- **Nothing raises once there is a first result**: a run is refused exactly if what comes before it
is, and has then done no more. -/
lemma refused_iff : attempt.Refused s ↔ ∃ e, (preflight attempt.db attempt.connection
    attempt.staffIds attempt.weekStartDate).run attempt.net { s with yielded := [] } =
      (.error e, attempt.run s) := by
  unfold Attempt.Refused Attempt.outcome Attempt.run postPayrollWeek
  rcases hrun : (preflight attempt.db attempt.connection attempt.staffIds
    attempt.weekStartDate).run attempt.net { s with yielded := [] } with ⟨e | prepared, t⟩
  · have hends : Ends attempt.net (fun t => t.xero.timesheets = s.xero.timesheets ∧ t.yielded = [])
        (preflight attempt.db attempt.connection attempt.staffIds attempt.weekStartDate)
        (fun _ _ => True) fun t => t.yielded = [] :=
      preflight_ends.conseq (fun _ h => h) (fun _ _ _ => trivial) fun _ h => h.2
    have hyielded := hends { s with yielded := [] } ⟨rfl, rfl⟩
    rw [hrun] at hyielded
    rw [run_bind_of_error hrun]
    exact ⟨fun _ => ⟨e, rfl⟩, fun _ => ⟨⟨e, rfl⟩, hyielded⟩⟩
  · have hturns : Ends attempt.net (fun _ => True)
        ((prepared.staff.take attempt.taken).forM (yieldStaffWeek attempt.db prepared))
        (fun _ _ => True) fun _ => False := by
      refine Ends.forM fun person hperson => ?_
      obtain ⟨whose, hwhose⟩ := leaveOf_of_through (preflight_eq_ok hrun).2.2.2
        person (List.mem_of_mem_take hperson)
      exact yieldStaffWeek_answers hwhose
    have hends := hturns t trivial
    rw [run_bind_of_ok hrun]
    rcases hlast : ((prepared.staff.take attempt.taken).forM
      (yieldStaffWeek attempt.db prepared)).run attempt.net t with ⟨e | _, u⟩
    · rw [hlast] at hends
      exact hends.elim
    · simp

def annualLeave : PayItem := ⟨2, some "annual", "Annual Leave", true, none⟩

/-- A day of annual leave. -/
def away (id staff : ℕ) : PayLine :=
  { worked id staff 0 8 (by decide +kernel) with
    job := 9
    xeroPayItem := some annualLeave
    isBillable := false }

/-- Two people who were away on the Monday. -/
def absentWeek : Database :=
  { workshopWeek with
    leaveTypes := [⟨.annual, some (9, some 2)⟩]
    lines := [away 1 1, away 2 2] }

/-- The second of them has leave in Xero since the week before. -/
def awaySinceLastWeek : Posting :=
  { newOrganisation with xero := { newOrganisation.xero with
      leave := Register.empty.add fun id =>
        ⟨id, 8, some "annual", "Annual Leave", some (-3), some 0,
          [⟨some (-7), some (-1), some 24⟩, ⟨some 0, some 6, some 8⟩]⟩ } }

/-- The attempt to post them, answered throughout. -/
def absences : Attempt := { answered [1, 2] with db := absentWeek }

end Refused

end Payroll

end Docketworks
