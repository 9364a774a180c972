import Docketworks.Timesheet.ClockTimes

/-!
# Approving days, and the sweep

The writes of `apps/timesheet/services/approval.py`, and the fill they use
(`fill_with_general_work` in `apps/timesheet/services/workshop_timesheet_service.py`).

* `fillWithGeneralWork` — the rest of a day put on General work from now on.
* `approveDay` — every entry of a day that is waiting approved.
* `peopleOn` — the people of a day.
* `sweep` — each person's days filled, approved and marked sent.

**Design.**  The staff table stands in the order of the directory, so `peopleOn` keeps it.  A day
is sent or not here: when it was sent is on its trail alone.
-/

namespace Docketworks

open Library Library.Transaction

namespace Timesheet

/-! ## Filling a day -/

/-- `fill_with_general_work`: the hours it made. -/
def fillWithGeneralWork (owner : Staff) (day : ℤ) (actor : Staff) : TimesheetCall ℚ := do
  .require (actor.id = owner.id ∨ actor.isOfficeStaff = true)
    (.accessDenied "Only office staff fill another person's day.")
  let row ← settleDay owner day actor
  .when (row.generalWorkFill = false) (saveRow { row with generalWorkFill := true })
  refillGeneralWork owner day

/-! ## Approving a day -/

/-- `_waiting`: a person's entries for the day the office has still to approve. -/
def Timesheets.waiting (db : Timesheets) (worker : ℕ) (day : ℤ) : List TimeLine :=
  (db.dayTimeLines worker day).filter fun line => !line.approved && line.managedBy = none

def approveLine (line : TimeLine) : TimesheetCall Unit :=
  .write fun db => { db with lines := db.lines.put { line with approved := true } }

/-- `approve_day`: approve every entry of one person's day that is waiting; how many. -/
def approveDay (worker : Staff) (day : ℤ) : TimesheetCall ℕ := do
  let waiting ← .read fun db => db.waiting worker.id day
  waiting.forM approveLine
  pure waiting.length

/-! ## The people of a sweep -/

/-- `scheduled_hours`: what the person was rostered for; no weekend where there are none. -/
def scheduledHours (company : Company) (person : Staff) (day : ℤ) : Except Refusal ℚ :=
  if company.weekendTimesheetsEnabled = false ∧ 5 ≤ weekday day then .ok 0
  else contractedHoursOn person day

def rostered (company : Company) (person : Staff) (day : ℤ) : Except Refusal Bool :=
  (scheduledHours company person day).map fun hours => decide (0 < hours)

def hasLeave (entries : List TimeLine) : Bool :=
  entries.any fun line => line.managedBy = some .leave

/-- `_assumed_standard`: the day is the standard day because the person did not clock. -/
def assumedStandard (db : Timesheets) (person : Staff) (day : ℤ) (row : Option AttendanceDay)
    (entries : List TimeLine) : Except Refusal Bool :=
  if row = none ∧ person.isActiveOn day ∧ day < db.today ∧ hasLeave entries = false then
    rostered db.company person day
  else .ok false

/-- `get_displayable_staff`: the people the timesheets of a day list. -/
def Timesheets.displayableStaff (db : Timesheets) (day : ℤ) : List Staff :=
  db.staff.rows.filter fun person => person.isActiveOn day && person.hasPayrollId

/-- The person has clocked, or has time on the day. -/
def Timesheets.present (db : Timesheets) (person : Staff) (day : ℤ) : Bool :=
  (db.dayRow person.id day).isSome || !(db.dayTimeLines person.id day).isEmpty

/-- `_people_on`: those who clocked, have time on the day, or were rostered for it. -/
def Timesheets.peopleOn (db : Timesheets) (day : ℤ) : Except Refusal (List Staff) :=
  (db.displayableStaff day).filterM fun person =>
    if db.present person day then .ok true else assumedStandard db person day none []

lemma mem_peopleOn {db : Timesheets} {day : ℤ} {people : List Staff} {person : Staff}
    (h : db.peopleOn day = .ok people) (hperson : person ∈ people) :
    person ∈ db.displayableStaff day ∧
      (if db.present person day then .ok true else assumedStandard db person day none []) =
        .ok true :=
  (filterM_eq_ok h).2 person hperson

/-! ## The sweep -/

/-- Why a person's day was not swept. -/
inductive SweepSkipReason where
  | stillClockedIn
  | noClockTimes
deriving DecidableEq, Repr

/-- A day the sweep left alone. -/
structure SweepSkip where
  staff : ℕ
  date : ℤ
  reason : SweepSkipReason
deriving DecidableEq, Repr

/-- A day the sweep took past the usual day. -/
structure SweepOvertime where
  staff : ℕ
  message : String
deriving DecidableEq, Repr

/-- What a sweep moved onto General work, and the days it left alone. -/
structure SweepData where
  sweptHours : ℚ
  skipped : List SweepSkip
  overtime : List SweepOvertime
deriving DecidableEq, Repr

/-- The stretches of a person's day to sweep; none when the sweep leaves the day alone. -/
def Timesheets.windowsToSweep (db : Timesheets) (person : Staff) (day : ℤ) :
    Except Refusal (Option (List Window)) := do
  let row := db.dayRow person.id day
  let (entries, breakLines) := splitBreaks db.company (db.dayTimeLines person.id day)
  let assumed ← if row.isSome then pure true else assumedStandard db person day row entries
  if assumed then unallocatedWindows db.company db.today day row entries breakLines else pure none

/-- `_goes_past_the_usual_day`, with what the office is told of it. -/
def overtimeWarning (db : Timesheets) (worker : Staff) (day : ℤ) (windows : List Window) :
    Except Refusal (List SweepOvertime) := do
  let hours ← hoursIn windows
  let overtime ← overtimeHours db worker day hours (hoursWorked db worker day false)
  if overtime ≤ 0 then pure []
  else if onAPublicHoliday db worker day then pure [⟨worker.id,
    "%(name)s worked a public holiday, so that time is at time and a half."⟩]
  else match standardDay db.company day with
    | none => .error (.value "%(day)s has no usual day, so nothing on it is overtime")
    | some _ => pure [⟨worker.id,
        "%(name)s has done over %(usual)s, converting some time to overtime."⟩]

/-- `_send_for_him`: the day's row marked sent. -/
def sendForHim (worker : Staff) (day : ℤ) : TimesheetCall Unit := do
  let row ← .read fun db => db.dayRow worker.id day
  let row ← .orRefuse row (.doesNotExist "AttendanceDay")
  .when (row.submitted = false) (saveRow { row with submitted := true })

/-- One person's day swept. -/
def sweepOne (actor : Staff) (day : ℤ) (data : SweepData) (person : Staff) :
    TimesheetCall SweepData := do
  let windows ← .consult fun db => db.windowsToSweep person day
  match windows with
  | none => do
      let row ← .read fun db => db.dayRow person.id day
      pure { data with
        skipped := data.skipped ++
          [⟨person.id, day, if row.isNone then .noClockTimes else .stillClockedIn⟩] }
  | some windows => do
      let warning ← .consult fun db => overtimeWarning db person day windows
      let hours ← fillWithGeneralWork person day actor
      let _ ← approveDay person day
      sendForHim person day
      pure { data with
        sweptHours := data.sweptHours + hours
        overtime := data.overtime ++ warning }

/-- `_sweep`: each person's day swept, the days in turn. -/
def sweep (peopleByDay : List (ℤ × List Staff)) (actor : Staff) : TimesheetCall SweepData := do
  let _ ← .consult generalWorkJobId
  (peopleByDay.flatMap fun each => each.2.map (Prod.mk each.1)).foldlM
    (fun data each => sweepOne actor each.1 data each.2) ⟨0, [], []⟩

def sweepPerson (worker : Staff) (days : List ℤ) (actor : Staff) : TimesheetCall SweepData :=
  sweep (days.map fun day => (day, [worker])) actor

def sweepEveryone (days : List ℤ) (actor : Staff) : TimesheetCall SweepData := do
  let peopleByDay ← .consult fun db => days.mapM fun day =>
    (db.peopleOn day).map fun people => (day, people)
  sweep peopleByDay actor

end Timesheet

end Docketworks
