import Docketworks.Timesheet.GeneralWork

/-!
# Clocking in and out, and the breaks of a day

The writes of `apps/timesheet/services/attendance.py`.

* `clockIn`, `clockOut`, `setClockTimes` — a day's clock times, tapped or set by hand.
* `settleDay` — the defaults written for the times a person did not clock.
* `generateDefaultBreaks`, `dropBreaksAfterFinish` — the standard breaks put on a day and taken off.
* `addBreak`, `changeBreak`, `removeBreak` — a break as the line it is.

**Design.**  `AttendanceDay` carries that a finish is after its start, so a row is made by
`attendanceRow`, which refuses as the table's constraint does.
-/

namespace Docketworks

open Library Library.Transaction

namespace Timesheet

/-! ## Rows -/

def toTheMinute (moment : TimeOfDay) : TimeOfDay := .ofMinutes moment.minutes moment.minutes_lt

/-- A row with its clock times; the table refuses a finish that is not after the start. -/
def attendanceRow (row : AttendanceDay) (clockIn : TimeOfDay) (clockOut : Option TimeOfDay) :
    Except Refusal AttendanceDay :=
  if h : ∀ finish ∈ clockOut, clockIn < finish then
    .ok { row with clockIn := clockIn, clockOut := clockOut, finish_after_start := h }
  else .error (.database "timesheet_attendance_finish_after_start")

/-- A day as it is first made: at work, and nothing on it. -/
def newRow (staff : ℕ) (day : ℤ) (clockIn : TimeOfDay) : AttendanceDay where
  staff := staff
  date := day
  clockIn := clockIn
  clockOut := none
  submitted := false
  breaksGenerated := false
  generalWorkFill := false
  finish_after_start := by simp

/-- Store a row over the day's own, or as the day's first. -/
def saveRow (row : AttendanceDay) : TimesheetCall Unit := do
  let attendance ← .read Timesheets.attendance
  match attendance.insert? row with
  | some attendance => .write fun db => { db with attendance := attendance }
  | none => .write fun db => { db with attendance := db.attendance.put row }

/-! ## The breaks of a day -/

/-- `_break_lines_if_any`: the person's lines on the Break job for a day. -/
def Timesheets.breakLines (db : Timesheets) (owner : ℕ) (day : ℤ) : List TimeLine :=
  if db.company.breakJob = none then []
  else (splitBreaks db.company (db.dayTimeLines owner day)).2

/-- The entry a break is made as: paid or not, and billed to nobody. -/
def breakEntry (job : ℕ) (day : ℤ) (each : StandardBreak) (hours : ℚ) :
    WorkshopEntryCreateData where
  job := job
  accountingDate := day
  hours := hours
  startTime := some each.window.start
  endTime := some each.window.finish
  description := some each.description
  isBillable := false
  wageRateMultiplier := if each.paid then defaultMultiplier else zeroMultiplier

/-- `_create_break`: a break is a line on the Break job. -/
def createBreak (owner : Staff) (day : ℤ) (each : StandardBreak) (generated : Bool) :
    TimesheetCall Unit := do
  let company ← .read Timesheets.company
  let job ← .orRefuse company.breakJob (.conflict "Breaks are not set up. Tell the office.")
  let hours ← .consult fun _ => hoursFor each.window.start each.window.finish []
  let _ ← createEntry owner (breakEntry job day each hours)
    (if generated then some .untouchedStandardBreak else none) none
  pure ()

/-- The standard breaks a day first started gets: those from the start on, none he was not there
for, and none that one of the day already stands for. -/
def breaksToGenerate (db : Timesheets) (row : AttendanceDay) : Except Refusal (List StandardBreak) :=
  do
    let taken ← breakWindows db.company row.date (some row) (db.breakLines row.staff row.date)
    let breaks ← defaultBreaks db.company
    pure (breaks.filter fun each =>
      !(each.window.start < row.clockIn) &&
        !(row.clockOut.any fun finish => finish < each.window.finish) &&
          !overlaps each.window taken)

/-- `generate_default_breaks`: the standard breaks put on a day, once. -/
def generateDefaultBreaks (owner : Staff) (row : AttendanceDay) : TimesheetCall AttendanceDay :=
  if row.breaksGenerated then pure row
  else do
    let breaks ← .consult fun db => breaksToGenerate db row
    breaks.forM fun each => createBreak owner row.date each true
    let row := { row with breaksGenerated := true }
    saveRow row
    pure row

/-- `drop_breaks_after_finish`: the standard breaks nobody touched that end after the finish. -/
def dropBreaksAfterFinish (actor : Staff) (row : AttendanceDay) : TimesheetCall Unit :=
  match row.clockOut with
  | none => pure ()
  | some finish => do
      let lines ← .read fun db => db.breakLines row.staff row.date
      (lines.filter fun line => line.payload.source = some .untouchedStandardBreak &&
        (lineWindow line).any fun window => finish < window.finish).forM fun line =>
          deleteEntry actor line.id none

/-! ## Clock times -/

/-- Refuse a finish that is not later the same day. -/
def requireFinishAfterStart (start finish : TimeOfDay) : Except Refusal Unit :=
  if finish ≤ start then .error (.invalidInput
    ("A finish time has to be later than the start time (%(start)s). " ++
      "If you worked past midnight, ask the office to put it right."))
  else .ok ()

/-- `clock_in`: start the worker's day, to the minute. -/
def clockIn (worker : Staff) : TimesheetCall Unit := do
  let today ← .read Timesheets.today
  let now ← .read Timesheets.now
  let row ← .read fun db => db.dayRow worker.id today
  match row with
  | some row =>
      if row.clockOut = none then .refuse (.conflict "You are already clocked in.")
      else .refuse (.conflict
        "You have already clocked in and out today. Change the times, or clock back in.")
  | none => do
      let row := newRow worker.id today (toTheMinute now)
      saveRow row
      let _ ← generateDefaultBreaks worker row
      pure ()

/-- The day a clock-out finishes: the worker's own, or one from the standard start where they forgot
to clock in. -/
def dayToFinish (worker : Staff) (today : ℤ) (finish : TimeOfDay) : TimesheetCall AttendanceDay := do
  let row ← .read fun db => db.dayRow worker.id today
  match row with
  | some row => pure row
  | none => do
      let company ← .read Timesheets.company
      match standardDay company today with
      | none => .refuse (.conflict "You are not clocked in today.")
      | some standard =>
          if finish ≤ standard.start then .refuse (.conflict "You are not clocked in today.")
          else do
            let row := newRow worker.id today standard.start
            saveRow row
            generateDefaultBreaks worker row

/-- `clock_out`: finish the worker's day. -/
def clockOut (worker : Staff) : TimesheetCall Unit := do
  let today ← .read Timesheets.today
  let now ← .read Timesheets.now
  let finish := toTheMinute now
  let row ← dayToFinish worker today finish
  .require (row.clockOut = none) (.conflict "You have already clocked out today.")
  .require (finish ≠ row.clockIn)
    (.conflict "You clocked in a moment ago. Wait a minute to clock out.")
  .consult fun _ => requireFinishAfterStart row.clockIn finish
  let row ← .consult fun _ => attendanceRow row row.clockIn (some finish)
  saveRow row
  dropBreaksAfterFinish worker row
  let _ ← refillGeneralWork worker today
  pure ()

/-- `set_clock_times`: a day's clock times set by hand; what was sent is no longer what is
recorded. -/
def setClockTimes (actor owner : Staff) (day : ℤ) (start : TimeOfDay) (finish : Option TimeOfDay) :
    TimesheetCall Unit := do
  .require (actor.id = owner.id ∨ actor.isOfficeStaff = true)
    (.accessDenied "Only office staff change another person's clock times.")
  .consult fun _ => match finish with
    | some finish => requireFinishAfterStart start finish
    | none => .ok ()
  let row ← .read fun db => db.dayRow owner.id day
  let row := row.getD (newRow owner.id day start)
  let row ← .consult fun _ =>
    attendanceRow { row with submitted := false } (toTheMinute start) (finish.map toTheMinute)
  saveRow row
  let row ← generateDefaultBreaks owner row
  dropBreaksAfterFinish actor row
  let _ ← refillGeneralWork owner day
  pure ()

/-- `settle_day`: the day with both clock times, the defaults standing in for any not clocked.  A
default finish stands in only once it has passed. -/
def settleDay (owner : Staff) (day : ℤ) (actor : Staff) : TimesheetCall AttendanceDay := do
  let row ← .read fun db => db.dayRow owner.id day
  let today ← .read Timesheets.today
  let now ← .read Timesheets.now
  let company ← .read Timesheets.company
  match daySpan company today day row with
  | none =>
      if (row.any fun row => row.clockOut = none) ∧ today ≤ day then
        .refuse (.conflict "Clock out first.")
      else .refuse (.conflict "Set the day's clock times first.")
  | some span =>
      match row with
      | some row =>
          if row.clockOut ≠ none then pure row
          else do
            .require (¬(today < day ∨ (day = today ∧ now < span.finish))) (.conflict "Clock out first.")
            let row ← .consult fun _ => attendanceRow row row.clockIn (some span.finish)
            saveRow row
            dropBreaksAfterFinish actor row
            pure row
      | none => do
          .require (¬(today < day ∨ (day = today ∧ now < span.finish))) (.conflict "Clock out first.")
          let row ← .consult fun _ =>
            attendanceRow (newRow owner.id day span.start) span.start (some span.finish)
          saveRow row
          let row ← generateDefaultBreaks owner row
          dropBreaksAfterFinish actor row
          pure row

/-! ## Breaks by hand -/

/-- `add_break`: a break added to a day. -/
def addBreak (owner : Staff) (day : ℤ) (start finish : TimeOfDay) (paid : Bool) (actor : Staff) :
    TimesheetCall Unit := do
  .require (actor.id = owner.id ∨ actor.isOfficeStaff = true)
    (.accessDenied "Only office staff change another person's breaks.")
  .consult fun _ => requireBreakTimes start finish
  createBreak owner day ⟨⟨start, finish⟩, paid, if paid then "Paid break" else "Unpaid break"⟩ false

/-- `_break_line`: a break by its line; a line on any other job is not one. -/
def theBreakLine (entry : ℕ) : TimesheetCall TimeLine := do
  let company ← .read Timesheets.company
  let job ← .orRefuse company.breakJob (.conflict "Breaks are not set up. Tell the office.")
  let line ← .read fun db => db.lines.find? entry
  .orRefuse (line.filter fun line => line.job = job) (.doesNotExist "Break")

/-- `change_break`: a break moved or resized; it keeps its kind. -/
def changeBreak (entry : ℕ) (start finish : TimeOfDay) (actor : Staff) : TimesheetCall Unit := do
  .consult fun _ => requireBreakTimes start finish
  let line ← theBreakLine entry
  let hours ← .consult fun _ => hoursFor start finish []
  updateEntry actor
    { entry := line.id
      startTime := some (some start)
      endTime := some (some finish)
      hours := some hours }

/-- `remove_break`: a break taken off the day. -/
def removeBreak (entry : ℕ) (actor : Staff) : TimesheetCall Unit := do
  let line ← theBreakLine entry
  deleteEntry actor line.id none

end Timesheet

end Docketworks
