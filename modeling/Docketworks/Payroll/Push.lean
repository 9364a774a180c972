import Docketworks.Payroll.LeaveReconcile

/-!
# Posting a week of timesheet hours to Xero Payroll

`apps/xero/payroll_push.py`, with the pay-run mirror of `apps/xero/transforms.py`.

* `timesheetLinePayloads`, `linesMatch`, `postTimesheet` — one timesheet, replaced and approved.
* `existingTimesheetsForWeek` — what Xero already holds for the week.
* `ensurePayRunForWeek`, `requireNoBlockingDraft` — the week's draft pay run.
* `preflight`, `postOneStaffWeek`, `postPayrollWeek` — the posting run.
* `weekPostingStatus` — what Xero holds beside what was recorded.

**Design.**  The run is a generator: its consumer takes a number of results and may leave the rest.  A
result is yielded into the state, so one that was yielded before an exception is seen.  The lines are
read once: the database stands still.
-/

namespace Docketworks

open Library

namespace Payroll

/-! ## The lines of a week -/

/-- Every approved time line in the week that is hours, optionally narrowed to some staff. -/
def weekTimeLines (db : Database) (week : WeekWindow) (staffIds : Option (List ℕ)) : List PayLine :=
  (hours (db.lines.filter fun line => line.approved && week.start ≤ line.accountingDate &&
    line.accountingDate ≤ week.finish)).filter fun line =>
      staffIds.all fun ids => line.staff.any fun staff => staff ∈ ids

/-- `_lines_by_staff`, of one person. -/
def linesOf (lines : List PayLine) (staff : ℕ) : List PayLine :=
  lines.filter fun line => line.staff = some staff

/-- `_lines_by_staff` refuses a line without a staff member. -/
def groupedByStaff (lines : List PayLine) : Except PayrollError (ℕ → List PayLine) :=
  if lines.any fun line => line.staff = none then
    .error (.value "Time line %(line_id)s in the payroll week has no staff member")
  else .ok (linesOf lines)

def validatePayItemsForWeek (catalogue : LeaveCatalogue) (lines : List PayLine) :
    Except PayrollError Unit := do
  let surfaces ← lines.mapM fun line => (catalogue.surfaceFor line).map fun surface => (line, surface)
  let postable := (surfaces.filter fun line => line.2 ≠ .xeroComputed).map Prod.fst
  let items ← postable.mapM requirePayItem
  if items.any fun item => item.xeroId = none then
    .error (.value
      ("Payroll pay items are not linked to Xero — run " ++
        "'python manage.py xero --configure-payroll' first:\n%(problems)s"))
  else pure ()

/-- One person's lines, by the payroll surface each reaches. -/
structure SurfaceSplit where
  leaveApi : List PayLine
  timesheet : List PayLine
  xeroComputed : List PayLine

def splitBySurface (lines : List PayLine) (catalogue : LeaveCatalogue) :
    Except PayrollError SurfaceSplit := do
  let surfaces ← lines.mapM fun line => (catalogue.surfaceFor line).map fun surface => (line, surface)
  let on (surface : PostingSurface) := (surfaces.filter fun line => line.2 = surface).map Prod.fst
  pure ⟨on .leaveApi, on .timesheet, on .xeroComputed⟩

/-! ## Timesheets -/

/-- Aggregate lines into one timesheet line per date and earnings rate. -/
def timesheetLinePayloads (lines : List PayLine) : Except PayrollError (List TimesheetLinePayload) := do
  let items ← lines.mapM fun line => (requirePayItem line).map fun item => (line, item)
  let totals := items.foldl (fun (totals : List ((ℤ × String) × ℚ)) line =>
    tally (line.1.accountingDate, line.2.xeroText) line.1.quantity totals) []
  pure (totals.map fun total => ⟨total.1.1, total.1.2, quantize total.2⟩)

/-- Whether Xero already holds exactly these lines, as a multiset. -/
def linesMatch (existingLines newLines : List TimesheetLinePayload) : Bool :=
  decide (existingLines.Perm newLines)

/-- What Xero's timesheet list can be trusted for. -/
structure PostedTimesheet where
  timesheetId : ℕ
  employeeId : ℕ
  status : TimesheetStatus
deriving DecidableEq, Repr

/-- A line of a timesheet in the shape it is sent in; a null is a timesheet that was deleted. -/
def readLine (line : TimesheetLine) : Except PayrollError TimesheetLinePayload :=
  match line.date, line.earningsRateId, line.numberOfUnits with
  | some date, some rate, some units => .ok ⟨date, rate, quantize units⟩
  | _, _, _ => .error (.value
      ("Xero returned %(count)s incomplete line(s) on timesheet " ++
        "%(timesheet_id)s. Xero does that for a DELETED timesheet, so the hours it " ++
        "holds cannot be read from this response."))

def readLines (sheet : XeroTimesheet) : Except PayrollError (List TimesheetLinePayload) :=
  sheet.lines.mapM readLine

def timesheetLines (timesheet : ℕ) : PayrollCall (List TimesheetLinePayload) := do
  let sheet ← getTimesheet timesheet
  .compute (readLines sheet)

def calendarId (db : Database) : Except PayrollError ℕ :=
  match db.xeroPayrollCalendarId with
  | some calendar => .ok calendar
  | none => .error (.value
      ("DocketWorks doesn't know which Xero pay calendar to use yet. " ++
        "Ask an administrator to finish Xero setup first."))

/-- Make an approved timesheet a draft again, and refuse one that is neither. -/
def revertToDraft (existing : PostedTimesheet) : PayrollCall Unit :=
  match existing.status with
  | .approved => revertTimesheet existing.timesheetId
  | .draft => pure ()
  | .other _ => .raise (.value
      ("Timesheet %(timesheet_id)s is %(status)s and cannot be modified — " ++
        "it has already been paid. Correct it in Xero."))

/-- `_delete_timesheet`: clear an existing timesheet, reverting it from approved first if needed. -/
def clearTimesheet (existing : PostedTimesheet) : PayrollCall Unit := do
  revertToDraft existing
  deleteTimesheet existing.timesheetId

/-- Clear the timesheet there is, if there is one. -/
def clearExisting (existing : Option PostedTimesheet) : PayrollCall Unit :=
  match existing with
  | some sheet => clearTimesheet sheet
  | none => pure ()

/-- Whether an existing timesheet holds the lines. -/
def alreadyHolds (existing : Option PostedTimesheet) (linePayloads : List TimesheetLinePayload) :
    PayrollCall Bool :=
  match existing with
  | none => pure false
  | some sheet => do
      let held ← timesheetLines sheet.timesheetId
      pure (linesMatch held linePayloads)

/-- Clear what stands, create the timesheet and approve it. -/
def replaceTimesheet (db : Database) (employee : ℕ) (week : WeekWindow)
    (linePayloads : List TimesheetLinePayload) (existing : Option PostedTimesheet) :
    PayrollCall PostedTimesheet := do
  clearExisting existing
  let _ ← .compute (calendarId db)
  let timesheet ← createTimesheet employee week.start linePayloads
  approveTimesheet timesheet
  pure ⟨timesheet, employee, .approved⟩

/-- Replace the employee's timesheet for the week, then approve it. -/
def postTimesheet (db : Database) (employee : ℕ) (week : WeekWindow)
    (linePayloads : List TimesheetLinePayload) (existing : Option PostedTimesheet) :
    PayrollCall PostedTimesheet := do
  let held ← alreadyHolds existing linePayloads
  match held, existing with
  | true, some ⟨timesheet, owner, .approved⟩ => pure ⟨timesheet, owner, .approved⟩
  | true, some ⟨timesheet, owner, .draft⟩ => do
      -- the right hours are not a posted timesheet until they are approved
      approveTimesheet timesheet
      pure ⟨timesheet, owner, .approved⟩
  | _, _ => replaceTimesheet db employee week linePayloads existing

/-- A row of the timesheet list added to those found, by employee. -/
def addFound (week : WeekWindow) (found : List PostedTimesheet) (sheet : XeroTimesheet) :
    Except PayrollError (List PostedTimesheet) :=
  if sheet.startDate ≠ some week.start then .ok found
  else match sheet.employeeId, sheet.status with
    | some employee, some status =>
        if found.any fun other => other.employeeId = employee then
          .error (.value
            ("Xero holds two timesheets for employee %(employee_id)s in the week of " ++
              "%(week_start)s: %(first)s and %(second)s. Resolve it in Xero before posting."))
        else .ok (found ++ [⟨sheet.timesheetId, employee, status⟩])
    | _, _ => .error (.value "Xero returned a timesheet without id, employee id, or status")

def existingTimesheetsForWeek (week : WeekWindow) : PayrollCall (List PostedTimesheet) := do
  let sheets ← getTimesheets week.start
  .compute (sheets.foldlM (addFound week) [])

/-- The timesheet of an employee among those found. -/
def timesheetFor (found : List PostedTimesheet) (employee : ℕ) : Option PostedTimesheet :=
  found.find? fun sheet => sheet.employeeId = employee

/-! ## Pay runs -/

def transformPayRun (run : PayRun) (tenant : ℕ) (mirror : List XeroPayRun) :
    Except PayrollError (XeroPayRun × List XeroPayRun) :=
  match run.periodStartDate, run.periodEndDate, run.paymentDate with
  | some start, some finish, some payment =>
      let row : XeroPayRun := ⟨run.payRunId, tenant, run.payrollCalendarId, start, finish, payment,
        run.payRunStatus⟩
      .ok (row, mirror.filter (fun other => other.xeroId ≠ run.payRunId) ++ [row])
  | _, _, _ => .error (.value "Missing required fields on pay_run")

def mirrorPayRun (run : PayRun) (tenant : ℕ) : PayrollCall XeroPayRun := do
  let (row, mirror) ← .consult fun s => transformPayRun run tenant s.mirror
  .write fun s => { s with mirror := mirror }
  pure row

/-- `sync_pay_runs`: mirror a complete set of pay runs, dropping what Xero no longer has. -/
def syncPayRuns (payRuns : List PayRun) (tenant : ℕ) : PayrollCall Unit := do
  .write fun s => { s with mirror := s.mirror.filter fun row =>
    row.xeroTenantId ≠ tenant || payRuns.any fun run => run.payRunId = row.xeroId }
  payRuns.forM fun run => do
    let _ ← mirrorPayRun run tenant

def refreshPayRuns (tenant : ℕ) : PayrollCall Unit := do
  let payRuns ← getPayRuns
  syncPayRuns payRuns tenant

/-- The organisation's drafts, as they are mirrored. -/
def XeroPayRun.draftOf (tenant : ℕ) (row : XeroPayRun) : Bool :=
  row.xeroTenantId = tenant && row.payRunStatus = some .draft

def XeroPayRun.coversWeek (week : WeekWindow) (row : XeroPayRun) : Bool :=
  row.periodStartDate = week.start && row.periodEndDate = week.finish

/-- Refuse a week that another week's open draft pay run blocks. -/
def requireNoBlockingDraft (week : WeekWindow) (tenant : ℕ) : PayrollCall Unit :=
  .consult fun s =>
    if s.mirror.any fun row => row.draftOf tenant && !row.coversWeek week then
      .error (.value
        ("A draft pay run for %(draft_start)s to %(draft_end)s " ++
          "is already open on the payroll calendar, and Xero allows only one. Post or " ++
          "delete it in Xero, then refresh, before posting %(week_start)s to %(week_end)s."))
    else .ok ()

/-- The payment date of a week's pay run: the Wednesday after it. -/
def paymentOffsetDays : ℤ := 3

def calendarName (db : Database) : Except PayrollError String :=
  match db.xeroPayrollCalendarName with
  | some name => .ok name
  | none => .error (.value
      "No Xero payroll calendar name is entered. Enter it in Company Defaults > Xero.")

/-- The calendar of the configured name. -/
def theCalendar (name : String) (calendars : List PayrollCalendar) :
    Except PayrollError PayrollCalendar :=
  match calendars.find? fun calendar => calendar.name = name with
  | some calendar => .ok calendar
  | none => .error (.value
      "Payroll calendar %(calendar)s was not found in Xero. Available: %(available)s")

def PayRun.coversWeek (week : WeekWindow) (run : PayRun) : Bool :=
  run.periodStartDate = some week.start && run.periodEndDate = some week.finish

/-- Mirror the pay run Xero made; one for another period is mirrored and then refused. -/
def adoptPayRun (week : WeekWindow) (tenant : ℕ) (created : PayRun) : PayrollCall XeroPayRun :=
  if ¬created.coversWeek week then do
    let _ ← mirrorPayRun created tenant
    .raise (.value
      ("Xero created a pay run for %(actual_start)s to %(actual_end)s on calendar " ++
        "%(calendar)s instead of the requested %(week_start)s to %(week_end)s. " ++
        "Posting requires the calendar period to match the selected week exactly."))
  else do
    let detail ← getPayRun created.payRunId
    mirrorPayRun detail tenant

def createPayRunForWeek (db : Database) (week : WeekWindow) (tenant : ℕ) : PayrollCall XeroPayRun := do
  let name ← .compute (calendarName db)
  let calendars ← getPayRunCalendars
  let calendar ← .compute (theCalendar name calendars)
  let created ← createPayRun calendar week.start (week.finish + paymentOffsetDays)
  adoptPayRun week tenant created

/-- The week's draft pay run, created if the calendar has none. -/
def ensurePayRunForWeek (db : Database) (week : WeekWindow) (tenant : ℕ) : PayrollCall XeroPayRun := do
  let calendar ← .compute (calendarId db)
  let sameWeek ← .consult fun s => .ok (s.mirror.find? fun row =>
    row.draftOf tenant && row.payrollCalendarId = some calendar && row.coversWeek week)
  match sameWeek with
  | some row => pure row
  | none => do
      requireNoBlockingDraft week tenant
      createPayRunForWeek db week tenant

/-! ## The posting run -/

/-- The employee a person's link reads as: `UUID(str(staff.xero_user_id))`. -/
def XeroUserId.uuid (link : XeroUserId) : Except PayrollError ℕ :=
  match link.employee with
  | some employee => .ok employee
  | none => .error (.value "badly formed hexadecimal UUID string")

def failureResult (staff : Staff) (error : String) (hasEntries : Bool) : StaffWeekPostResult :=
  { staffId := staff.id, staffName := staff.displayFullName, success := false,
    hasEntries := hasEntries, error := some error }

def skipResult (staff : Staff) (reason : String) (hasEntries : Bool) : StaffWeekPostResult :=
  { staffId := staff.id, staffName := staff.displayFullName, success := true, skipped := true,
    reason := some reason, hasEntries := hasEntries }

def requireDispatchedTenant (db : Database) (connection : ℕ) : Except PayrollError Unit :=
  match db.connected with
  | none => .error (.value "No Xero tenant ID configured for payroll")
  | some connected =>
      if connected = connection then .ok ()
      else .error (.wrongPayrollTenant
        ("This payroll run was dispatched for Xero organisation %(dispatched)s, " ++
          "but the connected organisation is now %(connected)s. Nothing was posted. " ++
          "Re-run it against the organisation you intend to pay."))

/-- The sum of the hours of some lines. -/
def quantities (lines : List PayLine) : ℚ := (lines.map PayLine.quantity).sum

/-- The people of the ids, in the order they are first named, or a refusal of one who is not there. -/
def staffToPost (db : Database) (staffIds : List ℕ) : Except PayrollError (List Staff) :=
  if staffIds.any fun id => (db.staff.find? id).isNone then
    .error (.value "Staff member(s) not found: %(staff_ids)s")
  else .ok ((firsts staffIds).filterMap db.staff.find?)

/-- What a run has before its first result. -/
structure Prepared where
  week : WeekWindow
  staff : List Staff
  linesOf : ℕ → List PayLine
  catalogue : LeaveCatalogue
  existing : List PostedTimesheet

/-- The leave of one person of the run. -/
def reconcileStaffLeave (week : WeekWindow) (linesOf : ℕ → List PayLine) (catalogue : LeaveCatalogue)
    (staff : Staff) : PayrollCall Unit :=
  match staff.xeroUserId with
  | some link =>
      if staff.isActiveBetween week.start week.finish then do
        let split ← .compute (splitBySurface (linesOf staff.id) catalogue)
        let employee ← .compute link.uuid
        reconcileLeaveForStaffWeek employee split.leaveApi week
      else pure ()
  | none => pure ()

/-- What is checked and read before the first call that changes anything. -/
def checks (db : Database) (connection : ℕ) (staffIds : List ℕ) (weekStartDate : ℤ) :
    Except PayrollError (WeekWindow × (ℕ → List PayLine) × List Staff) := do
  requireDispatchedTenant db connection
  let week ← WeekWindow.of weekStartDate
  if staffIds = [] then .error (.value "staff_ids is required")
  let lines := weekTimeLines db week (some staffIds)
  validatePayItemsForWeek (.load db) lines
  let linesOf ← groupedByStaff lines
  let staff ← staffToPost db staffIds
  pure (week, linesOf, staff)

/-- Everything a run does before its first result. -/
def preflight (db : Database) (connection : ℕ) (staffIds : List ℕ) (weekStartDate : ℤ) :
    PayrollCall Prepared := do
  let (week, linesOf, staff) ← .compute (checks db connection staffIds weekStartDate)
  let catalogue := LeaveCatalogue.load db
  refreshPayRuns connection
  requireNoBlockingDraft week connection
  staff.forM (reconcileStaffLeave week linesOf catalogue)
  let _ ← ensurePayRunForWeek db week connection
  let existing ← existingTimesheetsForWeek week
  pure ⟨week, staff, linesOf, catalogue, existing⟩

def salaryResult (staff : Staff) (lines : List PayLine) (split : SurfaceSplit) (removed : Bool) :
    StaffWeekPostResult where
  staffId := staff.id
  staffName := staff.displayFullName
  success := true
  skipped := true
  reason := some "Salary is paid from Xero regular earnings; leave was reconciled."
  workHours := quantities split.timesheet
  leaveHours := quantities split.leaveApi
  hasEntries := lines ≠ []
  postingMode := .salary
  salaryTimesheetRemoved := removed

/-- The salaried person's week: no timesheet, and her hours reported. -/
def postSalariedWeek (staff : Staff) (lines : List PayLine) (split : SurfaceSplit)
    (existing : Option PostedTimesheet) : PayrollCall StaffWeekPostResult := do
  let outcome ← Remote.settle (clearExisting existing)
  match outcome with
  | .error error => pure (failureResult staff error.text (lines ≠ []))
  | .ok () => pure (salaryResult staff lines split existing.isSome)

/-- The hours of the timesheet lines whose item has a multiplier, or of the others. -/
def hoursByMultiplier (multiplied : Bool) (lines : List PayLine) : ℚ :=
  quantities (lines.filter fun line =>
    (line.xeroPayItem.any fun item => item.multiplier.isSome) = multiplied)

def hourlyResult (staff : Staff) (lines : List PayLine) (split : SurfaceSplit)
    (timesheet : PostedTimesheet) : StaffWeekPostResult where
  staffId := staff.id
  staffName := staff.displayFullName
  success := true
  timesheetId := some timesheet.timesheetId
  entriesPosted := lines.length
  workHours := hoursByMultiplier true split.timesheet
  otherLeaveHours := hoursByMultiplier false split.timesheet
  leaveHours := quantities split.leaveApi
  hasEntries := lines ≠ []

/-- The timesheet of the lines that reach it. -/
def postSplit (db : Database) (split : SurfaceSplit) (employee : ℕ) (week : WeekWindow)
    (existing : Option PostedTimesheet) : PayrollCall PostedTimesheet := do
  let payloads ← .compute (timesheetLinePayloads split.timesheet)
  postTimesheet db employee week payloads existing

/-- The hourly person's week: her timesheet. -/
def postHourlyWeek (db : Database) (staff : Staff) (lines : List PayLine) (split : SurfaceSplit)
    (employee : ℕ) (week : WeekWindow) (existing : Option PostedTimesheet) :
    PayrollCall StaffWeekPostResult := do
  let outcome ← Remote.settle (postSplit db split employee week existing)
  match outcome with
  | .error error => pure (failureResult staff error.text (lines ≠ []))
  | .ok timesheet => pure (hourlyResult staff lines split timesheet)

/-- Post one staff member's week, converting any failure into their own result. -/
def postOneStaffWeek (db : Database) (prepared : Prepared) (staff : Staff) :
    PayrollCall StaffWeekPostResult :=
  let lines := prepared.linesOf staff.id
  let week := prepared.week
  if ¬staff.isActiveBetween week.start week.finish then
    pure (skipResult staff "Not employed during this week" (lines ≠ []))
  else match staff.xeroUserId with
    | none => pure (failureResult staff
        ("%(staff_name)s is not linked to a Xero employee. " ++
          "Ask an administrator to link them, then post again.") (lines ≠ []))
    | some link => do
        let employee ← .compute link.uuid
        let split ← .compute (splitBySurface lines prepared.catalogue)
        let existing := timesheetFor prepared.existing employee
        if staff.payBasis = some .salary then postSalariedWeek staff lines split existing
        else postHourlyWeek db staff lines split employee week existing

/-- Yield one person's result. -/
def yieldStaffWeek (db : Database) (prepared : Prepared) (staff : Staff) : PayrollCall Unit := do
  let result ← postOneStaffWeek db prepared staff
  .write fun s => { s with yielded := s.yielded ++ [result] }

/-- Post a week of hours for the given staff, as far as `taken` results are asked for. -/
def postPayrollWeek (db : Database) (connection : ℕ) (staffIds : List ℕ) (weekStartDate : ℤ)
    (taken : ℕ) : PayrollCall Unit := do
  let prepared ← preflight db connection staffIds weekStartDate
  (prepared.staff.take taken).forM (yieldStaffWeek db prepared)

/-! ## What Xero holds beside what was recorded -/

/-- One person's week in Xero, beside what was recorded. -/
structure StaffWeekPosting where
  staffId : ℕ
  posted : Bool
  timesheetStatus : Option TimesheetStatus
  postedTimesheetHours : ℚ
  postedLeaveHours : ℚ
  recordedTimesheetHours : ℚ
  recordedLeaveHours : ℚ
  payBasis : Option Timesheet.PayBasis
deriving DecidableEq, Repr

/-- Whether Xero holds what was recorded, on both surfaces. -/
def StaffWeekPosting.matches (self : StaffWeekPosting) : Bool :=
  if self.payBasis = some .salary then
    !self.posted && self.postedLeaveHours = self.recordedLeaveHours
  else self.posted && self.postedTimesheetHours = self.recordedTimesheetHours &&
    self.postedLeaveHours = self.recordedLeaveHours

def postedTotal (timesheet : Option PostedTimesheet) : PayrollCall ℚ :=
  match timesheet with
  | none => pure 0
  | some sheet => do
      let lines ← timesheetLines sheet.timesheetId
      pure (quantize (lines.map TimesheetLinePayload.units).sum)

/-- `get_displayable_staff`: employed in the week, and linked by something that reads as a UUID. -/
def displayableStaff (db : Database) (week : WeekWindow) : List Staff :=
  db.staff.rows.filter fun staff => staff.isActiveBetween week.start week.finish &&
    staff.xeroUserId.any fun link => link.employee.isSome

def timesheetByText (found : List PostedTimesheet) (link : XeroUserId) : Option PostedTimesheet :=
  if link.spelling = 0 then link.employee.bind (timesheetFor found) else none

/-- One person's row of the status. -/
def staffWeekPosting (week : WeekWindow) (timesheets : List PostedTimesheet)
    (recorded : ℕ → List PayLine) (catalogue : LeaveCatalogue) (staff : Staff) (link : XeroUserId) :
    PayrollCall StaffWeekPosting := do
  let timesheet := timesheetByText timesheets link
  let categories ← .compute (categorise (recorded staff.id) catalogue)
  let postedTimesheetHours ← postedTotal timesheet
  let employee ← .compute link.uuid
  let postedLeave ← postedLeaveHours employee week
  pure
    { staffId := staff.id
      posted := timesheet.isSome
      timesheetStatus := timesheet.map PostedTimesheet.status
      postedTimesheetHours := postedTimesheetHours
      postedLeaveHours := postedLeave
      recordedTimesheetHours := categories.timesheet
      recordedLeaveHours := categories .leaveApi
      payBasis := staff.payBasis }

/-- The rows of some people, those who are linked. -/
def statusRows (row : Staff → XeroUserId → PayrollCall StaffWeekPosting) :
    List Staff → PayrollCall (List StaffWeekPosting)
  | [] => pure []
  | staff :: rest =>
      match staff.xeroUserId with
      | none => statusRows row rest
      | some link => do
          let first ← row staff link
          let others ← statusRows row rest
          pure (first :: others)

/-- Report what Xero holds for each staff member's week. -/
def weekPostingStatus (db : Database) (weekStartDate : ℤ) : PayrollCall (List StaffWeekPosting) := do
  let week ← .compute (WeekWindow.of weekStartDate)
  let timesheets ← existingTimesheetsForWeek week
  let recorded ← .compute (groupedByStaff (weekTimeLines db week none))
  statusRows (staffWeekPosting week timesheets recorded (.load db)) (displayableStaff db week)

end Payroll

end Docketworks
