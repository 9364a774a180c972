import Docketworks.Library.Decimal
import Docketworks.Library.Register
import Docketworks.Library.Remote
import Docketworks.Library.Table
import Docketworks.Timesheet.Workshop

/-!
# The payroll of a Xero organisation, and what posts to it

The records payroll reads and writes in Xero, the rows of the database it posts from, and the calls
it makes (`apps/xero/payroll_sdk.py`, the Payroll NZ client).

* `Staff`, `PayItem`, `PayLine`, `Database` — what is posted.
* `XeroTimesheet`, `EmployeeLeave`, `PayRun`, `Xero` — what the organisation holds.
* `Posting` — the organisation, the local mirror of its pay runs and the results a run has yielded.
* `Call` and its functions — the calls, each doing what it reports.

**Design.**  A field the client may answer null is an option.  A call has one name, and a fate under
it: an organisation that refuses a change, for a draft pay run or anything else, refuses the call.
What is answered incomplete where the code needs it whole is a call that is not answered.  Records are
named by number, and earnings rates and leave types by Xero's text for them.
-/

namespace Docketworks

open Library

namespace Payroll

/-! ## Exceptions -/

/-- What payroll raises: the class of the exception, with its text. -/
inductive PayrollError where
  | value (message : String)
  | notAPayrollWeek (message : String)
  | wrongPayrollTenant (message : String)
  | spanningLeaveOverlap (message : String)
  | draftPayRunBlocksLeave (message : String)
  | api (message : String)
deriving DecidableEq, Repr

/-- `str(exc)`. -/
def PayrollError.text : PayrollError → String
  | .value message | .notAPayrollWeek message | .wrongPayrollTenant message
  | .spanningLeaveOverlap message | .draftPayRunBlocksLeave message | .api message => message

/-! ## The rows that are posted -/

/-- The text that links a person to a Xero employee, by the employee it reads as, if it reads as a UUID
at all, and by its spelling: the first is the one `str` gives the UUID. -/
structure XeroUserId where
  employee : Option ℕ
  spelling : ℕ
deriving DecidableEq, Repr

/-- The columns of a person payroll reads. -/
structure Staff where
  id : ℕ
  displayFullName : String
  xeroUserId : Option XeroUserId
  employmentStartDate : ℤ
  dateLeft : Option ℤ
  payBasis : Option Timesheet.PayBasis
deriving DecidableEq, Repr

/-- Employed at any point in the range. -/
def Staff.isActiveBetween (self : Staff) (start finish : ℤ) : Bool :=
  self.employmentStartDate ≤ finish && self.dateLeft.all fun left => start ≤ left

/-- A leave type or an earnings rate of Xero's. -/
structure PayItem where
  id : ℕ
  xeroId : Option String
  name : String
  usesLeaveApi : Bool
  multiplier : Option ℚ
deriving DecidableEq, Repr

/-- A line of time on the actual costs of a job. -/
structure PayLine where
  id : ℕ
  job : ℕ
  staff : Option ℕ
  accountingDate : ℤ
  quantity : ℚ
  approved : Bool
  xeroPayItem : Option PayItem
  /-- The two metadata keys every timesheet write sets. -/
  isBillable : Bool
  wageRateMultiplier : ℚ
  /-- The column has three decimal places. -/
  quantity_scale : IsDecimal 3 quantity
deriving DecidableEq

/-- An absence category with the job it is configured to. -/
structure LeaveTypeRow where
  code : LeaveCode
  job : Option (ℕ × Option ℕ)
deriving DecidableEq, Repr

/-- What a posting run reads of the database, which stands still while it runs. -/
structure Database where
  connected : Option ℕ
  xeroPayrollCalendarId : Option ℕ
  xeroPayrollCalendarName : Option String
  staff : Table Staff.id
  leaveTypes : List LeaveTypeRow
  lines : List PayLine
  /-- No two people are linked by the same text. -/
  xeroUserId_unique : (staff.rows.filterMap Staff.xeroUserId).Nodup

/-! ## The organisation -/

inductive TimesheetStatus where
  | draft
  | approved
  | other (name : String)
deriving DecidableEq, Repr

structure TimesheetLine where
  date : Option ℤ
  earningsRateId : Option String
  numberOfUnits : Option ℚ
deriving DecidableEq, Repr

/-- An employee's timesheet for the period that starts on a day. -/
structure XeroTimesheet where
  timesheetId : ℕ
  employeeId : Option ℕ
  startDate : Option ℤ
  status : Option TimesheetStatus
  lines : List TimesheetLine
deriving DecidableEq, Repr

structure LeavePeriod where
  periodStartDate : Option ℤ
  periodEndDate : Option ℤ
  numberOfUnits : Option ℚ
deriving DecidableEq, Repr

structure EmployeeLeave where
  leaveId : ℕ
  employee : ℕ
  leaveTypeId : Option String
  description : String
  startDate : Option ℤ
  endDate : Option ℤ
  periods : List LeavePeriod
deriving DecidableEq, Repr

inductive PayRunStatus where
  | draft
  | posted
deriving DecidableEq, Repr

structure PayRun where
  payRunId : ℕ
  payrollCalendarId : Option ℕ
  periodStartDate : Option ℤ
  periodEndDate : Option ℤ
  paymentDate : Option ℤ
  payRunStatus : Option PayRunStatus
deriving DecidableEq, Repr

/-- A pay run calendar, with the next period of it that has not been processed. -/
structure PayrollCalendar where
  id : ℕ
  name : String
  periodStartDate : ℤ
  periodEndDate : ℤ
deriving DecidableEq, Repr

/-- What an organisation holds. -/
structure Xero where
  timesheets : Register XeroTimesheet.timesheetId
  leave : Register EmployeeLeave.leaveId
  payRuns : Register PayRun.payRunId
  calendars : List PayrollCalendar

structure XeroPayRun where
  xeroId : ℕ
  xeroTenantId : ℕ
  payrollCalendarId : Option ℕ
  periodStartDate : ℤ
  periodEndDate : ℤ
  paymentDate : ℤ
  payRunStatus : Option PayRunStatus
deriving DecidableEq, Repr

inductive PayrollPostingMode where
  | timesheet
  | salary
deriving DecidableEq, Repr

structure StaffWeekPostResult where
  staffId : ℕ
  staffName : String
  success : Bool
  timesheetId : Option ℕ := none
  entriesPosted : ℕ := 0
  workHours : ℚ := 0
  otherLeaveHours : ℚ := 0
  leaveHours : ℚ := 0
  skipped : Bool := false
  reason : Option String := none
  hasEntries : Bool := false
  error : Option String := none
  postingMode : PayrollPostingMode := .timesheet
  salaryTimesheetRemoved : Bool := false
deriving DecidableEq, Repr

/-- The state a posting run works on. -/
structure Posting where
  xero : Xero
  mirror : List XeroPayRun
  yielded : List StaffWeekPostResult

/-! ## The calls -/

/-- One aggregated timesheet line, in the units the domain holds them in. -/
structure TimesheetLinePayload where
  date : ℤ
  earningsRateId : String
  units : ℚ
deriving DecidableEq, Repr

/-- One leave request Docketworks wants to exist in Xero. -/
structure LeaveRequestSpec where
  leaveTypeId : String
  startDate : ℤ
  endDate : ℤ
  totalUnits : ℚ
  description : String
deriving DecidableEq, Repr

/-- The calls a run makes, by what they are about. -/
inductive Call where
  | getPayRuns
  | getPayRunCalendars
  | createPayRun (start : ℤ)
  | getPayRun (payRun : ℕ)
  | getTimesheets (start : ℤ)
  | getTimesheet (timesheet : ℕ)
  | createTimesheet (employee : ℕ)
  | approveTimesheet (timesheet : ℕ)
  | revertTimesheet (timesheet : ℕ)
  | deleteTimesheet (timesheet : ℕ)
  | getEmployeeLeaves (employee : ℕ)
  | createEmployeeLeave (employee : ℕ) (spec : LeaveRequestSpec)
  | updateEmployeeLeave (employee leave : ℕ)
  | deleteEmployeeLeave (employee leave : ℕ)
deriving DecidableEq, Repr

/-- A step of a posting run. -/
abbrev PayrollCall := Remote Call Posting PayrollError

/-- A call that changes the organisation. -/
def change {α : Type} (k : Call) (serve : Xero → α × Xero) : PayrollCall α :=
  .call k fun s => .ok ((serve s.xero).1, { s with xero := (serve s.xero).2 })

def getTimesheets (start : ℤ) : PayrollCall (List XeroTimesheet) :=
  .ask (.getTimesheets start) fun s => .ok s.xero.timesheets.rows

def getTimesheet (timesheet : ℕ) : PayrollCall XeroTimesheet :=
  .ask (.getTimesheet timesheet) fun s => match s.xero.timesheets.find? timesheet with
    | some sheet => .ok sheet
    | none => .error (.value "Xero returned no timesheet for %(timesheet_id)s")

def TimesheetLinePayload.line (payload : TimesheetLinePayload) : TimesheetLine :=
  ⟨some payload.date, some payload.earningsRateId, some payload.units⟩

/-- A new timesheet is a draft.  The answer is its id. -/
def createTimesheet (employee : ℕ) (start : ℤ) (lines : List TimesheetLinePayload) :
    PayrollCall ℕ :=
  change (.createTimesheet employee) fun xero => (xero.timesheets.next,
    { xero with timesheets := xero.timesheets.add fun id =>
        ⟨id, some employee, some start, some .draft, lines.map TimesheetLinePayload.line⟩ })

def XeroTimesheet.withStatus (status : TimesheetStatus) (sheet : XeroTimesheet) : XeroTimesheet :=
  { sheet with status := some status }

lemma XeroTimesheet.timesheetId_withStatus (status : TimesheetStatus) (sheet : XeroTimesheet) :
    (sheet.withStatus status).timesheetId = sheet.timesheetId := rfl

/-- The timesheet of an id under another status. -/
def Xero.markTimesheet (xero : Xero) (timesheet : ℕ) (status : TimesheetStatus) : Xero :=
  { xero with
    timesheets := xero.timesheets.update timesheet (.withStatus status)
      (XeroTimesheet.timesheetId_withStatus status) }

def approveTimesheet (timesheet : ℕ) : PayrollCall Unit :=
  change (.approveTimesheet timesheet) fun xero => ((), xero.markTimesheet timesheet .approved)

def revertTimesheet (timesheet : ℕ) : PayrollCall Unit :=
  change (.revertTimesheet timesheet) fun xero => ((), xero.markTimesheet timesheet .draft)

def deleteTimesheet (timesheet : ℕ) : PayrollCall Unit :=
  change (.deleteTimesheet timesheet) fun xero => ((),
    { xero with timesheets := xero.timesheets.remove timesheet })

def getEmployeeLeaves (employee : ℕ) : PayrollCall (List EmployeeLeave) :=
  .ask (.getEmployeeLeaves employee) fun s =>
    .ok (s.xero.leave.rows.filter fun leave => leave.employee = employee)

/-- The one leave shape Xero honours: a single period over the week, with the total. -/
structure LeavePayload where
  leaveTypeId : String
  description : String
  startDate : ℤ
  endDate : ℤ
  period : ℤ × ℤ
  numberOfUnits : ℚ

def LeavePayload.record (payload : LeavePayload) (employee leave : ℕ) : EmployeeLeave where
  leaveId := leave
  employee := employee
  leaveTypeId := some payload.leaveTypeId
  description := payload.description
  startDate := some payload.startDate
  endDate := some payload.endDate
  periods := [⟨some payload.period.1, some payload.period.2, some payload.numberOfUnits⟩]

lemma LeavePayload.leaveId_record (payload : LeavePayload) (row : EmployeeLeave) :
    (payload.record row.employee row.leaveId).leaveId = row.leaveId := rfl

lemma LeavePayload.leaveId_made (payload : LeavePayload) (employee id : ℕ) :
    (payload.record employee id).leaveId = id := rfl

def createEmployeeLeave (employee : ℕ) (spec : LeaveRequestSpec) (payload : LeavePayload) :
    PayrollCall ℕ :=
  change (.createEmployeeLeave employee spec) fun xero => (xero.leave.next,
    { xero with leave := xero.leave.add fun id => payload.record employee id })

def updateEmployeeLeave (employee leave : ℕ) (payload : LeavePayload) : PayrollCall Unit :=
  change (.updateEmployeeLeave employee leave) fun xero => ((),
    { xero with
      leave := xero.leave.update leave (fun row => payload.record row.employee row.leaveId)
        (LeavePayload.leaveId_record payload) })

def deleteEmployeeLeave (employee leave : ℕ) : PayrollCall Unit :=
  change (.deleteEmployeeLeave employee leave) fun xero => ((),
    { xero with leave := xero.leave.remove leave })

def getPayRuns : PayrollCall (List PayRun) :=
  .ask .getPayRuns fun s => .ok s.xero.payRuns.rows

def getPayRunCalendars : PayrollCall (List PayrollCalendar) :=
  .ask .getPayRunCalendars fun s => .ok s.xero.calendars

/-- Xero creates the calendar's next unprocessed period whatever dates are asked for. -/
def createPayRun (calendar : PayrollCalendar) (start payment : ℤ) : PayrollCall PayRun :=
  change (.createPayRun start) fun xero =>
    let run (id : ℕ) : PayRun := ⟨id, some calendar.id, some calendar.periodStartDate,
      some calendar.periodEndDate, some payment, some .draft⟩
    (run xero.payRuns.next, { xero with payRuns := xero.payRuns.add run })

def getPayRun (payRun : ℕ) : PayrollCall PayRun :=
  .ask (.getPayRun payRun) fun s => match s.xero.payRuns.find? payRun with
    | some run => .ok run
    | none => .error (.value "Xero created pay run %(pay_run_id)s but did not return its detail")

end Payroll

end Docketworks
