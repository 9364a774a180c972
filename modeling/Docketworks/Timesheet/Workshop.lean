import Docketworks.Library.Table
import Docketworks.Timesheet.Attendance

/-!
# The timesheet tables

The rows the timesheet services read and write, and the reads they share
(`apps/timesheet/services/workshop_timesheet_service.py`, `apps/accounts/models.py`).

* `Staff`, `PayrollTerm` — a person, and what Xero pays them under from a date on.
* `WorkJob`, `PayItem`, `JobLabourRate` — what a time entry is priced from.
* `Timesheets` — the tables, the local clock and the zone.
* `dayTimeLines`, `dayBreakWindows`, `isGeneralWorkFill` — a person's day.
* `refuseBadHours`, `refuseOutsideEmployment` — the two rules of every new entry.

**Design.**  Time lines stand in the order they were made, pay items in the order of their names,
leave types in the order of their display names: each is the order its table is read in.  A job
has one actual cost set here, so a line names its job.
-/

namespace Docketworks

open Library Library.Transaction

namespace Timesheet

/-! ## Rows -/

/-- How Xero pays a person. -/
inductive PayBasis where
  | hourly
  | salary
deriving DecidableEq, Repr

abbrev WorkingWeek := List (ℕ × ℚ)

/-- One effective-dated snapshot of a person's pay and working pattern. -/
structure PayrollTerm where
  id : ℕ
  effectiveFrom : ℤ
  payBasis : PayBasis
  annualSalary : Option ℚ
  workingWeeks : List WorkingWeek
deriving DecidableEq, Repr

/-- The columns of a person their time is entered and priced by. -/
structure Staff where
  id : ℕ
  isOfficeStaff : Bool
  /-- Xero's payroll knows the person: the timesheets list them. -/
  hasPayrollId : Bool
  employmentStartDate : ℤ
  dateLeft : Option ℤ
  payBasis : Option PayBasis
  wageRate : ℚ
  defaultLabourSubtype : Option ℕ
  /-- `hours_mon` to `hours_sun`. -/
  rosterHours : List ℚ
  payrollTerms : List PayrollTerm
deriving DecidableEq, Repr

/-- The columns of a job its time entries read. -/
structure WorkJob where
  id : ℕ
  name : String
  shopJob : Bool
  /-- The job's status is `special`. -/
  isSpecial : Bool
  isUrgent : Bool
  defaultPayItem : Option ℕ
deriving DecidableEq, Repr

/-- A leave type or an earnings rate of Xero's. -/
structure PayItem where
  id : ℕ
  name : String
  usesLeaveApi : Bool
  /-- The item has its `xero_id`. -/
  connected : Bool
  multiplier : Option ℚ
deriving DecidableEq, Repr

structure JobLabourRate where
  job : ℕ
  labourSubtype : ℕ
  chargeOutRate : ℚ
deriving DecidableEq, Repr

def JobLabourRate.key (rate : JobLabourRate) : ℕ × ℕ := (rate.job, rate.labourSubtype)

/-- The timesheet tables, the local clock and the zone. -/
structure Timesheets where
  company : Company
  staff : Table Staff.id
  jobs : Table WorkJob.id
  leaveTypes : Table LeaveType.code
  payItems : Table PayItem.id
  labourSubtypes : List ℕ
  labourRates : Table JobLabourRate.key
  attendance : Table AttendanceDay.key
  lines : Table TimeLine.id
  fresh : ℕ
  today : ℤ
  now : TimeOfDay
  /-- `clock_change_minutes`: how far the clocks of the zone moved between two times of a day. -/
  clockChangeMinutes : ℤ → TimeOfDay → TimeOfDay → ℤ

abbrev TimesheetCall := Transaction Timesheets Refusal

/-! ## Reading rows -/

def theStaff (staff : ℕ) : TimesheetCall Staff :=
  .consult fun db => match db.staff.find? staff with
    | some person => .ok person
    | none => .error (.doesNotExist "Staff")

def Timesheets.findJob (db : Timesheets) (job : ℕ) : Except Refusal WorkJob :=
  match db.jobs.find? job with
  | some job => .ok job
  | none => .error (.doesNotExist "Job")

def theWorkJob (job : ℕ) : TimesheetCall WorkJob := .consult fun db => db.findJob job

def theLine (line : ℕ) : TimesheetCall TimeLine :=
  .consult fun db => match db.lines.find? line with
    | some line => .ok line
    | none => .error (.doesNotExist "CostLine")

def Timesheets.dayRow (db : Timesheets) (staff : ℕ) (day : ℤ) : Option AttendanceDay :=
  db.attendance.find? (staff, day)

/-- `is_active_on`: employment starts on its date and ends before the day they left. -/
def Staff.isActiveOn (self : Staff) (day : ℤ) : Bool :=
  self.employmentStartDate ≤ day && self.dateLeft.all fun left => day < left

/-- `leave_job_ids`: the jobs that hold leave. -/
def Timesheets.leaveJobIds (db : Timesheets) : List ℕ := db.leaveTypes.rows.filterMap LeaveType.job

/-- `day_time_lines`: a person's time for one date, in entry order. -/
def Timesheets.dayTimeLines (db : Timesheets) (staff : ℕ) (day : ℤ) : List TimeLine :=
  db.lines.rows.filter fun line => line.staff = staff && line.accountingDate = day

/-- Whether a line is the General work filling the rest of a day, not an entry: a fill line the
office moved to a job is time on that job. -/
def isGeneralWorkFill (company : Company) (line : TimeLine) : Bool :=
  line.payload.source = some .sweptGeneralWork && some line.job = company.generalWorkJob

/-- `day_break_windows`: the day's breaks as the stretches an entry is placed around. -/
def Timesheets.dayBreakWindows (db : Timesheets) (staff : ℕ) (day : ℤ) :
    Except Refusal (List Window) :=
  breakWindows db.company day (db.dayRow staff day)
    (splitBreaks db.company (db.dayTimeLines staff day)).2

/-- `bills_its_time`: shop work and special jobs cannot be invoiced. -/
def billsItsTime (job : WorkJob) : Bool := !job.shopJob && !job.isSpecial

/-! ## What a new entry is refused for -/

/-- The most one entry can hold: one day. -/
def entryHoursLimit : ℚ := 24

/-- The one hours rule: above zero, at most a day, to two decimal places. -/
def refuseBadHours (hours : ℚ) : Except Refusal Unit :=
  if hours ≤ 0 ∨ entryHoursLimit < hours ∨ hours ≠ roundHalfEven 2 hours then
    .error (.invalidInput "Hours are more than 0 and at most 24, to two decimal places.")
  else .ok ()

def refuseOutsideEmployment (owner : Staff) (day : ℤ) : Except Refusal Unit :=
  if owner.isActiveOn day then .ok ()
  else if day < owner.employmentStartDate then
    .error (.invalidInput "%(name)s starts on %(date)s, so time before it can't be entered.")
  else match owner.dateLeft with
    | none => .error (.value "%(id)s is not employed on %(day)s yet has no leaving date")
    | some _ => .error (.invalidInput
        "%(name)s's last day was %(date)s, so time after it can't be entered.")

@[simp] lemma refuseOutsideEmployment_eq_ok {owner : Staff} {day : ℤ} {u : Unit} :
    refuseOutsideEmployment owner day = .ok u ↔ owner.isActiveOn day = true := by
  unfold refuseOutsideEmployment
  constructor
  · intro h
    by_contra hnot
    rw [if_neg hnot] at h
    split at h
    · cases h
    · split at h <;> cases h
  · intro h
    rw [if_pos h]

end Timesheet

end Docketworks
