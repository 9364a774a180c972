import Mathlib.Data.List.Dedup
import Mathlib.Data.List.Sort
import Docketworks.Job.CostLine
import Docketworks.Library.Context
import Docketworks.Timesheet.Attendance

/-!
# The payroll reconciliation report

`apps/accounting/services/payroll_reconciliation_service.py`: Xero's pay runs beside the recorded time,
week by week and person by person.

* `getXeroWeekData`, `getJmWeekData` — the two sides of a week, unrounded, by staff key.
* `WeekSides` — a week with the people of either side, in the order they are shown.

**Design.**  A published figure is the decimal its float prints as, two places (`wire`); up to fifteen
digits the float gives that decimal back when the report reads its own figures again.  Sums and
differences of `Decimal` are exact at these sizes; quotients and the products made of them are rounded to
28 digits.  People of one name are in no fixed order in the source; here they are in the order they
were met.
-/

namespace Docketworks.Accounting

open Library
open Timesheet (weekday)

/-! ## What the report reads -/

inductive PayBasis where
  | wage
  | salary
deriving DecidableEq, Repr

/-- The columns of a person the report reads. -/
structure Staff where
  id : ℕ
  displayFullName : String
  xeroUserId : Option String
  payBasis : Option PayBasis
  dateLeft : Option ℤ
  baseWageRate : Column 10 2
deriving DecidableEq

/-- `XeroPaySlip`. -/
structure PaySlip where
  xeroEmployeeId : String
  employeeName : Option String
  grossEarnings : Column 10 2
  timesheetHours : Column 10 2
  leaveHours : Column 10 2
deriving DecidableEq

/-- `XeroPayRun`, with its slips. -/
structure PayRun where
  posted : Bool
  periodStartDate : ℤ
  periodEndDate : ℤ
  paymentDate : ℤ
  paySlips : List PaySlip
deriving DecidableEq

/-- The columns of a pay item that say whether its hours are paid. -/
structure PayItem where
  usesLeaveApi : Bool
  multiplier : Option ℚ
deriving DecidableEq, Repr

/-- The columns of a cost line the report reads; the multiplier is of its meta. -/
structure TimeLine where
  id : ℕ
  kind : LineKind
  costSetKind : CostSetKind
  accountingDate : ℤ
  staff : Option Staff
  quantity : Column 10 3
  unitCost : Column 10 2
  xeroPayItem : Option PayItem
  wageRateMultiplier : Option ℚ
deriving DecidableEq

/-- The tables the report reads, and its one setting. -/
structure PayrollRecords where
  staff : List Staff
  payRuns : List PayRun
  costLines : List TimeLine
  xeroPayrollStartDate : Option ℤ
deriving DecidableEq

/-! ## Arithmetic -/

def wire (value : ℚ) : ℚ := roundHalfEven 2 value

/-- `a / b if b else ZERO`. -/
def quotient (a b : ℚ) : ℚ := if b = 0 then 0 else inContext (a / b)

def payTolerance (xeroGross : ℚ) : ℚ := max (|xeroGross| * (1 / 100)) 1

/-! ## Keys and weeks -/

def getMonday (day : ℤ) : ℤ := day - weekday day

def payrollWeekOf (payRun : PayRun) : Except Refusal ℤ :=
  if weekday payRun.periodStartDate = 0 then .ok payRun.periodStartDate
  else .error (.value
    "Xero pay run period starts on %(day)s, not a Monday. Docketworks requires a Monday-start weekly payroll calendar.")

/-- `build_staff_lookup`: of two people with one Xero id the later is found. -/
def buildStaffLookup (staff : List Staff) (key : String) : Option Staff :=
  staff.reverse.find? fun person => person.xeroUserId = some key

def staffKey (staff : Staff) : String :=
  match staff.xeroUserId with
  | some xeroUserId => if xeroUserId = "" then s!"staff:{staff.id}" else xeroUserId
  | none => s!"staff:{staff.id}"

/-! ## Xero's side of a week -/

/-- `_XeroStaffWeek`, under its key. -/
structure XeroStaffWeek where
  key : String
  name : String
  hours : Decimals 2
  timesheetHours : Decimals 2
  leaveHours : Decimals 2
  gross : Decimals 2
deriving DecidableEq

def slipName (records : PayrollRecords) (slip : PaySlip) : Except Refusal String :=
  match buildStaffLookup records.staff slip.xeroEmployeeId, slip.employeeName with
  | some staff, _ => .ok staff.displayFullName
  | none, some employeeName => .ok employeeName
  | none, none => .error (.value
      "%(slip_ref)s has no employee_name and no Staff with a matching xero_user_id")

def foldSlip (records : PayrollRecords) (result : Table XeroStaffWeek.key) (slip : PaySlip) :
    Except Refusal (Table XeroStaffWeek.key) := do
  let entry ← match result.find? slip.xeroEmployeeId with
    | some entry => .ok entry
    | none => do
        let name ← slipName records slip
        pure { key := slip.xeroEmployeeId, name, hours := 0, timesheetHours := 0, leaveHours := 0, gross := 0 }
  let timesheetHours := Decimals.ofColumn slip.timesheetHours
  let leaveHours := Decimals.ofColumn slip.leaveHours
  pure (result.upsert
    { entry with
      hours := entry.hours + (timesheetHours + leaveHours)
      timesheetHours := entry.timesheetHours + timesheetHours
      leaveHours := entry.leaveHours + leaveHours
      gross := entry.gross + Decimals.ofColumn slip.grossEarnings })

def getXeroWeekData (records : PayrollRecords) (payRuns : List PayRun) :
    Except Refusal (Table XeroStaffWeek.key) :=
  (payRuns.flatMap PayRun.paySlips).foldlM (foldSlip records) Table.empty

/-! ## The recorded side of a week -/

/-- What has been added up for one key, with the person of its last line. -/
structure JmAccum where
  key : String
  staff : Staff
  hours : ℚ
  cost : ℚ
  basePay : ℚ
deriving DecidableEq

/-- `_JMStaffWeek`, under its key; of the person only what the report shows. -/
structure JmStaffWeek where
  key : String
  name : String
  hours : ℚ
  cost : ℚ
  basePay : Decimals 2
deriving DecidableEq

/-- `UNPAID_TIME`. -/
def TimeLine.isUnpaid (line : TimeLine) : Bool :=
  match line.xeroPayItem with
  | some payItem => !payItem.usesLeaveApi && payItem.multiplier = some 0
  | none => false

def TimeLine.isActualTime (line : TimeLine) : Bool := line.kind = .time && line.costSetKind = .actual

def lineBasePay (line : TimeLine) (staff : Staff) : Except Refusal ℚ :=
  match line.wageRateMultiplier with
  | none => .error (.value
      "CostLine %(id)s has no wage_rate_multiplier; it is denormalised at write time, so a missing one means the line was not written by the pricing pipeline.")
  | some multiplier => .ok (line.quantity.val * multiplier * staff.baseWageRate.val)

/-- One line of the loop of `_get_jm_week_data`. -/
def foldLine (result : Table JmAccum.key) (line : TimeLine) : Except Refusal (Table JmAccum.key) :=
  match line.staff with
  | none => .error (.value
      "Actual time line %(id)s has no staff. CostLine.clean forbids this state; fix the row — the reconciliation will not report a week while hiding hours from it.")
  | some staff => do
      let key := staffKey staff
      let entry := (result.find? key).getD { key, staff, hours := 0, cost := 0, basePay := 0 }
      let basePay ← lineBasePay line staff
      pure (result.upsert
        { key, staff
          hours := entry.hours + line.quantity.val
          cost := entry.cost + line.quantity.val * line.unitCost.val
          basePay := entry.basePay + basePay })

/-- The week a key has come to. -/
def JmAccum.week (accum : JmAccum) : JmStaffWeek where
  key := accum.key
  name := accum.staff.displayFullName
  hours := accum.hours
  cost := accum.cost
  basePay := Decimals.quantize 2 accum.basePay

def getJmWeekData (records : PayrollRecords) (weekStart weekEnd : ℤ) :
    Except Refusal (List JmStaffWeek) := do
  let lines := records.costLines.filter fun line =>
    line.isActualTime && weekStart ≤ line.accountingDate && line.accountingDate ≤ weekEnd &&
      !line.isUnpaid
  let accums ← lines.foldlM foldLine Table.empty
  pure (accums.rows.map JmAccum.week)

/-! ## The people of a week -/

/-- The sides a person is on, one or both. -/
inductive Sides where
  | xeroOnly (xero : XeroStaffWeek)
  | jmOnly (jm : JmStaffWeek)
  | both (xero : XeroStaffWeek) (jm : JmStaffWeek)
deriving DecidableEq

namespace Sides

def xero? : Sides → Option XeroStaffWeek
  | xeroOnly xero | both xero _ => some xero
  | jmOnly _ => none

def jm? : Sides → Option JmStaffWeek
  | jmOnly jm | both _ jm => some jm
  | xeroOnly _ => none

def key : Sides → String
  | xeroOnly xero | both xero _ => xero.key
  | jmOnly jm => jm.key

/-- `_row_name`: ours before Xero's copy. -/
def rowName : Sides → String
  | xeroOnly xero => xero.name
  | jmOnly jm | both _ jm => jm.name

variable (sides : Sides)

def xeroGross : ℚ := (sides.xero?.map fun xero => xero.gross.val).getD 0
def xeroHours : ℚ := (sides.xero?.map fun xero => xero.hours.val).getD 0
def xeroTimesheetHours : ℚ := (sides.xero?.map fun xero => xero.timesheetHours.val).getD 0
def xeroLeaveHours : ℚ := (sides.xero?.map fun xero => xero.leaveHours.val).getD 0
def jmCost : ℚ := (sides.jm?.map JmStaffWeek.cost).getD 0
def jmHours : ℚ := (sides.jm?.map JmStaffWeek.hours).getD 0
def jmBasePay : ℚ := (sides.jm?.map fun jm => jm.basePay.val).getD 0

end Sides

structure XeroPeriod where
  start : Option ℤ
  finish : Option ℤ
  paymentDate : Option ℤ
deriving DecidableEq

/-- A week before any of it is rounded: whom it is about, in the order they are shown. -/
structure WeekSides where
  monday : ℤ
  period : XeroPeriod
  staff : List Sides
deriving DecidableEq

/-- A person of Xero's side, with our side of the same key. -/
def XeroStaffWeek.beside (jmData : List JmStaffWeek) (xero : XeroStaffWeek) : Sides :=
  match jmData.find? fun jm => jm.key = xero.key with
  | some jm => .both xero jm
  | none => .xeroOnly xero

/-- `all_keys`: whoever is on a side, by the name shown. -/
def allSides (xeroData : Table XeroStaffWeek.key) (jmData : List JmStaffWeek) : List Sides :=
  let xeroSides := xeroData.rows.map (XeroStaffWeek.beside jmData)
  let jmSides := (jmData.filter fun jm => (xeroData.find? jm.key).isNone).map Sides.jmOnly
  (xeroSides ++ jmSides).insertionSort fun a b => a.rowName ≤ b.rowName

/-- `_reconcile_week` up to the comparison. -/
def collectWeek (records : PayrollRecords) (monday : ℤ) (xeroPayRuns : List PayRun) :
    Except Refusal WeekSides := do
  let xeroData ← getXeroWeekData records xeroPayRuns
  let period : XeroPeriod :=
    { start := (xeroPayRuns.map PayRun.periodStartDate).min?
      finish := (xeroPayRuns.map PayRun.periodEndDate).max?
      paymentDate := (xeroPayRuns.map PayRun.paymentDate).max? }
  let jmData ← getJmWeekData records monday (monday + 6)
  pure { monday, period, staff := allSides xeroData jmData }

/-- The weeks of `get_reconciliation_data`: those of a posted pay run or of recorded time in the
window, which starts no earlier than Xero payroll did. -/
def collectWeeks (records : PayrollRecords) (startDate endDate : ℤ) : Except Refusal (List WeekSides) := do
  let startDate := match records.xeroPayrollStartDate with
    | some payrollStart => max startDate payrollStart
    | none => startDate
  let payRuns := records.payRuns.filter fun payRun =>
    payRun.posted && startDate ≤ payRun.periodEndDate && payRun.periodStartDate ≤ endDate
  let xeroWeeks ← payRuns.mapM fun payRun => do
    let monday ← payrollWeekOf payRun
    pure (monday, payRun)
  let jmTimes := records.costLines.filter fun line =>
    line.isActualTime && startDate ≤ line.accountingDate && line.accountingDate ≤ endDate
  let jmMondays := jmTimes.map fun line => getMonday line.accountingDate
  let allMondays := (xeroWeeks.map Prod.fst ++ jmMondays).dedup.insertionSort fun a b => a ≤ b
  allMondays.mapM fun monday =>
    collectWeek records monday
      ((xeroWeeks.filter fun week => week.1 = monday).map Prod.snd)

end Docketworks.Accounting
