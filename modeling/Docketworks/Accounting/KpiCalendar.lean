import Mathlib.Data.List.Sort
import Docketworks.Core.Calendar
import Docketworks.Library.Json
import Docketworks.Accounting.Books

/-!
# The KPI calendar

The figures of a day, its breakdown by job, and the totals of a month
(`apps/accounting/services/kpi_service.py`, `apps/accounting/services/billable.py`, `UNPAID_TIME` of
`apps/job/services/time_entry_rates.py`).

* `isBillableLine`, `isUnpaidTime` — how a time line is classified.
* `dayFigures` — the aggregates of a day: time, material and adjustments.
* `jobBreakdown` — the same day job by job, from its own pass over the lines.
* `getCalendarData` — the days that are drawn, and the totals over all of them.

**Design.**  The lines are the actual ones, each with its job.  The figures are exact here; the source
publishes them as floats and adds some of them up as floats.  The grades of the days, the thresholds and
the ratios are left out.
-/

namespace Docketworks.Accounting

open Library

/-! ## Lines -/

/-- The columns of a job the calendar reads. -/
structure KpiJob where
  id : ℕ
  jobNumber : ℕ
  jobDisplayName : String
  company : Option ℕ
  companyName : String
deriving DecidableEq

structure LinePayItem where
  usesLeaveApi : Bool
  multiplier : Option ℚ
deriving DecidableEq

/-- An actual cost line. -/
structure KpiLine extends BookedLine where
  job : KpiJob
  staff : Option ℕ
  payItem : Option LinePayItem
  /-- The column `meta`. -/
  payload : Json.Members

def KpiLine.totalRev (line : KpiLine) : ℚ := line.toBookedLine.toPricedLine.totalRev

def KpiLine.totalCost (line : KpiLine) : ℚ := line.toBookedLine.totalCost

/-- `is_unpaid_time`: logged, not hours. -/
def isUnpaidTime (line : KpiLine) : Bool :=
  line.payItem.any fun item => !item.usesLeaveApi && item.multiplier = some 0

/-- Who does not appear, and which company's work never bills. -/
structure KpiSetting where
  shopCompany : Option ℕ
  excludedStaff : List ℕ

section Day

variable (setting : KpiSetting)

def isBillableLine (line : KpiLine) : Bool :=
  match line.payload.get? "is_billable" with
  | some (.bool true) | some (.string "true") => line.job.company ≠ setting.shopCompany
  | _ => false

/-- The line's staff member is payroll-excluded. -/
def isExcluded (line : KpiLine) : Bool := line.staff.any fun staff => setting.excludedStaff.contains staff

/-! ## The figures of a day -/

structure TimeAgg where
  totalHours : ℚ := 0
  billableHours : ℚ := 0
  shopHours : ℚ := 0
  timeRevenue : ℚ := 0
  staffCost : ℚ := 0
deriving DecidableEq

structure RevCostAgg where
  revenue : ℚ := 0
  cost : ℚ := 0
deriving DecidableEq

/-- One line of `_aggregate_time_by_date`. -/
def TimeAgg.add (agg : TimeAgg) (line : KpiLine) : TimeAgg :=
  let hours := line.quantity.val
  let billable := isBillableLine setting line
  { totalHours := agg.totalHours + hours
    billableHours := if billable then agg.billableHours + hours else agg.billableHours
    shopHours := if line.job.company = setting.shopCompany then agg.shopHours + hours else agg.shopHours
    timeRevenue := if billable then agg.timeRevenue + line.totalRev else agg.timeRevenue
    staffCost := agg.staffCost + line.totalCost }

/-- One line of `_aggregate_rev_cost_by_date`. -/
def RevCostAgg.add (agg : RevCostAgg) (line : KpiLine) : RevCostAgg :=
  { revenue := agg.revenue + line.totalRev, cost := agg.cost + line.totalCost }

/-- The time lines `_aggregate_time_by_date` puts on a day. -/
def timeLines (lines : List KpiLine) (day : ℤ) : List KpiLine :=
  lines.filter fun line => line.kind = .time && line.accountingDate = day &&
    !isExcluded setting line && !isUnpaidTime line

def linesOfKind (kind : LineKind) (lines : List KpiLine) (day : ℤ) : List KpiLine :=
  lines.filter fun line => line.kind = kind && line.accountingDate = day

structure DayFigures where
  time : TimeAgg
  material : RevCostAgg
  adjustment : RevCostAgg
deriving DecidableEq

def dayFigures (lines : List KpiLine) (day : ℤ) : DayFigures where
  time := (timeLines setting lines day).foldl (TimeAgg.add setting) {}
  material := (linesOfKind .material lines day).foldl RevCostAgg.add {}
  adjustment := (linesOfKind .adjust lines day).foldl RevCostAgg.add {}

/-- `total_revenue` of a day's details. -/
def DayFigures.totalRevenue (day : DayFigures) : ℚ :=
  day.time.timeRevenue + day.material.revenue + day.adjustment.revenue

/-- `total_cost` of a day's details. -/
def DayFigures.totalCost (day : DayFigures) : ℚ :=
  day.time.staffCost + day.material.cost + day.adjustment.cost

def DayFigures.grossProfit (day : DayFigures) : ℚ := day.totalRevenue - day.totalCost

/-! ## The breakdown of a day -/

structure JobAcc where
  job : ℕ
  jobNumber : ℕ
  jobName : String
  companyName : String
  labourRevenue : ℚ := 0
  labourCost : ℚ := 0
  materialRevenue : ℚ := 0
  materialCost : ℚ := 0
  adjustmentRevenue : ℚ := 0
  adjustmentCost : ℚ := 0
  billableHours : ℚ := 0
deriving DecidableEq

/-- The accumulator of a job before its first line. -/
def JobAcc.start (job : KpiJob) : JobAcc where
  job := job.id
  jobNumber := job.jobNumber
  jobName := job.jobDisplayName
  companyName := job.companyName

def JobAcc.add (acc : JobAcc) (line : KpiLine) : JobAcc :=
  match line.kind with
  | .time =>
      let billable := isBillableLine setting line
      { acc with
        labourRevenue := if billable then acc.labourRevenue + line.totalRev else acc.labourRevenue
        billableHours := if billable then acc.billableHours + line.quantity.val else acc.billableHours
        labourCost := acc.labourCost + line.totalCost }
  | .material =>
      { acc with
        materialRevenue := acc.materialRevenue + line.totalRev
        materialCost := acc.materialCost + line.totalCost }
  | .adjust =>
      { acc with
        adjustmentRevenue := acc.adjustmentRevenue + line.totalRev
        adjustmentCost := acc.adjustmentCost + line.totalCost }

def addToJobs (line : KpiLine) : List JobAcc → List JobAcc
  | [] => [(JobAcc.start line.job).add setting line]
  | acc :: accs =>
      if acc.jobNumber = line.job.jobNumber then acc.add setting line :: accs
      else acc :: addToJobs line accs

structure JobBreakdownRow where
  job : ℕ
  jobNumber : ℕ
  jobName : String
  companyName : String
  billableHours : ℚ
  revenue : ℚ
  cost : ℚ
  profit : ℚ
  labourProfit : ℚ
  materialProfit : ℚ
  adjustmentProfit : ℚ
deriving DecidableEq

/-- One row of `_breakdown_rows`. -/
def JobAcc.row (acc : JobAcc) : JobBreakdownRow :=
  let labourProfit := acc.labourRevenue - acc.labourCost
  let materialProfit := acc.materialRevenue - acc.materialCost
  let adjustmentProfit := acc.adjustmentRevenue - acc.adjustmentCost
  { job := acc.job
    jobNumber := acc.jobNumber
    jobName := acc.jobName
    companyName := acc.companyName
    billableHours := acc.billableHours
    revenue := acc.labourRevenue + acc.materialRevenue + acc.adjustmentRevenue
    cost := acc.labourCost + acc.materialCost + acc.adjustmentCost
    profit := labourProfit + materialProfit + adjustmentProfit
    labourProfit, materialProfit, adjustmentProfit }

/-- The lines `get_job_breakdown_by_date` puts on a day. -/
def breakdownLines (lines : List KpiLine) (day : ℤ) : List KpiLine :=
  lines.filter fun line => line.accountingDate = day && !(line.kind = .time && isExcluded setting line)

/-- The rows of a day in `get_job_breakdown_by_date`. -/
def jobBreakdown (lines : List KpiLine) (day : ℤ) : List JobBreakdownRow :=
  (((breakdownLines setting lines day).foldl (fun accs line => addToJobs setting line accs) []).map
    JobAcc.row).insertionSort fun a b => b.profit ≤ a.profit

/-! ## The month -/

/-- The money and the hours of a month: `totals` as `_tally_money` adds it up. -/
structure MonthTally where
  billableHours : ℚ := 0
  totalHours : ℚ := 0
  shopHours : ℚ := 0
  grossProfit : ℚ := 0
  materialRevenue : ℚ := 0
  adjustmentRevenue : ℚ := 0
  timeRevenue : ℚ := 0
  staffCost : ℚ := 0
  materialCost : ℚ := 0
  adjustmentCost : ℚ := 0
  materialProfit : ℚ := 0
  adjustmentProfit : ℚ := 0
deriving DecidableEq

def tallyMoney (totals : MonthTally) (day : DayFigures) : MonthTally where
  billableHours := totals.billableHours + day.time.billableHours
  totalHours := totals.totalHours + day.time.totalHours
  shopHours := totals.shopHours + day.time.shopHours
  grossProfit := totals.grossProfit + day.grossProfit
  materialRevenue := totals.materialRevenue + day.material.revenue
  adjustmentRevenue := totals.adjustmentRevenue + day.adjustment.revenue
  timeRevenue := totals.timeRevenue + day.time.timeRevenue
  staffCost := totals.staffCost + day.time.staffCost
  materialCost := totals.materialCost + day.material.cost
  adjustmentCost := totals.adjustmentCost + day.adjustment.cost
  materialProfit := totals.materialProfit + (day.material.revenue - day.material.cost)
  adjustmentProfit := totals.adjustmentProfit + (day.adjustment.revenue - day.adjustment.cost)

/-- `total_revenue` of `_finalise_monthly_totals`. -/
def MonthTally.totalRevenue (totals : MonthTally) : ℚ :=
  totals.timeRevenue + totals.materialRevenue + totals.adjustmentRevenue

/-- `total_cost` of `_finalise_monthly_totals`. -/
def MonthTally.totalCost (totals : MonthTally) : ℚ :=
  totals.staffCost + totals.materialCost + totals.adjustmentCost

/-- `labour_profit` of `_finalise_monthly_totals`. -/
def MonthTally.labourProfit (totals : MonthTally) : ℚ := totals.timeRevenue - totals.staffCost

structure DayEntry where
  date : ℤ
  figures : DayFigures
  jobBreakdown : List JobBreakdownRow
deriving DecidableEq

/-- What `get_calendar_data` answers. -/
structure CalendarData where
  calendarData : List DayEntry
  monthlyTotals : MonthTally
deriving DecidableEq

/-- `get_calendar_data`: every day is counted, and a weekend is drawn where weekends are enabled. -/
def getCalendarData (weekendEnabled : Bool) (lines : List KpiLine) (year month : ℤ) : CalendarData where
  calendarData := ((monthDays year month).filter fun day => isWeekday day || weekendEnabled).map fun day =>
    ⟨day, dayFigures setting lines day, jobBreakdown setting lines day⟩
  monthlyTotals :=
    (monthDays year month).foldl (fun totals day => tallyMoney totals (dayFigures setting lines day)) {}

end Day

end Docketworks.Accounting
