import Mathlib.Data.List.Sort
import Docketworks.Accounting.Books

/-!
# The work-in-progress report

The uninvoiced value of the work on every job as at a date
(`apps/accounting/services/wip_service.py`).

* `costTotals` — the cost and revenue of the lines dated up to the date.
* `buildRow` — one job's row, if it has any revenue by then.
* `getWipData` — the jobs that are not invoiced in full, the archived ones apart, and the summary.
* `getWipData_congr` — the report is the same if every job has the row it had.

**Design.**  The figures are exact here; the source publishes each as a float.
-/

namespace Docketworks.Accounting

open Library Kanban

/-- The valuation method: `revenue`, or anything else. -/
inductive WipMethod where
  | revenue
  | cost
deriving DecidableEq, Repr

structure CostTotals where
  totalCost : ℚ
  totalRev : ℚ
  timeCost : ℚ
  timeRev : ℚ
  materialCost : ℚ
  materialRev : ℚ
  adjustCost : ℚ
  adjustRev : ℚ
deriving DecidableEq

structure WIPJobRow where
  jobNumber : ℕ
  name : String
  company : String
  status : JobStatus
  timeCost : ℚ
  timeRev : ℚ
  materialCost : ℚ
  materialRev : ℚ
  adjustCost : ℚ
  adjustRev : ℚ
  totalCost : ℚ
  totalRev : ℚ
  invoiced : ℚ
  grossWip : ℚ
  netWip : ℚ
deriving DecidableEq

structure WIPStatusBreakdown where
  status : JobStatus
  count : ℕ
  netWip : ℚ
deriving DecidableEq

structure WIPSummary where
  jobCount : ℕ
  totalGross : ℚ
  totalInvoiced : ℚ
  totalNet : ℚ
  byStatus : List WIPStatusBreakdown
deriving DecidableEq

structure WIPData where
  jobs : List WIPJobRow
  archivedJobs : List WIPJobRow
  summary : WIPSummary
  reportDate : ℤ
  method : WipMethod
deriving DecidableEq

/-! ## One job -/

/-- `NO_WORK_STATUSES`: no real work should exist yet. -/
def noWorkStatus (status : JobStatus) : Bool := status = .draft || status = .awaitingApproval

/-- The lines dated on or before a day. -/
def datedBy (reportDate : ℤ) (lines : List BookedLine) : List BookedLine :=
  lines.filter fun line => line.accountingDate ≤ reportDate

/-- The totals of `_cost_totals_by_cost_set` for one cost set. -/
def costTotals (lines : List BookedLine) : CostTotals :=
  let ofKind (kind : LineKind) := lines.filter fun line => line.kind = kind
  { totalCost := costOf lines
    totalRev := revenueOf lines
    timeCost := costOf (ofKind .time)
    timeRev := revenueOf (ofKind .time)
    materialCost := costOf (ofKind .material)
    materialRev := revenueOf (ofKind .material)
    adjustCost := costOf (ofKind .adjust)
    adjustRev := revenueOf (ofKind .adjust) }

/-- `_build_row`: a job without revenue has none. -/
def buildRow (job : BookedJob) (company : Option Company) (totals : CostTotals) (invoiced : ℚ)
    (method : WipMethod) : Option WIPJobRow :=
  if totals.totalRev = 0 then none
  else
    let grossWip := if method = .revenue then totals.totalRev else totals.totalCost
    some
      { jobNumber := job.jobNumber
        name := job.name
        company := (company.map Company.name).getD "N/A"
        status := job.status
        timeCost := totals.timeCost
        timeRev := totals.timeRev
        materialCost := totals.materialCost
        materialRev := totals.materialRev
        adjustCost := totals.adjustCost
        adjustRev := totals.adjustRev
        totalCost := totals.totalCost
        totalRev := totals.totalRev
        invoiced
        grossWip
        netWip := grossWip - invoiced }

def BookedJob.inReport (job : BookedJob) : Bool :=
  !job.fullyInvoiced && !job.rejectedFlag && !noWorkStatus job.status

/-- The row of a job the report looks at. -/
def Books.wipRow (books : Books) (reportDate : ℤ) (method : WipMethod) (job : BookedJob) :
    Option WIPJobRow :=
  if job.inReport then
    buildRow job (job.company.bind books.companies.find?)
      (costTotals (datedBy reportDate (books.linesOf job.latestActual))) (books.invoiced job.id) method
  else none

/-! ## The report -/

def countStatus (row : WIPJobRow) : List WIPStatusBreakdown → List WIPStatusBreakdown
  | [] => [⟨row.status, 1, row.netWip⟩]
  | bucket :: rest =>
      if bucket.status = row.status then
        { bucket with count := bucket.count + 1, netWip := bucket.netWip + row.netWip } :: rest
      else bucket :: countStatus row rest

def buildSummary (wipJobs : List WIPJobRow) : WIPSummary where
  jobCount := wipJobs.length
  totalGross := (wipJobs.map WIPJobRow.grossWip).sum
  totalInvoiced := (wipJobs.map WIPJobRow.invoiced).sum
  totalNet := (wipJobs.map WIPJobRow.netWip).sum
  byStatus := (wipJobs.foldl (fun buckets row => countStatus row buckets) []).insertionSort
    fun a b => b.netWip ≤ a.netWip

/-- The rows in the order of the job numbers. -/
def Books.wipRows (books : Books) (reportDate : ℤ) (method : WipMethod) : List WIPJobRow :=
  (books.jobs.rows.insertionSort fun a b => a.jobNumber ≤ b.jobNumber).filterMap
    (books.wipRow reportDate method)

def getWipData (books : Books) (reportDate : ℤ) (method : WipMethod) : WIPData :=
  let rows := books.wipRows reportDate method
  let byNet (rows : List WIPJobRow) := rows.insertionSort fun a b => b.netWip ≤ a.netWip
  let wipJobs := byNet (rows.filter fun row => row.status ≠ .archived)
  { jobs := wipJobs
    archivedJobs := byNet (rows.filter fun row => row.status = .archived)
    summary := buildSummary wipJobs
    reportDate
    method }

/-! ## When two reports are the same -/

variable {books books' : Books} {reportDate : ℤ} {method : WipMethod}

/-- Rewritten jobs that keep their numbers, each with the row it had, leave the report as it is. -/
theorem getWipData_congr {rewrite : BookedJob → BookedJob}
    (hjobs : books'.jobs.rows = books.jobs.rows.map rewrite)
    (hnumber : ∀ job ∈ books.jobs.rows, (rewrite job).jobNumber = job.jobNumber)
    (hrow : ∀ job ∈ books.jobs.rows,
      books'.wipRow reportDate method (rewrite job) = books.wipRow reportDate method job) :
    getWipData books' reportDate method = getWipData books reportDate method := by
  have hsorted : (books'.jobs.rows.insertionSort fun a b => a.jobNumber ≤ b.jobNumber) =
      (books.jobs.rows.insertionSort fun a b => a.jobNumber ≤ b.jobNumber).map rewrite := by
    rw [hjobs]
    refine (List.map_insertionSort _ _ rewrite _ fun a ha b hb => ?_).symm
    rw [hnumber a ha, hnumber b hb]
  have hrows : books'.wipRows reportDate method = books.wipRows reportDate method := by
    unfold Books.wipRows
    rw [hsorted, List.filterMap_map]
    refine List.filterMap_congr fun job hjob => ?_
    exact hrow job ((List.mem_insertionSort _).mp hjob)
  simp only [getWipData, hrows]

end Docketworks.Accounting
