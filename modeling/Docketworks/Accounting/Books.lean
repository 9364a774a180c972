import Docketworks.Accounting.Invoicing
import Docketworks.Job.CostLine
import Docketworks.Kanban.Models

/-!
# The books of the jobs

The jobs with all their cost sets and invoices, as the reports and the month end read them
(`apps/job/models`, `apps/accounting/models.py`).

* `BookedJob`, `BookedSet`, `BookedLine`, `BookedInvoice` — the rows.
* `Books` — the tables.
* `Books.linesOf`, `Books.actualLines` — the lines of one cost set, and of every actual set of a job.
* `Books.loaded` — a job with the lines its invoicing reads.
* `Books.withJob`, `Books.withLines` — one row, or the lines of one set, rewritten.

**Design.**  The lines of a cost set are kept with the set.  Every job is created with its three cost sets,
and its pointers are moved and never cleared, so they are not optional here.
-/

namespace Docketworks.Accounting

open Library Kanban

/-! ## Rows -/

/-- A cost line, with the columns the reports read. -/
structure BookedLine extends PricedLine where
  id : ℕ
  kind : LineKind
  unitCost : Column 10 2
  accountingDate : ℤ
deriving DecidableEq

lemma fits_one : Fits 10 3 1 := by decide +kernel

lemma fits_forty : Fits 10 2 40 := by decide +kernel

lemma fits_hundred : Fits 10 2 100 := by decide +kernel

def BookedLine.totalCost (line : BookedLine) : ℚ := line.quantity.val * line.unitCost.val

/-- A cost set with its lines. -/
structure BookedSet where
  id : ℕ
  job : ℕ
  kind : CostSetKind
  rev : ℕ
  lines : List BookedLine
deriving DecidableEq

/-- A job, with the columns its invoicing and the reports read. -/
structure BookedJob where
  id : ℕ
  jobNumber : ℕ
  name : String
  company : Option ℕ
  status : JobStatus
  pricingMethodology : PricingMethodology
  priceCap : Option (Column 10 2)
  latestQuote : ℕ
  latestActual : ℕ
  paid : Bool
  fullyInvoiced : Bool
  rejectedFlag : Bool
deriving DecidableEq

structure BookedInvoice extends Invoice where
  date : ℤ
deriving DecidableEq

structure Books where
  jobs : Table BookedJob.id
  companies : Table Company.id
  costSets : Table BookedSet.id
  invoices : Table fun invoice : BookedInvoice => invoice.xeroId

namespace Books

variable (books : Books)

/-! ## Reading -/

/-- The lines of a cost set. -/
def linesOf (set : ℕ) : List BookedLine := ((books.costSets.find? set).map BookedSet.lines).getD []

def actualSets (job : ℕ) : List BookedSet :=
  books.costSets.rows.filter fun set => set.job = job ∧ set.kind = .actual

def actualLines (job : ℕ) : List BookedLine := (books.actualSets job).flatMap BookedSet.lines

/-- The job with the cost sets its value is measured against. -/
def loaded (job : BookedJob) : Job where
  id := job.id
  company := job.company
  pricingMethodology := job.pricingMethodology
  priceCap := job.priceCap
  latestQuote := (books.linesOf job.latestQuote).map BookedLine.toPricedLine
  latestActual := (books.linesOf job.latestActual).map BookedLine.toPricedLine
  paid := job.paid

/-- The valid invoices of the job `id`, added up. -/
def invoiced (id : ℕ) : ℚ := books.invoices.sum fun invoice => invoice.toInvoice.validFor id

end Books

/-! ## Writes -/

/-- The lines with one written under its id. -/
def withLine (line : BookedLine) (lines : List BookedLine) : List BookedLine :=
  if lines.any fun other => other.id = line.id then
    lines.map fun other => if other.id = line.id then line else other
  else lines ++ [line]

/-- A write to a row that is there. -/
def Books.withJob (books : Books) (job : ℕ) (write : BookedJob → BookedJob) : Option Books :=
  (books.jobs.find? job).map fun row => { books with jobs := books.jobs.put (write row) }

/-- A write to the lines of a cost set that is there. -/
def Books.withLines (books : Books) (set : ℕ) (write : List BookedLine → List BookedLine) :
    Option Books :=
  (books.costSets.find? set).map fun row =>
    { books with costSets := books.costSets.put { row with lines := write row.lines } }

/-! ## Sums -/

def costOf (lines : List BookedLine) : ℚ := (lines.map BookedLine.totalCost).sum

/-- What the lines bring in. -/
def revenueOf (lines : List BookedLine) : ℚ :=
  (lines.map fun line => line.toPricedLine.totalRev).sum

end Docketworks.Accounting
