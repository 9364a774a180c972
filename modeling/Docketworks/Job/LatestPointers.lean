import Docketworks.Job.QuoteCopy
import Docketworks.Library.Machine
import Docketworks.Library.Numbering

/-!
# The latest cost sets of a job

Everything that makes a cost set, moves a job's pointer to its latest one or writes a line on its actuals
(`apps/job/models/job.py`, `apps/job/services/job_service.py`, `apps/job/services/month_end_service.py`,
`apps/purchasing/services/allocation_service.py`, `apps/timesheet/services/workshop_timesheet_service.py`).

* `JobCosts` — the jobs with their pointers, the cost sets and the lines.
* `getOrCreateCostSet`, `updateLatestActual`, `ensureActualCostSet`, `setLatest` — how the writers find a set
  and move a pointer.
* `copyEstimateToQuote`, `createQuoteRevision` — the two services that save the job object they were given.
* `costDesk` — one step: a job created, a request that loads its job, a month end that reads the highest
  revision, a transaction committed, or a request given up.

**Design.**  A transaction that locks its jobs and cost sets first is one step.  What a request read before
its transaction stays with it, and anything may come between: the job a quote copy, a quote revision or a
timesheet entry was given, the revision a month end is about to use.  Of a job the columns are those a quote
copy reads and the three pointers; of a line, what a copy carries and its set.
-/

namespace Docketworks

open Library

namespace LatestSets

/-! ## The rows -/

structure PointedJob where
  id : ℕ
  pricingMethodology : PricingMethodology
  /-- `latest_estimate_id`, `latest_quote_id` and `latest_actual_id`. -/
  latest : CostSetKind → ℕ

structure RevisedSet where
  id : ℕ
  job : ℕ
  kind : CostSetKind
  rev : ℕ
  deriving DecidableEq

structure PlacedLine where
  costSet : ℕ
  values : CopiedLine

structure JobCosts where
  jobs : Table PointedJob.id
  sets : Table RevisedSet.id
  lines : List PlacedLine

namespace JobCosts

variable (costs : JobCosts)

/-- `cost_set.cost_lines.all()`. -/
def linesOf (costSet : ℕ) : List PlacedLine := costs.lines.filter fun line => line.costSet = costSet

/-- `job.cost_sets.filter(kind=kind)`. -/
def setsOf (job : ℕ) (kind : CostSetKind) : List RevisedSet :=
  costs.sets.rows.filter fun set => set.job = job ∧ set.kind = kind

/-- The revisions of a kind. -/
def revs (job : ℕ) (kind : CostSetKind) : List ℕ := (costs.setsOf job kind).map RevisedSet.rev

def latestActual? (job : ℕ) : Option ℕ := (costs.jobs.find? job).map fun row => row.latest .actual

/-! ## Cost sets and pointers -/

/-- `CostSet.objects.create`, with its constraint `unique_job_kind_rev`. -/
def createSet (set : RevisedSet) : Option JobCosts :=
  if set.rev ∈ costs.revs set.job set.kind then none
  else (costs.sets.insert? set).map fun sets => { costs with sets }

/-- A column of the pointers saved alone: the others stay the row's. -/
def savePointer (job : ℕ) (kind : CostSetKind) (costSet : ℕ) : JobCosts :=
  match costs.jobs.find? job with
  | none => costs
  | some row =>
      { costs with jobs := costs.jobs.put { row with latest := Function.update row.latest kind costSet } }

/-- `job.save(staff=user)` of a loaded job: every column is the object's. -/
def saveJob (job : PointedJob) : JobCosts := { costs with jobs := costs.jobs.put job }

/-- `Job.save` of a new job: a first set of each kind, and the row that points to them. -/
def createJob (job : PointedJob) : Option JobCosts := do
  let costs ← costs.createSet ⟨job.latest .estimate, job.id, .estimate, 1⟩
  let costs ← costs.createSet ⟨job.latest .quote, job.id, .quote, 1⟩
  let costs ← costs.createSet ⟨job.latest .actual, job.id, .actual, 1⟩
  (costs.jobs.insert? job).map fun jobs => { costs with jobs }

/-- `get_or_create_cost_set`: the highest revision of the kind, or a new one after their count. -/
def getOrCreateCostSet (job : ℕ) (kind : CostSetKind) (newSet : ℕ) : Option (RevisedSet × JobCosts) :=
  match (costs.setsOf job kind).argmax RevisedSet.rev with
  | some set => some (set, costs)
  | none =>
      let set : RevisedSet := ⟨newSet, job, kind, (costs.setsOf job kind).length + 1⟩
      (costs.createSet set).map fun costs => (set, costs)

/-- `update_latest_actual`, of a job object and the set its line was put on. -/
def updateLatestActual (job : PointedJob) (set : RevisedSet) : JobCosts :=
  if job.latest .actual = set.id then costs
  else if (costs.sets.find? (job.latest .actual)).all fun latest => latest.rev ≤ set.rev then
    costs.savePointer job.id .actual set.id
  else costs

/-- `ensure_actual_cost_set`: a job always has a latest actual set. -/
def ensureActualCostSet (job : PointedJob) : ℕ := job.latest .actual

/-- `set_latest`, of a set of the job and the kind. -/
def setLatest (set : RevisedSet) : JobCosts := costs.savePointer set.job set.kind set.id

/-- `Max("rev")`, plus one. -/
def nextRev (job : ℕ) (kind : CostSetKind) : ℕ :=
  match (costs.revs job kind).max? with
  | none => 1
  | some highest => highest + 1

def writeLine (costSet : ℕ) (values : CopiedLine) : JobCosts :=
  { costs with lines := costs.lines ++ [⟨costSet, values⟩] }

/-- `cost_lines.all().delete()`. -/
def deleteLines (costSet : ℕ) : JobCosts :=
  { costs with lines := costs.lines.filter fun line => line.costSet ≠ costSet }

/-! ## The quote -/

/-- `_cost_line_contents`. -/
def contentsOf (costSet : ℕ) : Multiset CopiedLine :=
  ((costs.linesOf costSet).map fun line => serializeCopiedLine line.values : List CopiedLine)

/-- No line of the set carries cost or revenue. -/
def isBlank (costSet : ℕ) : Bool :=
  (costs.linesOf costSet).all fun line =>
    line.values.quantity * line.values.unitCost = 0 && line.values.quantity * line.values.unitRev = 0

/-- `create_quote_revision` of a loaded job: the quote's lines go into the archive, and the job is saved. -/
def createQuoteRevision (job : PointedJob) : Option JobCosts :=
  if costs.linesOf (job.latest .quote) = [] then none
  else some ((costs.deleteLines (job.latest .quote)).saveJob job)

def copyCostLines (source dest : ℕ) : JobCosts :=
  { costs with lines := costs.lines ++ (costs.linesOf source).map fun line => ⟨dest, line.values⟩ }

/-- `copy_estimate_to_quote` of a loaded job. -/
def copyEstimateToQuote (job : PointedJob) (archiveExisting : Bool) : Option JobCosts :=
  let estimate := job.latest .estimate
  let quote := job.latest .quote
  if job.pricingMethodology = .timeMaterials ∨ costs.linesOf estimate = [] then none
  else if costs.contentsOf quote = costs.contentsOf estimate then some costs
  else if costs.isBlank quote then
    some (((costs.deleteLines quote).saveJob job).copyCostLines estimate quote)
  else if archiveExisting then
    (costs.createQuoteRevision job).map fun costs => costs.copyCostLines estimate quote
  else none

end JobCosts

instance (costs : JobCosts) (costSet : ℕ) : Decidable (costs.linesOf costSet = []) :=
  decidable_of_iff _ List.isEmpty_iff

/-! ## Requests -/

/-- A request on its way to its transaction, with what it has read. -/
inductive Task where
  | quoteRevision (job : PointedJob)
  | quoteCopy (job : PointedJob) (archiveExisting : Bool)
  | entry (job : PointedJob) (values : CopiedLine)
  /-- A month end about to create a revision of the job's actuals. -/
  | rollover (job rev : ℕ)

/-- A request with a number. -/
structure Client where
  id : ℕ
  task : Task

/-- The tables and the requests.  `written` lists the actual lines ever written: the set of each, and the
latest actual set of its job as its transaction committed. -/
structure CostDesk where
  costs : JobCosts
  clients : Table Client.id
  written : List (ℕ × Option ℕ)

/-- What a request asks of the job it loads. -/
inductive Loading where
  | quoteRevision
  | quoteCopy (archiveExisting : Bool)
  | entry (values : CopiedLine)
  deriving DecidableEq

def Loading.task (job : PointedJob) : Loading → Task
  | .quoteRevision => .quoteRevision job
  | .quoteCopy archiveExisting => .quoteCopy job archiveExisting
  | .entry values => .entry job values

inductive CostStep where
  | jobCreated (job : PointedJob)
  /-- `create_cost_line`; `newSet` is the key of the set it may have to create. -/
  | costLineCreated (job : ℕ) (kind : CostSetKind) (values : CopiedLine) (newSet : ℕ)
  /-- `process_delivery_receipt`: a line on each of some jobs. -/
  | receiptProcessed (allocations : List (ℕ × CopiedLine))
  | loaded (client job : ℕ) (loading : Loading)
  /-- `process_jobs` reads the highest revision of a job. -/
  | monthEndRead (client job : ℕ)
  | committed (client newSet : ℕ)
  | givenUp (client : ℕ)

namespace CostDesk

variable (desk : CostDesk)

/-- Nothing yet. -/
def empty : CostDesk := ⟨⟨.empty, .empty, []⟩, .empty, []⟩

/-- The desk after a transaction that wrote lines on the actuals of some jobs. -/
def commit (costs : JobCosts) (lines : List (ℕ × ℕ)) : CostDesk :=
  { desk with
    costs
    written := desk.written ++ lines.map fun (job, costSet) => (costSet, costs.latestActual? job) }

def createCostLine (job : ℕ) (kind : CostSetKind) (values : CopiedLine) (newSet : ℕ) : Option CostDesk := do
  let _ ← desk.costs.jobs.find? job
  let (set, costs) ← desk.costs.getOrCreateCostSet job kind newSet
  return desk.commit (costs.writeLine set.id values) (if kind = .actual then [(job, set.id)] else [])

/-- The lines of a receipt, each on the latest actual set of its job. -/
def receiptLines (allocations : List (ℕ × CopiedLine)) : Option (List (ℕ × PlacedLine)) :=
  allocations.mapM fun (job, values) =>
    (desk.costs.jobs.find? job).map fun row => (job, ⟨JobCosts.ensureActualCostSet row, values⟩)

/-- `process_delivery_receipt`, which loads its jobs under their locks. -/
def processDeliveryReceipt (allocations : List (ℕ × CopiedLine)) : Option CostDesk :=
  (desk.receiptLines allocations).map fun lines =>
    desk.commit { desk.costs with lines := desk.costs.lines ++ lines.map Prod.snd }
      (lines.map fun (job, line) => (job, line.costSet))

def commitTask (newSet : ℕ) : Task → Option CostDesk
  | .quoteRevision job => (desk.costs.createQuoteRevision job).map fun costs => desk.commit costs []
  | .quoteCopy job archiveExisting =>
      (desk.costs.copyEstimateToQuote job archiveExisting).map fun costs => desk.commit costs []
  | .entry job values => do
      let (set, costs) ← desk.costs.getOrCreateCostSet job.id .actual newSet
      return desk.commit ((costs.writeLine set.id values).updateLatestActual job set) [(job.id, set.id)]
  | .rollover job rev => do
      let set : RevisedSet := ⟨newSet, job, .actual, rev⟩
      let costs ← desk.costs.createSet set
      return desk.commit (costs.setLatest set) []

/-- A request begun. -/
def begin (client : ℕ) (task : Task) : Option CostDesk :=
  (desk.clients.insert? ⟨client, task⟩).map fun clients => { desk with clients }

end CostDesk

/-- One step; a refused transaction leaves nothing. -/
def costDesk : Machine CostDesk CostStep := fun desk step =>
  match step with
  | .jobCreated job => (desk.costs.createJob job).map fun costs => desk.commit costs []
  | .costLineCreated job kind values newSet => desk.createCostLine job kind values newSet
  | .receiptProcessed allocations => desk.processDeliveryReceipt allocations
  | .loaded client job loading => do
      let row ← desk.costs.jobs.find? job
      desk.begin client (loading.task row)
  | .monthEndRead client job => do
      let _ ← desk.costs.jobs.find? job
      desk.begin client (.rollover job (desk.costs.nextRev job .actual))
  | .committed client newSet => do
      let request ← desk.clients.find? client
      let desk ← desk.commitTask newSet request.task
      return { desk with clients := desk.clients.erase client }
  | .givenUp client => some { desk with clients := desk.clients.erase client }

end LatestSets

end Docketworks
