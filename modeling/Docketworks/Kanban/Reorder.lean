import Docketworks.Core.Errors
import Docketworks.Kanban.Models
import Docketworks.Library.Ranks
import Docketworks.Library.Runs

/-!
# Reordering the board

`reorder_job` of `apps/job/services/kanban_service.py` with what it calls, under the checks its
endpoint makes.  A job takes the midpoint of its anchor's priority and the next one's, or a step
of `PRIORITY_INCREMENT` where there is no next one; nothing else is renumbered.

**Design.**  The history entry of a reorder and what a change of status sets beside the status
(`completed_at`, the people on an archived job) are left out.  The target column is a status of
`JOB_STATUS_CHOICES`.
-/

namespace Docketworks

open Library Library.Transaction

namespace Kanban

abbrev KanbanCall (α : Type) : Type := Transaction Jobs Refusal α

def priorityIncrement : Float64 := .ofRat 200

/-- `JobReorderRequest`, with the job it is for and the time it is served at. -/
structure JobReorderRequest where
  jobId : ℕ
  anchorJobId : Option ℕ
  placement : Option String
  status : Option JobStatus
  now : ℤ
  deriving DecidableEq

/-- The rows of a column, the moved job aside. -/
def otherJobs (jobs : Jobs) (status : JobStatus) (jobId : ℕ) : List Job :=
  jobs.rows.filter fun job => job.status = status && job.id ≠ jobId

/-- `Max("priority")`, and 0 where that is null or zero. -/
def maxPriority (rows : List Job) : Float64 :=
  ((rows.map Job.priority).max?.filter (· ≠ .ofRat 0)).getD (.ofRat 0)

/-- The priority of the next job above the anchor, the moved one aside. -/
def higherPriority (jobs : Jobs) (status : JobStatus) (jobId : ℕ) (anchor : Job) :
    Option Float64 :=
  (((otherJobs jobs status jobId).map Job.priority).filter (anchor.priority < ·)).min?

/-- The priority of the next job below the anchor, the moved one aside. -/
def lowerPriority (jobs : Jobs) (status : JobStatus) (jobId : ℕ) (anchor : Job) :
    Option Float64 :=
  (((otherJobs jobs status jobId).map Job.priority).filter (· < anchor.priority)).max?

/-- The priority a reorder gives the moved job. -/
def calculatePriority (jobs : Jobs) (status : JobStatus) (jobId : ℕ) (anchor : Option Job)
    (placement : Option String) : Except Refusal Float64 :=
  match anchor with
  | none => .ok ((maxPriority (otherJobs jobs status jobId)).add priorityIncrement)
  | some anchor =>
      if placement = some "above" then
        match higherPriority jobs status jobId anchor with
        | some higher => .ok (Float64.midpoint higher anchor.priority)
        | none => .ok (anchor.priority.add priorityIncrement)
      else if placement = some "below" then
        match lowerPriority jobs status jobId anchor with
        | some lower => .ok (Float64.midpoint anchor.priority lower)
        | none => .ok (anchor.priority.add priorityIncrement.neg)
      else .error (.value "placement must be 'above' or 'below'")

/-- Fetch the anchor and check it is in the target column. -/
def getReorderAnchor (anchorJobId : Option ℕ) (targetStatus : JobStatus) :
    KanbanCall (Option Job) :=
  match anchorJobId with
  | none => pure none
  | some anchorId => do
      let found ← Transaction.read fun jobs : Jobs => jobs.find? anchorId
      let anchor ← Transaction.orRefuse found (.doesNotExist "Job")
      .require (anchor.status = targetStatus)
        (.value "Reorder anchor must be in the target status")
      pure (some anchor)

/-- The column a request is for: the one it names, else the job's own. -/
def JobReorderRequest.target (request : JobReorderRequest) (job : Job) : JobStatus :=
  request.status.getD job.status

/-- A text field that is sent and not empty. -/
def given (text : Option String) : Option String := text.filter (· ≠ "")

def reorderJob (request : JobReorderRequest) : KanbanCall Unit := do
  let found ← Transaction.read fun jobs : Jobs => jobs.find? request.jobId
  let job ← Transaction.orRefuse found (.doesNotExist "Job")
  .require (request.anchorJobId ≠ some request.jobId)
    (.value "Reorder anchor cannot be the moved job")
  .require (request.anchorJobId = none ∨
      request.placement = some "above" ∨ request.placement = some "below")
    (.value "placement must be 'above' or 'below'")
  .require (given request.placement = none ∨ request.anchorJobId ≠ none)
    (.value "anchor_job_id is required when placement is supplied")
  let anchor ← getReorderAnchor request.anchorJobId (request.target job)
  let newPriority ← Transaction.consult fun jobs : Jobs =>
    calculatePriority jobs (request.target job) request.jobId anchor request.placement
  .write fun jobs => jobs.put { job with
    priority := newPriority
    status := request.target job
    updatedAt := request.now }

/-- The endpoint: the paired fields first, then the service. -/
def jobJobsReorderCreate (request : JobReorderRequest) : KanbanCall Unit := do
  .require (request.anchorJobId = none ∨ given request.placement ≠ none)
    (.validation "placement is required when anchor_job_id is supplied")
  .require (given request.placement = none ∨ request.anchorJobId ≠ none)
    (.validation "anchor_job_id is required when placement is supplied")
  reorderJob request

/-! ## The board -/

/-- A card is shown before another: higher priority first, then the newer one. -/
def ShownBefore (a b : Job) : Prop :=
  b.priority < a.priority ∨ (a.priority = b.priority ∧ b.createdAt ≤ a.createdAt)

instance (a b : Job) : Decidable (ShownBefore a b) := inferInstanceAs (Decidable (_ ∨ _))

/-- The jobs of a column in the order they are shown. -/
def column (jobs : Jobs) (status : JobStatus) : List Job :=
  (jobs.rows.filter fun job => job.status = status).insertionSort ShownBefore

def columnIds (jobs : Jobs) (status : JobStatus) : List ℕ := (column jobs status).map Job.id

/-- No two jobs of a column share a priority. -/
def DistinctPriorities (jobs : Jobs) : Prop :=
  ∀ a ∈ jobs.rows, ∀ b ∈ jobs.rows, a.status = b.status → a.priority = b.priority → a.id = b.id

instance (jobs : Jobs) : Decidable (DistinctPriorities jobs) :=
  inferInstanceAs (Decidable (∀ _ ∈ _, ∀ _ ∈ _, _))

/-- The moved job is shown right above or right below the anchor. -/
def NextTo (placement : Option String) (ids : List ℕ) (moved anchor : ℕ) : Prop :=
  (placement = some "above" ∧ ∃ l r, ids = l ++ moved :: anchor :: r) ∨
    (placement = some "below" ∧ ∃ l r, ids = l ++ anchor :: moved :: r)

end Kanban

end Docketworks
