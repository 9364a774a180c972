import Docketworks.Job.JobRecord

/-!
# Replaying the status of a job

`_replay_status_as_of` of `apps/accounting/services/sales_pipeline_service.py`.

* `PipelineEvent` — what the report reads of an event.
* `replayStatusAsOf` — the status a job had at an instant, from its events in timestamp order.
* `JobStatus.key` — the stored text of a status.
-/

namespace Docketworks

/-- The stored text of a status. -/
def Kanban.JobStatus.key : Kanban.JobStatus → String
  | .draft => "draft"
  | .awaitingApproval => "awaiting_approval"
  | .approved => "approved"
  | .inProgress => "in_progress"
  | .unusual => "unusual"
  | .recentlyCompleted => "recently_completed"
  | .special => "special"
  | .archived => "archived"

namespace Accounting

open JobRecord

/-- What the report reads of an event. -/
structure PipelineEvent where
  job : Option ℕ
  timestamp : ℤ
  eventType : JobEventType
  /-- `delta_after["status"]`, if the key is there; it may be null. -/
  status : Option (Option String)
  deriving DecidableEq

/-- One event of the replay: whether the creation has been seen, and the status. -/
def replayEvent (replayed : Bool × Option String) (event : PipelineEvent) : Bool × Option String :=
  match event.eventType, event.status with
  | .jobCreated, some status => (true, status)
  | .statusChanged, some status | .quoteAccepted, some status | .jobRejected, some status =>
      (replayed.1, status)
  | _, _ => replayed

def replayStatusAsOf (events : List PipelineEvent) (cutoff : ℤ) : Option String :=
  let replayed := (events.takeWhile fun event => event.timestamp ≤ cutoff).foldl replayEvent (false, none)
  if replayed.1 then replayed.2 else none

end Accounting

end Docketworks
