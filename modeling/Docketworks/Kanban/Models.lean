import Docketworks.Library.Binary64
import Docketworks.Library.Table

/-!
# Jobs on the kanban board

The rows of `apps/job/models/job.py` as the kanban board reads them, and the dataset version of
`apps/job/kanban_version.py` that the change feed hands out as its cursor.

**Design.**  A timestamp is a number of microseconds since 1970.  What a card shows beyond its
status and its rank is one text, `card`.  The version is kept decoded: a client never reads its
text, and passes back one it was given.
-/

namespace Docketworks

open Library

namespace Kanban

/-- `JOB_STATUS_CHOICES`. -/
inductive JobStatus where
  | draft
  | awaitingApproval
  | approved
  | inProgress
  | unusual
  | recentlyCompleted
  | special
  | archived
  deriving DecidableEq

/-- A row of the job table. -/
structure Job where
  id : ℕ
  status : JobStatus
  priority : Float64
  /-- `auto_now_add`. -/
  createdAt : ℤ
  /-- `auto_now`: taken when the row is written, before the transaction commits. -/
  updatedAt : ℤ
  card : String
  deriving DecidableEq

/-- The jobs under their ids. -/
abbrev Jobs : Type := Table Job.id

/-- `filter_kanban_jobs` keeps the job. -/
def Job.isVisible (job : Job) : Bool := job.status ≠ .special

structure KanbanDatasetVersion where
  updatedAt : ℤ
  createdAt : ℤ
  count : ℕ
  deriving DecidableEq

/-- `Max(..)` over the rows; the empty timestamp where there are none. -/
def latest (stamp : Job → ℤ) (rows : List Job) : ℤ :=
  ((rows.map stamp).max?).getD 0

def kanbanVersion (jobs : Jobs) : KanbanDatasetVersion where
  updatedAt := latest Job.updatedAt jobs.rows
  createdAt := latest Job.createdAt jobs.rows
  count := jobs.rows.length

lemma le_latest {stamp : Job → ℤ} {rows : List Job} {job : Job} (h : job ∈ rows) :
    stamp job ≤ latest stamp rows := by
  have hmem : stamp job ∈ rows.map stamp := List.mem_map_of_mem h
  unfold latest
  cases hmax : (rows.map stamp).max? with
  | none =>
      rw [List.max?_eq_none_iff] at hmax
      simp [hmax] at hmem
  | some top => exact (List.max?_eq_some_iff.mp hmax).2 _ hmem

end Kanban

end Docketworks
