import Docketworks.Kanban.Models

/-!
# The board's column caches

`frontend/src/features/kanban/boardCache.ts` and the part of `useKanbanReconciliation.ts` that
replays one changes response into the columns.  A column is loaded once its first fetch has
answered, and holds at most a window of the server's cards.

* `ColumnCache.HoldsRight cache pending job` — every card the columns hold under the job's id is the
  job's card, in the column of its status; the `pending` columns are left aside.
* `holds_applyKanbanChanges` — after a replay a card in a column is one of the changed ones, or was
  there before and was neither removed nor changed.
-/

namespace Docketworks

open Library

namespace Kanban

/-- `OFFICE_COLUMN_IDS`: the columns of the office board, one for each visible status. -/
inductive OfficeColumnId where
  | draft
  | awaitingApproval
  | approved
  | inProgress
  | unusual
  | recentlyCompleted
  | archived
  deriving DecidableEq

/-- The columns in display order. -/
def officeColumnIds : List OfficeColumnId :=
  [.draft, .awaitingApproval, .approved, .inProgress, .unusual, .recentlyCompleted, .archived]

def OfficeColumnId.statusKey : OfficeColumnId → JobStatus
  | .draft => .draft
  | .awaitingApproval => .awaitingApproval
  | .approved => .approved
  | .inProgress => .inProgress
  | .unusual => .unusual
  | .recentlyCompleted => .recentlyCompleted
  | .archived => .archived

/-- A card as the API serialises it. -/
structure KanbanColumnJobOut where
  id : ℕ
  statusKey : JobStatus
  priority : Float64
  createdAt : ℤ
  updatedAt : ℤ
  card : String
  deriving DecidableEq

def serializeJobForApi (job : Job) : KanbanColumnJobOut :=
  ⟨job.id, job.status, job.priority, job.createdAt, job.updatedAt, job.card⟩

/-- One column's response: its cards, and whether the server had more. -/
structure FetchJobsByColumnResponse where
  jobs : List KanbanColumnJobOut
  hasMore : Bool
  deriving DecidableEq

/-- The column queries; one that has never answered holds no data. -/
abbrev ColumnCache : Type := OfficeColumnId → Option FetchJobsByColumnResponse

structure KanbanChangesResponse where
  jobs : List KanbanColumnJobOut
  removedJobIds : List ℕ
  deriving DecidableEq

/-- The cards of a column without those under an id. -/
def without (jobs : List KanbanColumnJobOut) (jobId : ℕ) : List KanbanColumnJobOut :=
  jobs.filter (·.id ≠ jobId)

/-- `insertByPosition` at the card's own descending-priority slot; ties keep the incumbent
ahead. -/
def insertByPriority (jobs : List KanbanColumnJobOut) (job : KanbanColumnJobOut) :
    List KanbanColumnJobOut :=
  jobs.takeWhile (fun candidate => ¬ candidate.priority < job.priority) ++
    job :: jobs.dropWhile (fun candidate => ¬ candidate.priority < job.priority)

namespace ColumnCache

variable (cache : ColumnCache)

/-- The card belongs past the end of a column's loaded window. -/
def isBeyondColumnWindow (column : OfficeColumnId) (job : KanbanColumnJobOut) : Bool :=
  match cache column with
  | none => false
  | some data =>
      data.hasMore &&
        match (without data.jobs job.id).getLast? with
        | none => false
        | some last => job.priority < last.priority

/-- Drop a card from every column. -/
def removeJob (jobId : ℕ) : ColumnCache :=
  fun column => (cache column).map fun current =>
    { current with jobs := without current.jobs jobId }

/-- Move a card to the column its `status_key` names, at its priority's slot. -/
def applyJobUpsert (job : KanbanColumnJobOut) : ColumnCache :=
  fun column => (cache column).map fun current =>
    if column.statusKey ≠ job.statusKey then { current with jobs := without current.jobs job.id }
    else { current with jobs := insertByPriority (without current.jobs job.id) job }

/-- Replay one changed card. -/
def applyChangedJob (job : KanbanColumnJobOut) : ColumnCache :=
  match officeColumnIds.find? (fun column => column.statusKey = job.statusKey) with
  | none => cache.removeJob job.id
  | some column =>
      if cache.isBeyondColumnWindow column job then cache.removeJob job.id
      else cache.applyJobUpsert job

/-- Replay one changes response: the removals, then the changed cards. -/
def applyKanbanChanges (changes : KanbanChangesResponse) : ColumnCache :=
  changes.jobs.foldl applyChangedJob (changes.removedJobIds.foldl removeJob cache)

/-- The column holds the card. -/
def Holds (column : OfficeColumnId) (card : KanbanColumnJobOut) : Prop :=
  ∃ data, cache column = some data ∧ card ∈ data.jobs

/-- What the columns hold under the job's id is the job's card, where its status puts it.  The
`pending` columns are left aside. -/
def HoldsRight (pending : List OfficeColumnId) (job : Job) : Prop :=
  ∀ column card, column ∉ pending → cache.Holds column card → card.id = job.id →
    card = serializeJobForApi job ∧ column.statusKey = job.status

variable {cache} {column : OfficeColumnId} {card changed : KanbanColumnJobOut} {job : Job}
  {jobId : ℕ}

/-! ## What a replayed change leaves in the columns -/

lemma mem_without {jobs : List KanbanColumnJobOut} :
    card ∈ without jobs jobId ↔ card ∈ jobs ∧ card.id ≠ jobId := by
  simp [without]

lemma mem_insertByPriority {jobs : List KanbanColumnJobOut} :
    card ∈ insertByPriority jobs changed ↔ card = changed ∨ card ∈ jobs := by
  unfold insertByPriority
  rw [List.mem_append, List.mem_cons, or_left_comm, ← List.mem_append, List.takeWhile_append_dropWhile]

lemma holds_removeJob :
    (cache.removeJob jobId).Holds column card ↔ cache.Holds column card ∧ card.id ≠ jobId := by
  unfold Holds removeJob
  cases cache column with
  | none => simp
  | some data => simp [mem_without]

lemma holds_applyJobUpsert (h : (cache.applyJobUpsert changed).Holds column card) :
    (card = changed ∧ column.statusKey = changed.statusKey) ∨
      (cache.Holds column card ∧ card.id ≠ changed.id) := by
  obtain ⟨data, hdata, hcard⟩ := h
  unfold applyJobUpsert at hdata
  obtain ⟨current, hcurrent, rfl⟩ := Option.map_eq_some_iff.mp hdata
  split at hcard
  · rw [mem_without] at hcard
    exact .inr ⟨⟨current, hcurrent, hcard.1⟩, hcard.2⟩
  · rename_i hcolumn
    rw [mem_insertByPriority, mem_without] at hcard
    rcases hcard with rfl | hcard
    · exact .inl ⟨rfl, not_not.mp hcolumn⟩
    · exact .inr ⟨⟨current, hcurrent, hcard.1⟩, hcard.2⟩

lemma holds_applyChangedJob (h : (cache.applyChangedJob changed).Holds column card) :
    (card = changed ∧ column.statusKey = changed.statusKey) ∨
      (cache.Holds column card ∧ card.id ≠ changed.id) := by
  unfold applyChangedJob at h
  split at h
  · exact .inr (holds_removeJob.mp h)
  · split at h
    · exact .inr (holds_removeJob.mp h)
    · exact holds_applyJobUpsert h

lemma holds_removeAll {removed : List ℕ} :
    (removed.foldl removeJob cache).Holds column card ↔
      cache.Holds column card ∧ card.id ∉ removed := by
  induction removed generalizing cache with
  | nil => simp
  | cons jobId rest ih =>
      rw [List.foldl_cons, ih, holds_removeJob]
      simp only [List.mem_cons, not_or]
      tauto

/-- After the changed cards, a card in a column is one of them or was there before under the id of
none. -/
lemma holds_applyAll {changes : List KanbanColumnJobOut}
    (h : (changes.foldl applyChangedJob cache).Holds column card) :
    (card ∈ changes ∧ column.statusKey = card.statusKey) ∨
      (cache.Holds column card ∧ ∀ changed ∈ changes, changed.id ≠ card.id) := by
  induction changes generalizing cache with
  | nil => exact .inr ⟨h, by simp⟩
  | cons changed rest ih =>
      rcases ih h with ⟨hmem, hcolumn⟩ | ⟨hholds, hrest⟩
      · exact .inl ⟨List.mem_cons_of_mem _ hmem, hcolumn⟩
      · rcases holds_applyChangedJob hholds with ⟨rfl, hcolumn⟩ | ⟨hbefore, hne⟩
        · exact .inl ⟨List.mem_cons_self, hcolumn⟩
        · refine .inr ⟨hbefore, fun other hother => ?_⟩
          rcases List.mem_cons.mp hother with rfl | hother
          · exact hne.symm
          · exact hrest other hother

/-- After a replay a card in a column is one of the changed ones, or was there before and was
neither removed nor changed. -/
lemma holds_applyKanbanChanges {changes : KanbanChangesResponse}
    (h : (cache.applyKanbanChanges changes).Holds column card) :
    (card ∈ changes.jobs ∧ column.statusKey = card.statusKey) ∨
      (cache.Holds column card ∧ card.id ∉ changes.removedJobIds ∧
        ∀ changed ∈ changes.jobs, changed.id ≠ card.id) := by
  rcases holds_applyAll h with hchanged | ⟨hholds, hother⟩
  · exact .inl hchanged
  · obtain ⟨hbefore, hkept⟩ := holds_removeAll.mp hholds
    exact .inr ⟨hbefore, hkept, hother⟩

end ColumnCache

end Kanban

end Docketworks
