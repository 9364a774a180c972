import Mathlib.Data.List.Sort
import Docketworks.Kanban.BoardCache
import Docketworks.Library.Machine

/-!
# The kanban change feed

`get_kanban_changes` of `apps/job/services/kanban_service.py`, the version endpoint beside it, and
the `reconcile` loop of `useKanbanReconciliation.ts`, as steps that interleave with committing
transactions.

A transaction stamps a row's `updated_at` when it writes it and shows the row to others when it
commits.  A client keeps a cursor: the version it read before the changes it last replayed.  A pass
reads the version, and where it has moved asks for what changed after the cursor.  The endpoint
answers from four statements, each of which sees what is committed when it runs: the topology, the
visible ids, the ids that are no longer visible, the visible jobs.

**Design.**  A full refresh advances the cursor and leaves the columns to be fetched again, one
by one.  A pass that meets a drag or a failed fetch is abandoned and the cursor stays.  Columns may
also be fetched at any other time.  Jobs are created and updated here, not deleted.
-/

namespace Docketworks

open Library

namespace Kanban

/-! ## The server -/

/-- A transaction in flight, with the rows it has written. -/
structure OpenTransaction where
  id : ℕ
  writes : List Job
  deriving DecidableEq

/-- A row reaches the table: updated where its id is known, else created. -/
def saveRow (jobs : Jobs) (job : Job) : Jobs :=
  match jobs.insert? job with
  | some created => created
  | none => jobs.put job

def columnMaxJobs : ℕ := 200

/-- `get_jobs_by_kanban_column` at the board's window. -/
def getJobsByKanbanColumn (jobs : Jobs) (column : OfficeColumnId) : FetchJobsByColumnResponse :=
  let found := (jobs.rows.filter fun job => job.status = column.statusKey).insertionSort
    fun a b => b.priority ≤ a.priority
  { jobs := (found.take columnMaxJobs).map serializeJobForApi
    hasMore := columnMaxJobs < found.length }

/-- The topology a version carries differs from the table's. -/
def topologyMoved (jobs : Jobs) (previous : KanbanDatasetVersion) : Bool :=
  (kanbanVersion jobs).count ≠ previous.count || (kanbanVersion jobs).createdAt ≠ previous.createdAt

/-- `Job.objects.filter(updated_at__gt=previous.updated_at)`. -/
def changedJobs (jobs : Jobs) (previous : KanbanDatasetVersion) : List Job :=
  jobs.rows.filter fun job => previous.updatedAt < job.updatedAt

/-- The ids of the changed jobs the board shows. -/
def visibleIds (jobs : Jobs) (previous : KanbanDatasetVersion) : List ℕ :=
  ((changedJobs jobs previous).filter Job.isVisible).map Job.id

/-- The ids of the changed jobs not among the visible ones. -/
def removedIds (jobs : Jobs) (previous : KanbanDatasetVersion) (visible : List ℕ) : List ℕ :=
  ((changedJobs jobs previous).map Job.id).filter (· ∉ visible)

/-- The changed jobs the board shows, serialised. -/
def visibleJobs (jobs : Jobs) (previous : KanbanDatasetVersion) : List KanbanColumnJobOut :=
  ((changedJobs jobs previous).filter Job.isVisible).map serializeJobForApi

/-! ## The clients -/

inductive Pass where
  | versionsRead (polled : KanbanDatasetVersion)
  | topologyRead (polled : KanbanDatasetVersion)
  | visibleRead (polled : KanbanDatasetVersion) (visible : List ℕ)
  | removedRead (polled : KanbanDatasetVersion) (removed : List ℕ)
  /-- The topology has moved: these columns are still to be fetched again. -/
  | refetching (columns : List OfficeColumnId)
  deriving DecidableEq

/-- A board open in a browser tab. -/
structure Client where
  cursor : Option KanbanDatasetVersion
  columns : ColumnCache
  pass : Option Pass

/-- The version a pass will advance the cursor to. -/
def Pass.polled : Pass → Option KanbanDatasetVersion
  | .versionsRead polled => some polled
  | .topologyRead polled => some polled
  | .visibleRead polled _ => some polled
  | .removedRead polled _ => some polled
  | .refetching _ => none

/-- The columns a full refresh has not fetched again yet. -/
def Pass.pendingColumns : Pass → List OfficeColumnId
  | .refetching columns => columns
  | _ => []

def Client.versionsHeld (client : Client) : List KanbanDatasetVersion :=
  client.cursor.toList ++ (client.pass.bind Pass.polled).toList

def Client.fetch (client : Client) (jobs : Jobs) (column : OfficeColumnId) : Client :=
  { client with
    columns := Function.update client.columns column (some (getJobsByKanbanColumn jobs column)) }

/-- A tab that has read nothing. -/
def Client.new : Client := ⟨none, fun _ => none, none⟩

/-! ## The system -/

variable {ι : Type} [DecidableEq ι]

/-- The committed jobs, the transactions in flight, the clock and the tabs, one for each `ι`. -/
structure Feed (ι : Type) where
  clock : ℤ
  jobs : Jobs
  inFlight : List OpenTransaction
  clients : ι → Client

/-- A step of the system. -/
inductive Act (ι : Type) where
  | tick (now : ℤ)
  | write (tx : ℕ) (job : Job)
  | commit (tx : ℕ)
  | rollback (tx : ℕ)
  | mount (client : ι)
  | fetchColumn (client : ι) (column : OfficeColumnId)
  | readVersions (client : ι)
  | readTopology (client : ι)
  | readVisible (client : ι)
  | readRemoved (client : ι)
  /-- The last statement of the endpoint; the client replays the answer. -/
  | readJobs (client : ι)
  | refetchColumn (client : ι)
  /-- A drag, a move or a failed fetch ends the pass. -/
  | abandon (client : ι)
  deriving DecidableEq

namespace Feed

variable (s : Feed ι)

/-- The rows a transaction has written. -/
def writesOf (tx : ℕ) : List Job :=
  (s.inFlight.filter (·.id = tx)).flatMap OpenTransaction.writes

/-- Another transaction has written the row and holds its lock. -/
def isLockedFor (tx jobId : ℕ) : Bool :=
  s.inFlight.any fun open_ => open_.id ≠ tx && open_.writes.any (·.id = jobId)

/-- The row is new, or keeps the `created_at` of the stored one. -/
def keepsCreatedAt (job : Job) : Bool :=
  (s.jobs.find? job.id).all fun stored => stored.createdAt = job.createdAt

/-- The state with a client changed. -/
def setClient (client : ι) (next : Client) : Feed ι :=
  { s with clients := Function.update s.clients client next }

/-- The state without a transaction. -/
def close (tx : ℕ) : Feed ι :=
  { s with inFlight := s.inFlight.filter (·.id ≠ tx) }

end Feed

def readVersions (s : Feed ι) (client : ι) : Option (Feed ι) :=
  let current := s.clients client
  match current.cursor, current.pass with
  | some cursor, none =>
      let polled := kanbanVersion s.jobs
      if polled = cursor then some s
      else some (s.setClient client { current with pass := some (.versionsRead polled) })
  | _, _ => none

/-- The statements of `get_kanban_changes`, and what the client does with the answer. -/
def stepPass (s : Feed ι) (client : ι) (act : Act ι) : Option (Feed ι) :=
  let current := s.clients client
  match current.cursor, current.pass, act with
  | some cursor, some (.versionsRead polled), .readTopology _ =>
      if topologyMoved s.jobs cursor then
        some (s.setClient client
          { current with cursor := some polled, pass := some (.refetching officeColumnIds) })
      else some (s.setClient client { current with pass := some (.topologyRead polled) })
  | some cursor, some (.topologyRead polled), .readVisible _ =>
      some (s.setClient client
        { current with pass := some (.visibleRead polled (visibleIds s.jobs cursor)) })
  | some cursor, some (.visibleRead polled visible), .readRemoved _ =>
      some (s.setClient client
        { current with pass := some (.removedRead polled (removedIds s.jobs cursor visible)) })
  | some cursor, some (.removedRead polled removed), .readJobs _ =>
      some (s.setClient client
        { cursor := some polled
          columns := current.columns.applyKanbanChanges ⟨visibleJobs s.jobs cursor, removed⟩
          pass := none })
  | some _, some (.refetching (column :: rest)), .refetchColumn _ =>
      some (s.setClient client
        { current.fetch s.jobs column with
          pass := if rest = [] then none else some (.refetching rest) })
  | _, _, _ => none

def Feed.step : Machine (Feed ι) (Act ι) := fun s act =>
  match act with
  | .tick now => if s.clock ≤ now then some { s with clock := now } else none
  | .write tx job =>
      if job.updatedAt ≤ s.clock ∧ s.isLockedFor tx job.id = false ∧ s.keepsCreatedAt job then
        some { s.close tx with
          inFlight := (s.close tx).inFlight ++ [⟨tx, s.writesOf tx ++ [job]⟩] }
      else none
  | .commit tx => some { s.close tx with jobs := (s.writesOf tx).foldl saveRow s.jobs }
  | .rollback tx => some (s.close tx)
  | .mount client =>
      let current := s.clients client
      if current.cursor = none then
        some (s.setClient client { current with cursor := some (kanbanVersion s.jobs) })
      else none
  | .fetchColumn client column =>
      let current := s.clients client
      if current.cursor = none then none
      else some (s.setClient client (current.fetch s.jobs column))
  | .readVersions client => readVersions s client
  | .readTopology client => stepPass s client (.readTopology client)
  | .readVisible client => stepPass s client (.readVisible client)
  | .readRemoved client => stepPass s client (.readRemoved client)
  | .readJobs client => stepPass s client (.readJobs client)
  | .refetchColumn client => stepPass s client (.refetchColumn client)
  | .abandon client =>
      let current := s.clients client
      match current.pass with
      | some (.refetching _) => none
      | _ => some (s.setClient client { current with pass := none })

/-- No tab has read anything and nothing is in flight. -/
def Feed.Start (s : Feed ι) : Prop := s.inFlight = [] ∧ ∀ client, s.clients client = .new

/-- Every card the client holds is its job's card as it stands, in the column of its status. -/
def Feed.Current (s : Feed ι) (client : ι) : Prop :=
  ∀ column card, (s.clients client).columns.Holds column card →
    ∃ job ∈ s.jobs.rows, card = serializeJobForApi job ∧ column.statusKey = job.status

/-- A whole pass of a client while nobody else moves. -/
def Feed.poll (s : Feed ι) (client : ι) : List (Act ι) :=
  match (s.clients client).cursor with
  | none => []
  | some cursor =>
      if kanbanVersion s.jobs = cursor then [.readVersions client]
      else if topologyMoved s.jobs cursor then
        [.readVersions client, .readTopology client] ++
          officeColumnIds.map fun _ => .refetchColumn client
      else [.readVersions client, .readTopology client, .readVisible client, .readRemoved client,
        .readJobs client]

end Kanban

end Docketworks
