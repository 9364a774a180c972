import Mathlib.Data.List.Sort
import Docketworks.Accounting.StatusReplay
import Docketworks.Library.Machine

/-!
# The operations on jobs

Everything that creates a job or saves one, one operation after the other
(`apps/job/services/job_service.py`, `apps/job/services/kanban_service.py`,
`apps/job/services/auto_archive_service.py`, `apps/job/services/paid_flag_service.py`,
`create_special_job.py`, `create_shop_jobs.py`).

* `JobDesk` — the jobs and their events, and the clock.
* `JobDesk.saveJob` — a row read, changed and saved.
* `JobDesk.createJob`, `JobDesk.updateJob`, `JobDesk.undoJobChange`, `JobDesk.updateJobStatus`,
  `JobDesk.reorderJob`, `JobDesk.acceptQuote`, `JobDesk.autoArchive`, `JobDesk.updatePaidFlags` — the
  services.
* `jobWork` — a run of them, each at a later instant than the one before.

**Design.**  An operation reads its rows as it begins and nothing comes between.  The checksum, the ETag and
the before-values of an update only decide whether it is refused; every one is let through here, and so is
every undo.
-/

namespace Docketworks

open Library Kanban

namespace JobRecord

/-- The jobs and their events, and the instant of the last operation. -/
structure JobDesk where
  jobs : Table JobRow.id
  events : List JobEvent
  clock : ℤ

namespace JobDesk

variable (desk : JobDesk) (now : ℤ)

/-! ## Saving -/

/-- `Max("priority")` over some of the jobs, or zero. -/
def maxPriority (p : JobRow → Bool) : ℚ :=
  (((desk.jobs.rows.filter p).map fun row => row.value .priority).max?).getD 0

/-- `_calculate_next_priority_for_status`. -/
def nextPriority (status : JobStatus) : ℚ :=
  desk.maxPriority (fun row => row.value .status = status) + 200

/-- `job.save(...)` of an object read from the row of its id. -/
def saveJob (self : JobRow) (updateFields : Option (List JobField)) (enrichment : Enrichment) :
    Option JobDesk :=
  (desk.jobs.find? self.id).map fun original =>
    let saved := self.save original updateFields enrichment (desk.maxPriority fun _ => true) now
    { desk with
      jobs := desk.jobs.put (saved.over original)
      events := desk.events ++ saved.event.toList }

/-! ## Creating -/

/-- A new row at the top of its column. -/
def insertJob (row : JobRow) (status : JobStatus) : Option JobDesk :=
  let row := (row.set ⟨.status, status⟩).set ⟨.priority, desk.nextPriority status⟩
  (desk.jobs.insert? row).map fun jobs => { desk with jobs }

/-- The event `create_job` records. -/
def creationEvent (row : JobRow) (status : JobStatus) : JobEvent where
  job := row.id
  timestamp := now
  eventType := .jobCreated
  deltaBefore := []
  deltaAfter := [⟨.status, status⟩]
  schemaVersion := 0
  changeId := none
  deltaFields := none

/-- `create_job`: a draft, and its creation event. -/
def createJob (row : JobRow) : Option JobDesk :=
  (desk.insertJob row .draft).map fun desk =>
    { desk with events := desk.events ++ [creationEvent now row .draft] }

/-- A job of `create_special_job` or `create_shop_jobs`. -/
def createSpecialJob (row : JobRow) : Option JobDesk := desk.insertJob row .special

/-! ## Updating -/

/-- `_DELTA_UPDATABLE_FIELDS`. -/
def deltaUpdatable : List JobField :=
  [.company, .person, .defaultXeroPayItem, .deliveryDate, .quoteAcceptanceDate, .priceCap, .minPeople,
    .maxPeople, .paid, .jobIsValid, .rejectedFlag, .isUrgent, .description, .notes, .orderNumber, .rdtiType,
    .name, .status, .pricingMethodology, .speedQualityTradeoff]

/-- What `_apply_delta_field` refuses: a blank text and a negative number. -/
def isAcceptable : Cell → Bool
  | ⟨.name, value⟩ => decide (value ≠ "")
  | ⟨.description, value⟩ | ⟨.notes, value⟩ | ⟨.orderNumber, value⟩ => decide (value ≠ some "")
  | ⟨.minPeople, value⟩ | ⟨.maxPeople, value⟩ => decide (0 ≤ value)
  | _ => true

def applyDeltaField (row : JobRow) (cell : Cell) : Option JobRow :=
  if deltaUpdatable.contains cell.1 && isAcceptable cell then some (row.set cell) else none

/-- `JobDeltaPayload`, as far as it is applied. -/
structure JobDelta where
  changeId : Option ℕ
  fields : List JobField
  after : List Cell

def updateJob (job : ℕ) (delta : JobDelta) : Option JobDesk := do
  let row ← desk.jobs.find? job
  guard (delta.fields ≠ [] ∧ ∀ field ∈ delta.fields, field ∈ delta.after.map Sigma.fst)
  let self ← delta.after.foldlM applyDeltaField row
  let saved ← desk.saveJob now self none
    { schemaVersion := 1, changeId := delta.changeId, deltaFields := some delta.fields }
  if JobField.status ∈ delta.fields ∧ self.value .status ≠ row.value .status then
    saved.saveJob now (self.set ⟨.priority, saved.nextPriority (self.value .status)⟩)
      (some [.priority, .updatedAt]) {}
  else some saved

/-- The cells of the fields, if each of them is there. -/
def cellsOf (fields : List JobField) (cells : List Cell) : Option (List Cell) :=
  fields.mapM fun field => (cellValue? field cells).map fun value => ⟨field, value⟩

def undoJobChange (job changeId undoChangeId : ℕ) : Option JobDesk := do
  let event ← (desk.events.filter fun event => event.job = job ∧ event.changeId = some changeId).getLast?
  guard (event.schemaVersion = 1 ∧ event.deltaBefore.isEmpty = false ∧ event.deltaAfter.isEmpty = false)
  let fields := match event.deltaFields with
    | some (field :: fields) => field :: fields
    | _ => event.deltaBefore.map Sigma.fst
  let before ← cellsOf fields event.deltaBefore
  desk.updateJob now job ⟨some undoChangeId, fields, before⟩

/-! ## Moving -/

def updateJobStatus (job : ℕ) (status : JobStatus) : Option JobDesk := do
  let row ← desk.jobs.find? job
  desk.saveJob now ((row.set ⟨.status, status⟩).set ⟨.priority, desk.nextPriority status⟩)
    (some [.status, .priority, .updatedAt]) {}

/-- `KanbanService.reorder_job`, with the priority and the ranks it has worked out. -/
def reorderJob (job : ℕ) (status : Option JobStatus) (priority : ℚ) (position : ℕ × ℕ) : Option JobDesk := do
  let row ← desk.jobs.find? job
  let moved := row.set ⟨.priority, priority⟩
  match status with
  | some status =>
      if status ≠ row.value .status then
        desk.saveJob now (moved.set ⟨.status, status⟩) (some [.status, .priority, .updatedAt])
          { priorityPosition := some position }
      else desk.saveJob now moved (some [.priority, .updatedAt]) { priorityPosition := some position }
  | none => desk.saveJob now moved (some [.priority, .updatedAt]) { priorityPosition := some position }

def acceptQuote (job : ℕ) : Option JobDesk := do
  let row ← desk.jobs.find? job
  guard (row.value .quoteAcceptanceDate = none ∧
    (row.value .status = .draft ∨ row.value .status = .awaitingApproval))
  desk.saveJob now ((row.set ⟨.quoteAcceptanceDate, some now⟩).set ⟨.status, .approved⟩) none
    { eventTypeOverride := some .quoteAccepted }

/-! ## The scheduled passes -/

/-- One object after the other, saved whole. -/
def saveAll (write : JobRow → JobRow) : JobDesk → List JobRow → Option JobDesk
  | desk, [] => some desk
  | desk, row :: rows => do
      let desk ← desk.saveJob now (write row) none {}
      desk.saveAll write rows

/-- `auto_archive_completed_jobs`, with its threshold. -/
def autoArchive (threshold : ℤ) : Option JobDesk :=
  desk.saveAll now (fun row => row.set ⟨.status, .archived⟩) <| desk.jobs.rows.filter fun row =>
    decide (row.value .status = .recentlyCompleted) &&
      (row.value .completedAt).any (fun completed => completed ≤ threshold) &&
        (row.value .paid || row.value .rejectedFlag)

/-- `update_paid_flags`; `settled` are the jobs with invoices, all paid. -/
def updatePaidFlags (settled : List ℕ) : Option JobDesk :=
  desk.saveAll now (fun row => row.set ⟨.paid, true⟩) <| desk.jobs.rows.filter fun row =>
    decide (row.value .status = .recentlyCompleted) && !row.value .paid && settled.contains row.id

/-- Any other service: some columns of a row changed, and all or some of them saved. -/
def saveColumns (job : ℕ) (cells : List Cell) (updateFields : Option (List JobField)) : Option JobDesk := do
  let row ← desk.jobs.find? job
  desk.saveJob now (cells.foldl JobRow.set row) updateFields {}

end JobDesk

/-! ## Runs -/

inductive JobOperation where
  | jobCreated (row : JobRow)
  | specialJobCreated (row : JobRow)
  | jobUpdated (job : ℕ) (delta : JobDesk.JobDelta)
  | changeUndone (job changeId undoChangeId : ℕ)
  | statusUpdated (job : ℕ) (status : JobStatus)
  | reordered (job : ℕ) (status : Option JobStatus) (priority : ℚ) (position : ℕ × ℕ)
  | quoteAccepted (job : ℕ)
  | autoArchived (threshold : ℤ)
  | paidFlagsUpdated (settled : List ℕ)
  | columnsSaved (job : ℕ) (cells : List Cell) (updateFields : Option (List JobField))

/-- The desk after an operation, unless it is refused. -/
def JobDesk.perform (desk : JobDesk) (now : ℤ) : JobOperation → Option JobDesk
  | .jobCreated row => desk.createJob now row
  | .specialJobCreated row => desk.createSpecialJob row
  | .jobUpdated job delta => desk.updateJob now job delta
  | .changeUndone job changeId undoChangeId => desk.undoJobChange now job changeId undoChangeId
  | .statusUpdated job status => desk.updateJobStatus now job status
  | .reordered job status priority position => desk.reorderJob now job status priority position
  | .quoteAccepted job => desk.acceptQuote now job
  | .autoArchived threshold => desk.autoArchive now threshold
  | .paidFlagsUpdated settled => desk.updatePaidFlags now settled
  | .columnsSaved job cells updateFields => desk.saveColumns now job cells updateFields

structure TimedOperation where
  instant : ℤ
  operation : JobOperation

/-- A run of operations, each later than the one before. -/
def jobWork : Machine JobDesk TimedOperation := fun desk timed =>
  if desk.clock < timed.instant then
    (desk.perform timed.instant timed.operation).map fun desk => { desk with clock := timed.instant }
  else none

/-! ## Plain rows -/

/-- What a column of the kind holds where nothing was said. -/
def emptyValue : (kind : ColumnKind) → kind.Value
  | .text => "Welding"
  | .optionalText | .optionalKey | .money | .day | .optionalInstant | .rdti => none
  | .flag => false
  | .key | .count | .real | .instant => 0
  | .status => .draft
  | .methodology => .timeMaterials
  | .tradeoff => .normal

/-- A job with nothing filled in. -/
def plainJob (id : ℕ) : JobRow := ⟨id, fun field => emptyValue field.kind⟩

/-! ## What the report reads of it -/

def JobEvent.reported (event : JobEvent) : Accounting.PipelineEvent where
  job := some event.job
  timestamp := event.timestamp
  eventType := event.eventType
  status := (cellValue? .status event.deltaAfter).map fun status => some (JobStatus.key status)

def JobDesk.eventsOf (desk : JobDesk) (job : ℕ) : List Accounting.PipelineEvent :=
  ((desk.events.filter fun event => event.job = job).map JobEvent.reported).insertionSort
    fun a b => a.timestamp ≤ b.timestamp

def JobDesk.statusOf (desk : JobDesk) (job : ℕ) : Option String :=
  (desk.jobs.find? job).map fun row => JobStatus.key (row.value .status)

end JobRecord

end Docketworks
