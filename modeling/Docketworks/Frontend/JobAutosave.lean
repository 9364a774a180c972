import Mathlib.Logic.Function.Basic
import Docketworks.Library.Machine
import Docketworks.Library.Table

/-!
# Autosave and Retry on an open job

`useJobAutosave`, `useJobFieldSave` and the delta contract
(`frontend/src/features/job/useJobAutosave.ts`, `useJobFieldSave.ts`, `delta.ts`) against a job the server
guards by its version (`frontend/src/lib/concurrency/interceptors.ts`, `apps/job/services/job_service.py`).

* `changedFieldsOnly`, `buildJobDeltaEnvelope` — what a save sends.
* `OpenJob` — the form with its pending values, its chain of batches and its refused changes, the requests
  on their way, and the job on the server.
* `jobPage` — one step: an edit, a flush, a save that begins, is received, is answered or fails, a refetch,
  a click on Retry, or somebody else's write.

**Design.**  A request is built, sent, received by the server and answered in steps of their own, and anything
may come between.  So may the refetches that follow a save or a conflict, or they may fail.  The server's
checksum of the values a delta begins from is taken as the values.
-/

namespace Docketworks.Frontend

open Library

/-! ## The delta contract -/

/-- `JOB_EDITABLE_FIELDS`. -/
inductive JobEditableField where
  | name | description | deliveryDate | orderNumber | notes | pricingMethodology | speedQualityTradeoff
  | defaultXeroPayItemId | personId | companyId | jobStatus | rejectedFlag
  deriving DecidableEq

/-- `JOB_EDITABLE_FIELDS`, in order. -/
def JobEditableField.all : List JobEditableField :=
  [.name, .description, .deliveryDate, .orderNumber, .notes, .pricingMethodology, .speedQualityTradeoff,
    .defaultXeroPayItemId, .personId, .companyId, .jobStatus, .rejectedFlag]

lemma JobEditableField.mem_all (field : JobEditableField) : field ∈ all := by cases field <;> decide

/-- What the wire carries for a field. -/
inductive FieldValue where
  | null
  | text (s : String)
  | flag (b : Bool)
  deriving DecidableEq

/-- `JobFieldValues`: the values of some fields. -/
abbrev JobFieldValues : Type := JobEditableField → Option FieldValue

/-- `snapshotJob`: the values of all of them. -/
abbrev JobSnapshot : Type := JobEditableField → FieldValue

namespace JobFieldValues

/-- `{}`. -/
def none : JobFieldValues := fun _ => .none

/-- There are no keys. -/
def isEmpty (values : JobFieldValues) : Bool := JobEditableField.all.all fun field => (values field).isNone

/-- `{ ...base, ...values }`. -/
def onto (values base : JobFieldValues) : JobFieldValues := fun field => (values field).or (base field)

/-- `{ ...baseline, ...values }`. -/
def ontoSnapshot (values : JobFieldValues) (baseline : JobSnapshot) : JobSnapshot := fun field =>
  (values field).getD (baseline field)

/-- The fields not among those of `saved`. -/
def without (values saved : JobFieldValues) : JobFieldValues := fun field =>
  if (saved field).isSome then .none else values field

end JobFieldValues

/-- `changedFieldsOnly`; a baseline has every field. -/
def changedFieldsOnly (baseline : JobSnapshot) (changes : JobFieldValues) : JobFieldValues := fun field =>
  (changes field).filter fun value => value ≠ baseline field

/-- The body of a save. -/
structure JobDeltaEnvelope where
  before : JobFieldValues
  after : JobFieldValues

/-- `buildJobDeltaEnvelope`, where some field has changed. -/
def buildJobDeltaEnvelope (baseline : JobSnapshot) (changes : JobFieldValues) : JobDeltaEnvelope where
  before field := (changedFieldsOnly baseline changes field).map fun _ => baseline field
  after := changedFieldsOnly baseline changes

def nullWhenEmpty : JobEditableField → Bool
  | .description | .orderNumber | .notes | .deliveryDate | .defaultXeroPayItemId => true
  | _ => false

/-- The value `queueChange` queues. -/
def normalised (field : JobEditableField) (value : FieldValue) : FieldValue :=
  if nullWhenEmpty field = true ∧ value = .text "" then .null else value

/-! ## The page -/

/-- How far a save has come. -/
inductive SaveStage where
  /-- Its envelope is being built. -/
  | building
  /-- With the version of its `If-Match`. -/
  | sent (ifMatch : ℕ)
  | refused
  | saved (version : ℕ)
  deriving DecidableEq

structure SaveRequest where
  id : ℕ
  /-- Begun by the chain of the autosave, or by Retry. -/
  chained : Bool
  changes : JobFieldValues
  envelope : JobDeltaEnvelope
  stage : SaveStage

structure OpenJob where
  entered : JobFieldValues
  /-- `pendingRef`. -/
  pending : JobFieldValues
  /-- The batches chained on `savingRef` that have not begun. -/
  queue : List JobFieldValues
  /-- `baselineRef`. -/
  baseline : JobSnapshot
  /-- `rejectedChanges`; none of them is null. -/
  rejected : JobFieldValues
  cached : JobSnapshot
  etag : ℕ
  requests : Table SaveRequest.id
  server : JobSnapshot
  version : ℕ
  lastFailed : JobEditableField → Bool
  /-- Somebody else has written the field since the form last did. -/
  byOthers : JobEditableField → Bool

def OpenJob.opened (cached server : JobSnapshot) (etag version : ℕ) : OpenJob where
  entered := .none
  pending := .none
  queue := []
  baseline := cached
  rejected := .none
  cached
  etag
  requests := .empty
  server
  version
  lastFailed _ := false
  byOthers field := decide (server field ≠ cached field)

namespace OpenJob

/-- The server accepts the delta: the job is as the envelope says it was, unless mismatches are let through,
and at the version the request names. -/
def accepts (softFail : Bool) (page : OpenJob) (request : SaveRequest) (ifMatch : ℕ) : Bool :=
  decide (ifMatch = page.version) && (softFail || JobEditableField.all.all fun field =>
    (request.envelope.before field).all fun value => value = page.server field)

/-- `save` begins, unless nothing differs from the baseline. -/
def begin (page : OpenJob) (id : ℕ) (chained : Bool) (baseline : JobSnapshot) (changes : JobFieldValues) :
    Option OpenJob :=
  if (changedFieldsOnly baseline changes).isEmpty then some page
  else (page.requests.insert? ⟨id, chained, changes, buildJobDeltaEnvelope baseline changes, .building⟩).map
    fun requests => { page with requests }

/-- The request has come to the stage. -/
def advance (page : OpenJob) (request : SaveRequest) (stage : SaveStage) : OpenJob :=
  { page with requests := page.requests.put { request with stage } }

/-- The server takes the request, and writes the fields that have changed. -/
def take (page : OpenJob) (request : SaveRequest) : OpenJob :=
  { page.advance request (.saved (page.version + 1)) with
    server := request.envelope.after.ontoSnapshot page.server
    version := page.version + 1
    byOthers := fun field => page.byOthers field && (request.envelope.after field).isNone }

/-- The server receives the request. -/
def receive (softFail : Bool) (page : OpenJob) (request : SaveRequest) (ifMatch : ℕ) : OpenJob :=
  if page.accepts softFail request ifMatch then page.take request else page.advance request .refused

/-- A save has succeeded: what it carried is not refused any more, and the baseline advances. -/
def succeed (page : OpenJob) (request : SaveRequest) (version : ℕ) : OpenJob :=
  { page with
    rejected := page.rejected.without request.changes
    baseline := request.changes.ontoSnapshot page.baseline
    etag := version
    lastFailed := fun field => page.lastFailed field && (request.envelope.after field).isNone
    requests := page.requests.erase request.id }

/-- A save has failed: its changes are merged into the refused ones. -/
def fail (page : OpenJob) (request : SaveRequest) : OpenJob :=
  { page with
    rejected := request.changes.onto page.rejected
    lastFailed := fun field => page.lastFailed field || (request.envelope.after field).isSome
    requests := page.requests.erase request.id }

/-- The autosave has a save on its way. -/
def isSaving (page : OpenJob) : Bool := page.requests.rows.any SaveRequest.chained

end OpenJob

/-! ## Steps -/

/-- What happens on the page, at the server, or elsewhere. -/
inductive JobPageStep where
  | edited (field : JobEditableField) (value : FieldValue)
  /-- The debounce fires, the field is left, or the form is closed. -/
  | flushed
  | saveBegun (request : ℕ)
  | sent (request : ℕ)
  | received (request : ℕ)
  | answered (request : ℕ)
  /-- Any failure but a conflict; the server may have taken the request. -/
  | failed (request : ℕ)
  | refetched
  /-- Another answer about the job brings its version. -/
  | etagCaptured
  | retryClicked (request : ℕ)
  | othersWrote (field : JobEditableField) (value : FieldValue)
  deriving DecidableEq

/-- One step, where it can be taken. -/
def jobPage (softFail : Bool) : Machine OpenJob JobPageStep
  | page, .edited field value => some { page with
      entered := Function.update page.entered field (some (normalised field value))
      pending := Function.update page.pending field (some (normalised field value)) }
  | page, .flushed =>
      if page.pending.isEmpty then some page
      else some { page with pending := .none, queue := page.queue ++ [page.pending] }
  | page, .saveBegun id =>
      if page.isSaving then none
      else match page.queue with
        | [] => none
        | batch :: queue => { page with queue }.begin id true page.baseline batch
  | page, .sent id =>
      (page.requests.find? id).bind fun request =>
        if request.stage = .building then some (page.advance request (.sent page.etag)) else none
  | page, .received id =>
      (page.requests.find? id).bind fun request =>
        match request.stage with
        | .sent ifMatch => some (page.receive softFail request ifMatch)
        | _ => none
  | page, .answered id =>
      (page.requests.find? id).bind fun request =>
        match request.stage with
        | .refused => some (page.fail request)
        | .saved version => some (page.succeed request version)
        | _ => none
  | page, .failed id =>
      (page.requests.find? id).bind fun request =>
        if request.stage = .building then none else some (page.fail request)
  | page, .refetched => some { page with
      baseline := page.server, cached := page.server, etag := page.version }
  | page, .etagCaptured => some { page with etag := page.version }
  | page, .retryClicked id =>
      if page.rejected.isEmpty then some page else page.begin id false page.cached page.rejected
  | page, .othersWrote field value => some { page with
      server := Function.update page.server field value
      version := page.version + 1
      byOthers := Function.update page.byOthers field true }

end Docketworks.Frontend
