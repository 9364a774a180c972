import Docketworks.Core.Text
import Docketworks.Job.JobWork
import Docketworks.Library.Json

/-!
# Updating a job from a delta

`update_job` with everything that can refuse it, and the rejections it leaves
(`apps/job/services/job_service.py`, `apps/job/services/delta_checksum.py`, `apps/core/etag.py`).

* `PyValue`, `normaliseValue`, `computeJobDeltaChecksum` — the values of a delta and their checksum.
* `validateDeltaPayload` — the envelope against the job as it is.
* `applyDeltaField` — one field of the delta, read and assigned.
* `recordDeltaRejection` — a rejection written, over the one of its job and change if there is one.
* `updateJob` — the whole request: what it answers and what it leaves.

**Design.**  The transaction is a function of the records that answers an error or the records it leaves, so
an error leaves none; the rejections are kept beside the records and written after it.  The texts and parsers
of Python's library are a parameter, `PythonText`, and so is what the database has against a row.  A delta
comes with the keys its schema demands.  Logging is left out.
-/

namespace Docketworks

open Library Kanban

namespace JobRecord

/-! ## Values and their checksum -/

/-- A Python value, as far as the delta contract tells values apart. -/
inductive PyValue where
  | none
  | bool (b : Bool)
  | int (n : ℤ)
  | float (q : ℚ)
  | decimal (q : ℚ)
  | str (s : String)
  | uuid (id : ℕ)
  | date (day : ℤ)
  | datetime (instant : ℤ)
  | list (items : List PyValue)
  | dict (members : List (String × PyValue))
  /-- A value of any other type, by its `str`. -/
  | object (text : String)

structure PythonText where
  /-- `hashlib.sha256(raw).hexdigest()`. -/
  sha256 : String → String
  sha256_ne_empty : ∀ raw, sha256 raw ≠ ""
  str : PyValue → String
  repr : PyValue → String
  uuid : ℕ → String
  dateIso : ℤ → String
  datetimeIso : ℤ → String
  /-- `isoformat(timespec="milliseconds")` in UTC, with a `Z`. -/
  millisecondsIso : ℤ → String
  /-- `isoformat(timespec="microseconds")` in UTC, with a `Z`. -/
  microsecondsIso : ℤ → String
  /-- `format(value, "f")` of a float. -/
  floatFixed : ℚ → String
  /-- `format(value, "f")` of a decimal. -/
  decimalFixed : ℚ → String
  /-- `format(value.normalize(), "f")`. -/
  decimalNormal : ℚ → String
  /-- `date.fromisoformat`. -/
  dateOf : String → Option ℤ
  /-- `datetime.fromisoformat`, made aware. -/
  datetimeOf : String → Option ℤ
  /-- `Decimal(str(value))`; inside, none is a value that is not finite. -/
  decimalOf : PyValue → Option (Option ℚ)
  /-- Django's `parse_etags`. -/
  parseEtags : String → List String

section Values

variable (text : PythonText)

mutual
def normaliseValue : PyValue → String
  | .none => "__NULL__"
  | .str s => pythonStrip s
  | .bool b => if b then "true" else "false"
  | .int n => toString n
  | .decimal q => text.decimalNormal q
  | .float q => text.floatFixed q
  | .datetime instant => text.millisecondsIso instant
  | .date day => text.dateIso day
  | .list items => "[" ++ ",".intercalate (normaliseItems items) ++ "]"
  | .uuid id => text.uuid id
  | .dict members => text.str (.dict members)
  | .object s => s

def normaliseItems : List PyValue → List String
  | [] => []
  | item :: items => normaliseValue item :: normaliseItems items
end

mutual
/-- `_to_json_safe`, then `json.dumps`: there is no text of a value of another type. -/
def jsonSafe : PyValue → Option Json
  | .none => some .null
  | .bool b => some (.bool b)
  | .int n => some (.number n)
  | .float q => some (.number q)
  | .decimal q => some (.string (text.decimalFixed q))
  | .str s => some (.string s)
  | .uuid id => some (.string (text.uuid id))
  | .date day => some (.string (text.dateIso day))
  | .datetime instant => some (.string (text.datetimeIso instant))
  | .list items => (jsonSafeItems items).map .array
  | .dict members => (jsonSafeMembers members).map .object
  | .object _ => none

def jsonSafeItems : List PyValue → Option (List Json)
  | [] => some []
  | item :: items => do return (← jsonSafe item) :: (← jsonSafeItems items)

def jsonSafeMembers : List (String × PyValue) → Option (List (String × Json))
  | [] => some []
  | (key, value) :: members => do return (key, ← jsonSafe value) :: (← jsonSafeMembers members)
end

/-- What a dictionary has under a key. -/
def lookup? (members : List (String × PyValue)) (key : String) : Option PyValue :=
  (members.find? fun member => member.1 = key).map Prod.snd

/-- `ChecksumInput.serialise`. -/
def serialiseComponents (jobId : String) (components : List (String × String)) : String :=
  "|".intercalate (jobId :: components.map fun (field, value) => field ++ "=" ++ value)

def computeJobDeltaChecksum (job : ℕ) (values : List (String × PyValue)) (fields : List String) : String :=
  text.sha256 <| serialiseComponents (text.uuid job) <| (fields.insertionSort (· ≤ ·)).filterMap fun field =>
    (lookup? values field).map fun value => (field, normaliseValue text value)

end Values

/-! ## The envelope -/

/-- `JobDeltaPayload`, as `from_dict` builds it. -/
structure JobDeltaPayload where
  changeId : ℕ
  fields : List String
  before : List (String × PyValue)
  after : List (String × PyValue)
  beforeChecksum : String
  actorId : Option ℕ := none
  madeAt : Option ℤ := none
  jobId : Option ℕ := none
  etag : Option String := none
  undoOfChangeId : Option ℕ := none
  /-- A delta names some field. -/
  fields_ne_nil : fields ≠ []

def JobDeltaPayload.toDict (text : PythonText) (payload : JobDeltaPayload) : List (String × PyValue) :=
  let uuid (id? : Option ℕ) : PyValue := id?.elim .none fun id => .str (text.uuid id)
  [("change_id", .str (text.uuid payload.changeId)),
    ("fields", .list (payload.fields.map .str)),
    ("before", .dict payload.before),
    ("after", .dict payload.after),
    ("before_checksum", .str payload.beforeChecksum),
    ("actor_id", uuid payload.actorId),
    ("made_at", payload.madeAt.elim .none .datetime),
    ("job_id", uuid payload.jobId),
    ("etag", payload.etag.elim .none .str),
    ("undo_of_change_id", uuid payload.undoOfChangeId)]

/-- The exceptions of an update. -/
inductive DeltaError where
  /-- `DeltaValidationError`. -/
  | deltaValidation (message : String) (currentValues : List (String × PyValue)) (serverChecksum : String)
  /-- Any other `PreconditionFailedError`. -/
  | preconditionFailed (message : String)
  /-- `InvalidDeltaError`. -/
  | invalidDelta (message reason : String) (detail : List (String × PyValue))
  /-- Any other `ValueError`. -/
  | value (message : String)
  | other (name : String)

structure JobObject where
  row : JobRow
  /-- `default_xero_pay_item_id` is null. -/
  payItemMissing : Bool := false

/-- A row of the rejection table; its detail is kept as the document it is the text of. -/
structure JobDeltaRejection where
  job : Option ℕ
  staff : Option ℕ
  changeId : Option ℕ
  reason : String
  detail : Json
  envelope : Json
  checksum : Option String
  requestEtag : Option String
  requestIp : Option String
  deriving DecidableEq

/-- What the update meets outside its own code. -/
structure DeltaSite where
  text : PythonText
  now : ℤ
  /-- An attribute of a job that is none of its columns. -/
  otherAttribute : JobRow → String → Option PyValue
  /-- `filter(pk=value)` over the model of a relation: the row it finds, or the class of its exception. -/
  related : String → PyValue → Except String (Option ℕ)
  /-- `XeroPayItem.get_ordinary_time()`. -/
  ordinaryTime : Option ℕ
  /-- What the database, or a check of the models, has against a save: the class of its exception. -/
  refusesSave : JobDeltaPayload → JobRow → Option String
  /-- Whether the database can hold the texts and documents of a rejection. -/
  stores : JobDeltaRejection → Bool

/-! ## The fields of a delta -/

/-- The attributes that are columns, by name. -/
def columnNamed : String → Option JobField
  | "name" => some .name
  | "company_id" => some .company
  | "order_number" => some .orderNumber
  | "person_id" => some .person
  | "job_number" => some .jobNumber
  | "description" => some .description
  | "quote_acceptance_date" => some .quoteAcceptanceDate
  | "delivery_date" => some .deliveryDate
  | "completed_at" => some .completedAt
  | "status" => some .status
  | "rejected_flag" => some .rejectedFlag
  | "rdti_type" => some .rdtiType
  | "pricing_methodology" => some .pricingMethodology
  | "price_cap" => some .priceCap
  | "speed_quality_tradeoff" => some .speedQualityTradeoff
  | "job_is_valid" => some .jobIsValid
  | "paid" => some .paid
  | "foreman_signed_off" => some .foremanSignedOff
  | "timesheets_collected" => some .timesheetsCollected
  | "materials_checked" => some .materialsChecked
  | "customer_called" => some .customerCalled
  | "released" => some .released
  | "fully_invoiced" => some .fullyInvoiced
  | "created_at" => some .createdAt
  | "updated_at" => some .updatedAt
  | "complex_job" => some .complexJob
  | "is_urgent" => some .isUrgent
  | "notes" => some .notes
  | "created_by_id" => some .createdBy
  | "latest_estimate_id" => some .latestEstimate
  | "latest_quote_id" => some .latestQuote
  | "latest_actual_id" => some .latestActual
  | "priority" => some .priority
  | "min_people" => some .minPeople
  | "max_people" => some .maxPeople
  | "xero_project_id" => some .xeroProjectId
  | "xero_default_task_id" => some .xeroDefaultTaskId
  | "xero_last_modified" => some .xeroLastModified
  | "xero_last_synced" => some .xeroLastSynced
  | "default_xero_pay_item_id" => some .defaultXeroPayItem
  | _ => none

/-- `_FIELD_ATTRIBUTE_MAP.get(field_name, field_name)`. -/
def attributeName (fieldName : String) : String :=
  if fieldName = "job_status" then "status" else fieldName

/-- `PRICING_METHODOLOGY_CHOICES`, by key. -/
def pricingMethodologyChoices : List (String × PricingMethodology) :=
  [("time_materials", .timeMaterials), ("fixed_price", .fixedPrice)]

/-- `SpeedQualityTradeoff.values`. -/
def speedQualityChoices : List (String × SpeedQualityTradeoff) :=
  [("fast", .fast), ("normal", .normal), ("quality", .quality)]

/-- `RDTIType.values`. -/
def rdtiChoices : List (String × RDTIType) :=
  [("non_rd", .nonRd), ("core_rd", .coreRd), ("supporting_rd", .supportingRd)]

/-- `JOB_STATUS_CHOICES`, by key. -/
def jobStatusChoices : List (String × JobStatus) :=
  [JobStatus.draft, .awaitingApproval, .approved, .inProgress, .unusual, .recentlyCompleted, .special,
    .archived].map fun status => (status.key, status)

def choiceKey {α : Type} [DecidableEq α] (choices : List (String × α)) (value : α) : PyValue :=
  ((choices.find? fun choice => choice.2 = value).map fun choice => PyValue.str choice.1).getD .none

/-- What a column of the kind holds, as an attribute. -/
def columnValue : (kind : ColumnKind) → kind.Value → PyValue
  | .text, s => .str s
  | .optionalText, s => s.elim .none .str
  | .flag, b => .bool b
  | .key, id => .uuid id
  | .optionalKey, id => id.elim .none .uuid
  | .count, n => .int n
  | .real, q => .float q
  | .money, c => c.elim .none fun c => .decimal c.val
  | .day, day => day.elim .none .date
  | .instant, instant => .datetime instant
  | .optionalInstant, instant => instant.elim .none .datetime
  | .status, status => .str status.key
  | .methodology, method => choiceKey pricingMethodologyChoices method
  | .tradeoff, tradeoff => choiceKey speedQualityChoices tradeoff
  | .rdti, type => type.elim .none (choiceKey rdtiChoices)

section Fields

variable (site : DeltaSite)

def getJobFieldValue (job : JobRow) (fieldName : String) : Except DeltaError PyValue :=
  match columnNamed (attributeName fieldName) with
  | some .jobNumber => .ok (.int (job.value .jobNumber : ℕ))
  | some field => .ok (columnValue field.kind (job.value field))
  | none =>
      match site.otherAttribute job (attributeName fieldName) with
      | some value => .ok value
      | none => .error (.value ("Unsupported field '" ++ fieldName ++ "' in delta payload"))

/-- `_DELTA_UPDATABLE_FIELDS`, with the column each is of. -/
def deltaField : String → Option JobField
  | "company_id" => some .company
  | "person_id" => some .person
  | "default_xero_pay_item_id" => some .defaultXeroPayItem
  | "delivery_date" => some .deliveryDate
  | "quote_acceptance_date" => some .quoteAcceptanceDate
  | "price_cap" => some .priceCap
  | "min_people" => some .minPeople
  | "max_people" => some .maxPeople
  | "paid" => some .paid
  | "job_is_valid" => some .jobIsValid
  | "rejected_flag" => some .rejectedFlag
  | "is_urgent" => some .isUrgent
  | "description" => some .description
  | "notes" => some .notes
  | "order_number" => some .orderNumber
  | "rdti_type" => some .rdtiType
  | "name" => some .name
  | "job_status" => some .status
  | "pricing_methodology" => some .pricingMethodology
  | "speed_quality_tradeoff" => some .speedQualityTradeoff
  | _ => none

variable (fieldName : String)

/-- `Invalid … for '%(field)s': %(value)s`. -/
def invalid (what : String) (value : PyValue) : DeltaError :=
  .value ("Invalid " ++ what ++ " for '" ++ fieldName ++ "': " ++ site.text.repr value)

/-- A key of `_FK_DELTA_FIELDS`. -/
def relationKey (relation : String) : PyValue → Except DeltaError (Option ℕ)
  | .none => .ok none
  | value =>
      match site.related relation value with
      | .ok (some id) => .ok (some id)
      | .ok none => .error (.value (relation ++ " with id " ++ site.text.str value ++ " not found"))
      | .error name => .error (.other name)

def parseDeltaDate : PyValue → Except DeltaError (Option ℤ)
  | .none => .ok none
  | .date day => .ok (some day)
  | .str s =>
      match site.text.dateOf s with
      | some day => .ok (some day)
      | none => .error (invalid site fieldName "date" (.str s))
  | value => .error (invalid site fieldName "date" value)

def parseDeltaDatetime : PyValue → Except DeltaError (Option ℤ)
  | .none => .ok none
  | .datetime instant => .ok (some instant)
  | .str s =>
      match site.text.datetimeOf (s.replace "Z" "+00:00") with
      | some instant => .ok (some instant)
      | none => .error (invalid site fieldName "datetime" (.str s))
  | value => .error (invalid site fieldName "datetime" value)

/-- `_parse_delta_decimal`; a quantized value has at most 28 digits. -/
def parseDeltaDecimal : PyValue → Except DeltaError (Option (Column 10 2))
  | .none => .ok none
  | value =>
      match site.text.decimalOf value with
      | some (some q) =>
          if 10 ^ 26 ≤ |roundHalfEven 2 q| then .error (.other "InvalidOperation")
          else if hplaces : IsDecimal 2 q then
            if hsize : |q| < 10 ^ (10 - 2) then .ok (some ⟨q, hplaces, hsize⟩)
            else .error (.value
              ("'" ++ fieldName ++ "' exceeds the allowed magnitude: " ++ site.text.repr value))
          else .error (.value
            ("'" ++ fieldName ++ "' allows at most 2 decimal places: " ++ site.text.repr value))
      | _ => .error (invalid site fieldName "decimal" value)

/-- A value of `_INT_DELTA_FIELDS`. -/
def parseDeltaInt : PyValue → Except DeltaError ℤ
  | .int n =>
      if n < 0 then
        .error (.value ("'" ++ fieldName ++ "' cannot be negative: " ++ site.text.repr (.int n)))
      else .ok n
  | value => .error (invalid site fieldName "integer" value)

/-- A value of `_BOOL_DELTA_FIELDS`. -/
def parseDeltaBool : PyValue → Except DeltaError Bool
  | .bool b => .ok b
  | value => .error (invalid site fieldName "boolean" value)

/-- A value of `_NULLABLE_TEXT_DELTA_FIELDS`. -/
def parseDeltaText : PyValue → Except DeltaError (Option String)
  | .none => .ok none
  | .str s =>
      if s = "" then
        .error (.value ("Field '" ++ fieldName ++ "' cannot be blank; send null to clear it"))
      else .ok (some s)
  | value => .error (invalid site fieldName "value" value)

/-- A value that has to be a text. -/
def parseDeltaRequired : PyValue → Except DeltaError String
  | .str s => if s = "" then .error (invalid site fieldName "value" (.str s)) else .ok s
  | value => .error (invalid site fieldName "value" value)

/-- The check of `_CHOICE_DELTA_FIELDS`: a null passes it. -/
def parseDeltaChoice {α : Type} (choices : List (String × α)) : PyValue → Except DeltaError (Option α)
  | .none => .ok none
  | .str s =>
      match choices.lookup s with
      | some choice => .ok (some choice)
      | none => .error (invalid site fieldName "value" (.str s))
  | value => .error (invalid site fieldName "value" value)

def parseRequiredChoice {α : Type} (choices : List (String × α)) (value : PyValue) : Except DeltaError α := do
  match ← parseDeltaChoice site fieldName choices value with
  | some choice => .ok choice
  | none => .error (invalid site fieldName "value" value)

/-- The value a delta gives a column; a null pay item is told apart by `applyDeltaField`. -/
def deltaValue : (field : JobField) → PyValue → Except DeltaError field.Value
  | .company, value => relationKey site "company" value
  | .person, value => relationKey site "person" value
  | .defaultXeroPayItem, value => do
      match ← relationKey site "default_xero_pay_item" value with
      | some id => .ok id
      | none => .error (invalid site fieldName "value" value)
  | .deliveryDate, value => parseDeltaDate site fieldName value
  | .quoteAcceptanceDate, value => parseDeltaDatetime site fieldName value
  | .priceCap, value => parseDeltaDecimal site fieldName value
  | .minPeople, value => parseDeltaInt site fieldName value
  | .maxPeople, value => parseDeltaInt site fieldName value
  | .paid, value => parseDeltaBool site fieldName value
  | .jobIsValid, value => parseDeltaBool site fieldName value
  | .rejectedFlag, value => parseDeltaBool site fieldName value
  | .isUrgent, value => parseDeltaBool site fieldName value
  | .description, value => parseDeltaText site fieldName value
  | .notes, value => parseDeltaText site fieldName value
  | .orderNumber, value => parseDeltaText site fieldName value
  | .rdtiType, value => parseDeltaChoice site fieldName rdtiChoices value
  | .name, value => parseDeltaRequired site fieldName value
  | .status, value => parseRequiredChoice site fieldName jobStatusChoices value
  | .pricingMethodology, value => parseRequiredChoice site fieldName pricingMethodologyChoices value
  | .speedQualityTradeoff, value => parseRequiredChoice site fieldName speedQualityChoices value
  | _, _ => .error (.value ("Unsupported field '" ++ fieldName ++ "' in delta payload"))

def applyDeltaField (job : JobObject) (value : PyValue) : Except DeltaError JobObject :=
  match deltaField fieldName, value with
  | none, _ => .error (.value ("Unsupported field '" ++ fieldName ++ "' in delta payload"))
  | some .defaultXeroPayItem, .none => .ok { job with payItemMissing := true }
  | some .defaultXeroPayItem, value =>
      (deltaValue site fieldName .defaultXeroPayItem value).map fun id =>
        { row := job.row.set ⟨.defaultXeroPayItem, id⟩ }
  | some field, value =>
      (deltaValue site fieldName field value).map fun cell => { job with row := job.row.set ⟨field, cell⟩ }

end Fields

/-! ## Validating -/

/-- `sorted(names)`, as a text. -/
def sortedText (text : PythonText) (names : List String) : String :=
  text.repr (.list ((names.insertionSort (· ≤ ·)).map .str))

/-- The telemetry `_validate_delta_payload` leaves on the payload. -/
structure DeltaTelemetry where
  currentValues : List (String × PyValue)
  serverChecksum : String

section Request

variable (site : DeltaSite)

/-- `missing_before` or `missing_after`. -/
def missingFrom (fields : List String) (members : List (String × PyValue)) : List String :=
  fields.filter fun field => (lookup? members field).isNone

/-- Every field has a value before and a value after. -/
def requireConsistent (payload : JobDeltaPayload) : Except DeltaError Unit :=
  let missingBefore := missingFrom payload.fields.dedup payload.before
  let missingAfter := missingFrom payload.fields.dedup payload.after
  if missingBefore ≠ [] ∨ missingAfter ≠ [] then
    .error (.value ("Delta payload is inconsistent: " ++ "; ".intercalate
      ((if missingBefore ≠ [] then ["missing 'before' values for " ++ sortedText site.text missingBefore]
        else []) ++
        (if missingAfter ≠ [] then ["missing 'after' values for " ++ sortedText site.text missingAfter]
          else []))))
  else .ok ()

/-- The values of the fields as the job has them, and the checksum of them. -/
def readTelemetry (job : JobRow) (payload : JobDeltaPayload) : Except DeltaError DeltaTelemetry := do
  let fields := payload.fields.dedup
  requireConsistent site payload
  let currentValues ← fields.mapM fun field => (getJobFieldValue site job field).map fun value => (field, value)
  return { currentValues, serverChecksum := computeJobDeltaChecksum site.text job.id currentValues fields }

/-- The checksum of the client is the server's. -/
def requireChecksum (telemetry : DeltaTelemetry) (payload : JobDeltaPayload) : Except DeltaError Unit :=
  if telemetry.serverChecksum ≠ payload.beforeChecksum then
    .error (.deltaValidation "Delta checksum mismatch: job has changed since the delta was generated"
      telemetry.currentValues telemetry.serverChecksum)
  else .ok ()

/-- The before-values are the job's. -/
def requireBefore (telemetry : DeltaTelemetry) (payload : JobDeltaPayload) : Except DeltaError Unit :=
  let mismatch := payload.fields.dedup.find? fun field =>
    ((lookup? telemetry.currentValues field).map (normaliseValue site.text)) ≠
      ((lookup? payload.before field).map (normaliseValue site.text))
  match mismatch with
  | some field =>
      .error (.deltaValidation ("Delta before state mismatch for field '" ++ field ++ "'")
        telemetry.currentValues telemetry.serverChecksum)
  | none => .ok ()

/-- `_validate_delta_payload`; with soft fail a mismatch is let through. -/
def validateDeltaPayload (job : JobRow) (payload : JobDeltaPayload) (softFail : Bool) :
    Except DeltaError DeltaTelemetry := do
  let telemetry ← readTelemetry site job payload
  if softFail then return telemetry
  requireChecksum telemetry payload
  requireBefore site telemetry payload
  return telemetry

/-! ## Rejections -/

/-- The arguments of `record_delta_rejection`. -/
structure RejectionContext where
  job : Option ℕ
  staff : Option ℕ
  reason : String
  detail : List (String × PyValue)
  envelope : List (String × PyValue)
  changeId : Option ℕ
  checksum : String
  requestEtag : Option String
  requestIp : Option String
  deriving Inhabited

/-- The row a rejection is written as, if its detail and its envelope have a JSON text. -/
def RejectionContext.row? (context : RejectionContext) : Option JobDeltaRejection := do
  let detail ← jsonSafe site.text (.dict context.detail)
  let envelope ← jsonSafe site.text (.dict context.envelope)
  return {
    job := context.job
    staff := context.staff
    changeId := context.changeId
    reason := String.ofList (context.reason.toList.take 255)
    detail
    envelope
    checksum := if context.checksum = "" then none else some context.checksum
    requestEtag := (context.requestEtag.filter (· ≠ "")).map fun tag => String.ofList (tag.toList.take 128)
    requestIp := context.requestIp }

def JobDeltaRejection.isOf (job changeId : ℕ) (rejection : JobDeltaRejection) : Bool :=
  rejection.job = some job && rejection.changeId = some changeId

/-- The rejections of a job and a change. -/
def rejectionsOf (job changeId : ℕ) (rejections : List JobDeltaRejection) : List JobDeltaRejection :=
  rejections.filter (JobDeltaRejection.isOf job changeId)

def updateOrCreate (job changeId : ℕ) (row : JobDeltaRejection) (rejections : List JobDeltaRejection) :
    Except DeltaError (List JobDeltaRejection) :=
  match rejectionsOf job changeId rejections with
  | [] => .ok (rejections ++ [row])
  | [_] => .ok (rejections.map fun other => if other.isOf job changeId then row else other)
  | _ => .error (.other "MultipleObjectsReturned")

/-- `record_delta_rejection`; the checksum has a column of 128 characters. -/
def recordDeltaRejection (context : RejectionContext) (rejections : List JobDeltaRejection) :
    Except DeltaError (List JobDeltaRejection) :=
  match context.row? site with
  | none => .error (.other "TypeError")
  | some row =>
      if 128 < context.checksum.length ∨ site.stores row = false then .error (.other "DataError")
      else
        match context.job, context.changeId with
        | some job, some changeId => updateOrCreate job changeId row rejections
        | _, _ => .ok (rejections ++ [row])

/-! ## The update -/

/-- The jobs with their events, and the staff on them. -/
structure JobStore where
  desk : JobDesk
  people : List (ℕ × ℕ)

/-- The records, and the rejections beside them. -/
structure DeltaDatabase where
  store : JobStore
  rejections : List JobDeltaRejection
  /-- `CompanyDefaults.job_delta_soft_fail`. -/
  softFail : Bool

/-- The arguments of `update_job`. -/
structure DeltaRequest where
  jobId : ℕ
  payload : JobDeltaPayload
  staff : ℕ
  ifMatch : String
  requestIp : Option String := none

/-- `generate_updated_at_etag("job", job.id, job.updated_at)`. -/
def jobEtag (job : JobRow) : String :=
  "\"job:" ++ site.text.uuid job.id ++ ":" ++ site.text.microsecondsIso (job.value .updatedAt) ++ "\""

def ifMatchSatisfied (header current : String) : Bool := (site.text.parseEtags header).contains current

/-- The row a save writes: a missing pay item is the ordinary time. -/
def JobObject.rowToSave (job : JobObject) : Except DeltaError JobRow :=
  if job.payItemMissing then
    match site.ordinaryTime with
    | some item => .ok (job.row.set ⟨.defaultXeroPayItem, item⟩)
    | none => .error (.value ("Can't create the job: Xero's 'Ordinary Time' pay item hasn't come across to " ++
        "DocketWorks. Ask an administrator to update from Xero on the Xero page, or to check the site's setup."))
  else .ok job.row

/-- `job.save(...)` of a job that exists; one turned archived loses its staff. -/
def JobStore.saveJob (store : JobStore) (payload : JobDeltaPayload) (self : JobRow)
    (updateFields : Option (List JobField)) (enrichment : Enrichment) : Except DeltaError JobStore :=
  match store.desk.jobs.find? self.id, site.refusesSave payload self with
  | none, _ => .error (.other "DoesNotExist")
  | _, some refusal => .error (.other refusal)
  | some original, none =>
      match store.desk.saveJob site.now self updateFields enrichment with
      | none => .error (.other "DoesNotExist")
      | some desk =>
          let archived := (updateFields.all fun fields => fields.contains .status) &&
            decide (self.value .status = .archived) && decide (original.value .status ≠ .archived)
          .ok {
            desk
            people := if archived then store.people.filter fun pair => pair.1 ≠ self.id else store.people }

/-- The fields applied, the job saved, and a job whose status moved put on top of its column. -/
def performUpdate (store : JobStore) (payload : JobDeltaPayload) (job : JobRow) :
    Except DeltaError (JobRow × JobStore) := do
  let object ← payload.after.foldlM (fun job (fieldName, value) => applyDeltaField site fieldName job value)
    ({ row := job } : JobObject)
  let self ← object.rowToSave site
  let saved ← store.saveJob site payload self none
    { schemaVersion := 1, changeId := some payload.changeId
      deltaFields := some (payload.fields.filterMap deltaField) }
  if "job_status" ∈ payload.fields ∧ self.value .status ≠ job.value .status then
    let moved := self.set ⟨.priority, saved.desk.nextPriority (self.value .status)⟩
    let placed ← saved.saveJob site payload moved (some [.priority, .updatedAt]) {}
    return (moved, placed)
  else return (self, saved)

/-- `InvalidDeltaError` of a `ValueError` the validation raises. -/
def asInvalidDelta : DeltaError → DeltaError
  | .value message => .invalidDelta message "Invalid delta payload"
      [("error", .str message), ("stage", .str "validation")]
  | error => error

variable (request : DeltaRequest)

/-- The arguments every rejection of the request has in common. -/
def rejectionContext (job : JobRow) (reason : String) (detail : List (String × PyValue)) :
    RejectionContext where
  job := some job.id
  staff := some request.staff
  reason
  detail
  envelope := request.payload.toDict site.text
  changeId := some request.payload.changeId
  checksum := request.payload.beforeChecksum
  requestEtag := some ((request.payload.etag.filter (· ≠ "")).getD request.ifMatch)
  requestIp := request.requestIp

def collectSoftFailContext (job : JobRow) (telemetry : DeltaTelemetry) (softFail : Bool) :
    Option RejectionContext :=
  if softFail ∧ telemetry.serverChecksum ≠ "" ∧ telemetry.serverChecksum ≠ request.payload.beforeChecksum then
    some (rejectionContext site request job "Delta checksum mismatch (soft-fail)"
      [("server_checksum", .str telemetry.serverChecksum), ("current_values", .dict telemetry.currentValues)])
  else none

/-- The version of the request is the job's. -/
def requireCurrent (job : JobRow) : Except DeltaError Unit :=
  if ifMatchSatisfied site request.ifMatch (jobEtag site job) then .ok ()
  else .error (.preconditionFailed "ETag mismatch: resource has changed")

def requireSameJob (job : JobRow) : Except DeltaError Unit :=
  match request.payload.jobId with
  | none => .ok ()
  | some deltaJob =>
      if deltaJob = job.id then .ok ()
      else .error (.invalidDelta
        ("Delta job_id " ++ site.text.uuid deltaJob ++ " does not match target job " ++ site.text.uuid job.id)
        "Delta job_id mismatch"
        [("delta_job_id", .str (site.text.uuid deltaJob)), ("target_job_id", .str (site.text.uuid job.id))])

/-- What follows the validation in the transaction. -/
def afterValidation (store : JobStore) (job : JobRow) : Except DeltaError (JobRow × JobStore) := do
  requireCurrent site request job
  requireSameJob site request job
  performUpdate site store request.payload job

/-- What the handler of an exception records. -/
def handlerContext (job : JobRow) (softFailContext : Option RejectionContext) :
    DeltaError → Option RejectionContext
  | .deltaValidation message currentValues serverChecksum =>
      some (rejectionContext site request job message
        [("server_checksum", .str serverChecksum), ("current_values", .dict currentValues)])
  | .preconditionFailed _ => softFailContext
  | .invalidDelta _ reason detail => some (rejectionContext site request job reason detail)
  | .value _ | .other _ => none

/-- The transaction: its soft-fail context outlives it. -/
def transact (db : DeltaDatabase) (job : JobRow) :
    Option RejectionContext × Except DeltaError (JobRow × JobStore) :=
  match validateDeltaPayload site job request.payload db.softFail with
  | .error error => (none, .error (asInvalidDelta error))
  | .ok telemetry =>
      (collectSoftFailContext site request job telemetry db.softFail, afterValidation site request db.store job)

/-- A rejection written, if there is one, and then the answer; a write that fails is the answer instead. -/
def recordThen (context : Option RejectionContext) (answer : Except DeltaError JobRow) (db : DeltaDatabase) :
    Except DeltaError JobRow × DeltaDatabase :=
  match context with
  | none => (answer, db)
  | some context =>
      match recordDeltaRejection site context db.rejections with
      | .ok rejections => (answer, { db with rejections })
      | .error error => (.error error, db)

def updateJob (db : DeltaDatabase) : Except DeltaError JobRow × DeltaDatabase :=
  match db.store.desk.jobs.find? request.jobId with
  | none => (.error (.other "Http404"), db)
  | some job =>
      match transact site request db job with
      | (softFailContext, .error error) =>
          recordThen site (handlerContext site request job softFailContext error) (.error error) db
      | (softFailContext, .ok (saved, store)) =>
          recordThen site softFailContext (.ok saved) { db with store }

end Request

end JobRecord

end Docketworks
