import Docketworks.Job.DeltaUpdate

/-!
# The rejections of refused deltas

When a request that is refused changes nothing and leaves its rejection, over `Docketworks.Job.DeltaUpdate`.

* `KeepsRejections` — nothing changes without success, and the rejections owed are there.
* `RecordSurvives` — what the request and the records have to be like for it.
* `keepsRejections_iff` — the two are the same.
-/

namespace Docketworks

open Library Kanban

namespace JobRecord

/-! ## Writing a rejection -/

section Write

variable {site : DeltaSite} {request : DeltaRequest} {db : DeltaDatabase} {job : JobRow} {reason : String}
  {detail : List (String × PyValue)}

lemma rejectionsOf_replace {id changeId : ℕ} {row : JobDeltaRejection} {rejections : List JobDeltaRejection}
    (hrow : row.isOf id changeId = true) :
    rejectionsOf id changeId (rejections.map fun other => if other.isOf id changeId then row else other) =
      (rejectionsOf id changeId rejections).map fun _ => row := by
  unfold rejectionsOf
  induction rejections with
  | nil => rfl
  | cons other rejections ih =>
      rw [List.map_cons]
      by_cases hother : other.isOf id changeId = true
      · rw [if_pos hother, List.filter_cons_of_pos hrow, List.filter_cons_of_pos hother, List.map_cons, ih]
      · rw [if_neg hother, List.filter_cons_of_neg hother, List.filter_cons_of_neg hother, ih]

lemma updateOrCreate_eq {id changeId : ℕ} {row : JobDeltaRejection} {rejections : List JobDeltaRejection}
    (hrow : row.isOf id changeId = true) (hone : (rejectionsOf id changeId rejections).length ≤ 1) :
    ∃ written, updateOrCreate id changeId row rejections = .ok written ∧
      rejectionsOf id changeId written = [row] := by
  unfold updateOrCreate
  rcases hof : rejectionsOf id changeId rejections with _ | ⟨other, _ | ⟨another, others⟩⟩
  · refine ⟨rejections ++ [row], rfl, ?_⟩
    unfold rejectionsOf at hof ⊢
    rw [List.filter_append, hof, List.filter_cons_of_pos hrow]
    rfl
  · refine ⟨_, rfl, ?_⟩
    rw [rejectionsOf_replace hrow, hof]
    rfl
  · rw [hof] at hone
    simp at hone

/-- The database can hold the rejection, and holds no two of its job and change. -/
def Writable (site : DeltaSite) (db : DeltaDatabase) (context : RejectionContext) : Prop :=
  ∃ row, context.row? site = some row ∧ context.checksum.length ≤ 128 ∧ site.stores row = true ∧
    ∀ job changeId, context.job = some job → context.changeId = some changeId →
      (rejectionsOf job changeId db.rejections).length ≤ 1

/-- One rejection of the job and the change of the request, and it carries its envelope. -/
def Recorded (site : DeltaSite) (request : DeltaRequest) (db : DeltaDatabase) : Prop :=
  ∃ row, rejectionsOf request.jobId request.payload.changeId db.rejections = [row] ∧
    some row.envelope = jsonSafe site.text (.dict (request.payload.toDict site.text))

lemma row?_eq_some {row : JobDeltaRejection} {context : RejectionContext}
    (h : context.row? site = some row) :
    row.job = context.job ∧ row.changeId = context.changeId ∧
      some row.envelope = jsonSafe site.text (.dict context.envelope) := by
  unfold RejectionContext.row? at h
  simp only [Option.bind_eq_bind, Option.bind_eq_some_iff] at h
  obtain ⟨detail, -, envelope, henvelope, h⟩ := h
  obtain rfl := Option.some.inj h
  exact ⟨rfl, rfl, henvelope.symm⟩

lemma recordThen_of_writable (answer : Except DeltaError JobRow) (hjob : job.id = request.jobId)
    (hwritable : Writable site db (rejectionContext site request job reason detail)) :
    ∃ after, recordThen site (some (rejectionContext site request job reason detail)) answer db =
        (answer, after) ∧ after.store = db.store ∧ Recorded site request after := by
  obtain ⟨row, hrow, hchecksum, hstores, hone⟩ := hwritable
  obtain ⟨hrowJob, hrowChange, henvelope⟩ := row?_eq_some hrow
  have hof : row.isOf job.id request.payload.changeId = true := by
    unfold JobDeltaRejection.isOf
    rw [hrowJob, hrowChange]
    simp [rejectionContext]
  obtain ⟨written, hwritten, honly⟩ := updateOrCreate_eq hof (hone _ _ rfl rfl)
  have hrecord : recordDeltaRejection site (rejectionContext site request job reason detail) db.rejections =
      .ok written := by
    have hholds : ¬(128 < (rejectionContext site request job reason detail).checksum.length ∨
        site.stores row = false) := by
      rintro (hlong | hrefuses)
      · omega
      · rw [hstores] at hrefuses
        cases hrefuses
    unfold recordDeltaRejection
    rw [hrow]
    dsimp only
    rw [if_neg hholds]
    exact hwritten
  refine ⟨{ db with rejections := written }, ?_, rfl, row, ?_, henvelope⟩
  · unfold recordThen
    simp only [hrecord]
  · rw [← hjob]
    exact honly

lemma recordThen_of_not_writable (answer : Except DeltaError JobRow)
    (hwritable : ¬Writable site db (rejectionContext site request job reason detail)) :
    ∃ error, recordThen site (some (rejectionContext site request job reason detail)) answer db =
      (.error error, db) := by
  suffices hrecord : ∃ error,
      recordDeltaRejection site (rejectionContext site request job reason detail) db.rejections =
        .error error by
    obtain ⟨error, hrecord⟩ := hrecord
    refine ⟨error, ?_⟩
    unfold recordThen
    simp only [hrecord]
  unfold recordDeltaRejection
  cases hrow : (rejectionContext site request job reason detail).row? site with
  | none => exact ⟨_, rfl⟩
  | some row =>
      dsimp only
      split
      · exact ⟨_, rfl⟩
      · rename_i hholds
        rw [not_or, Bool.not_eq_false] at hholds
        have hmany : ¬(rejectionsOf job.id request.payload.changeId db.rejections).length ≤ 1 := by
          intro hone
          refine hwritable ⟨row, hrow, by omega, hholds.2, ?_⟩
          intro id changeId hid hchange
          obtain rfl := Option.some.inj hid
          obtain rfl := Option.some.inj hchange
          exact hone
        refine ⟨.other "MultipleObjectsReturned", ?_⟩
        change updateOrCreate job.id request.payload.changeId row db.rejections = _
        unfold updateOrCreate
        rcases hof : rejectionsOf job.id request.payload.changeId db.rejections with
          _ | ⟨other, _ | ⟨another, others⟩⟩
        · simp [hof] at hmany
        · simp [hof] at hmany
        · rfl

end Write

/-! ## How the steps fail -/

section Failures

variable {site : DeltaSite} {fieldName : String} {value : PyValue} {job : JobRow} {payload : JobDeltaPayload}

/-- No handler of the update knows the exception. -/
def DeltaError.IsUnhandled : DeltaError → Prop
  | .value _ | .other _ => True
  | .deltaValidation .. | .invalidDelta .. | .preconditionFailed _ => False

lemma relationKey_fails {relation : String} : FailsWith DeltaError.IsUnhandled (relationKey site relation value) := by
  unfold relationKey
  split
  · exact .ok
  · split
    · exact .ok
    · exact .error trivial
    · exact .error trivial

lemma parseDeltaDate_fails : FailsWith DeltaError.IsUnhandled (parseDeltaDate site fieldName value) := by
  unfold parseDeltaDate
  split
  · exact .ok
  · exact .ok
  · split
    · exact .ok
    · exact .error trivial
  · exact .error trivial

lemma parseDeltaDatetime_fails :
    FailsWith DeltaError.IsUnhandled (parseDeltaDatetime site fieldName value) := by
  unfold parseDeltaDatetime
  split
  · exact .ok
  · exact .ok
  · split
    · exact .ok
    · exact .error trivial
  · exact .error trivial

lemma parseDeltaDecimal_fails :
    FailsWith DeltaError.IsUnhandled (parseDeltaDecimal site fieldName value) := by
  unfold parseDeltaDecimal
  split
  · exact .ok
  · split
    · split
      · exact .error trivial
      · split
        · split
          · exact .ok
          · exact .error trivial
        · exact .error trivial
    · exact .error trivial

lemma parseDeltaInt_fails : FailsWith DeltaError.IsUnhandled (parseDeltaInt site fieldName value) := by
  unfold parseDeltaInt
  split
  · split
    · exact .error trivial
    · exact .ok
  · exact .error trivial

lemma parseDeltaBool_fails : FailsWith DeltaError.IsUnhandled (parseDeltaBool site fieldName value) := by
  unfold parseDeltaBool
  split
  · exact .ok
  · exact .error trivial

lemma parseDeltaText_fails : FailsWith DeltaError.IsUnhandled (parseDeltaText site fieldName value) := by
  unfold parseDeltaText
  split
  · exact .ok
  · split
    · exact .error trivial
    · exact .ok
  · exact .error trivial

lemma parseDeltaRequired_fails :
    FailsWith DeltaError.IsUnhandled (parseDeltaRequired site fieldName value) := by
  unfold parseDeltaRequired
  split
  · split
    · exact .error trivial
    · exact .ok
  · exact .error trivial

lemma parseDeltaChoice_fails {α : Type} {choices : List (String × α)} :
    FailsWith DeltaError.IsUnhandled (parseDeltaChoice site fieldName choices value) := by
  unfold parseDeltaChoice
  split
  · exact .ok
  · split
    · exact .ok
    · exact .error trivial
  · exact .error trivial

lemma parseRequiredChoice_fails {α : Type} {choices : List (String × α)} :
    FailsWith DeltaError.IsUnhandled (parseRequiredChoice site fieldName choices value) := by
  refine .bind parseDeltaChoice_fails fun choice => ?_
  cases choice with
  | none => exact .error trivial
  | some choice => exact .ok

lemma deltaValue_fails {field : JobField} :
    FailsWith DeltaError.IsUnhandled (deltaValue site fieldName field value) := by
  cases field
  case company | person => exact relationKey_fails
  case defaultXeroPayItem =>
    refine .bind relationKey_fails fun id => ?_
    cases id with
    | none => exact .error trivial
    | some id => exact .ok
  case deliveryDate => exact parseDeltaDate_fails
  case quoteAcceptanceDate => exact parseDeltaDatetime_fails
  case priceCap => exact parseDeltaDecimal_fails
  case minPeople | maxPeople => exact parseDeltaInt_fails
  case paid | jobIsValid | rejectedFlag | isUrgent => exact parseDeltaBool_fails
  case description | notes | orderNumber => exact parseDeltaText_fails
  case rdtiType => exact parseDeltaChoice_fails
  case name => exact parseDeltaRequired_fails
  case status | pricingMethodology | speedQualityTradeoff => exact parseRequiredChoice_fails
  all_goals exact .error trivial

lemma applyDeltaField_fails {object : JobObject} :
    FailsWith DeltaError.IsUnhandled (applyDeltaField site fieldName object value) := by
  unfold applyDeltaField
  split
  · exact .error trivial
  · exact .ok
  · exact .map deltaValue_fails
  · exact .map deltaValue_fails

lemma rowToSave_fails {object : JobObject} : FailsWith DeltaError.IsUnhandled (object.rowToSave site) := by
  unfold JobObject.rowToSave
  split
  · split
    · exact .ok
    · exact .error trivial
  · exact .ok

lemma saveJob_fails {store : JobStore} {updateFields : Option (List JobField)} {enrichment : Enrichment} :
    FailsWith DeltaError.IsUnhandled (store.saveJob site payload job updateFields enrichment) := by
  unfold JobStore.saveJob
  split
  · exact .error trivial
  · exact .error trivial
  · split
    · exact .error trivial
    · exact .ok

lemma performUpdate_fails {store : JobStore} :
    FailsWith DeltaError.IsUnhandled (performUpdate site store payload job) := by
  unfold performUpdate
  refine .bind (.foldlM (fun _ _ => applyDeltaField_fails) _ _) fun object => ?_
  refine .bind rowToSave_fails fun self => ?_
  refine .bind saveJob_fails fun saved => ?_
  split
  · exact .bind saveJob_fails fun _ => .ok
  · exact .ok

/-- The validation refuses a mismatch, or with a `ValueError`. -/
def DeltaError.IsMismatchOrValue : DeltaError → Prop
  | .deltaValidation .. | .value _ => True
  | .invalidDelta .. | .preconditionFailed _ | .other _ => False

lemma getJobFieldValue_fails : FailsWith DeltaError.IsMismatchOrValue (getJobFieldValue site job fieldName) := by
  unfold getJobFieldValue
  split
  · exact .ok
  · exact .ok
  · split
    · exact .ok
    · exact .error trivial

lemma readTelemetry_fails : FailsWith DeltaError.IsMismatchOrValue (readTelemetry site job payload) := by
  have hconsistent : FailsWith DeltaError.IsMismatchOrValue (requireConsistent site payload) := by
    unfold requireConsistent
    dsimp only
    split
    · exact .error trivial
    · exact .ok
  exact .bind hconsistent fun _ => .bind (.mapM (fun _ => .map getJobFieldValue_fails) _) fun _ => .ok

lemma validateDeltaPayload_fails {softFail : Bool} :
    FailsWith DeltaError.IsMismatchOrValue (validateDeltaPayload site job payload softFail) := by
  refine .bind readTelemetry_fails fun telemetry => ?_
  have hchecksum : FailsWith DeltaError.IsMismatchOrValue (requireChecksum telemetry payload) := by
    unfold requireChecksum
    split
    · exact .error trivial
    · exact .ok
  have hbefore : FailsWith DeltaError.IsMismatchOrValue (requireBefore site telemetry payload) := by
    unfold requireBefore
    dsimp only
    split
    · exact .error trivial
    · exact .ok
  split
  · exact .ok
  · exact .bind hchecksum fun _ => .bind hbefore fun _ => .ok

end Failures

/-! ## The property and its condition -/

/-- The exceptions of the delta's own validation: a mismatch, or an invalid envelope. -/
def DeltaError.IsOfValidation : DeltaError → Prop
  | .deltaValidation .. | .invalidDelta .. => True
  | .preconditionFailed _ | .value _ | .other _ => False

section Property

variable (site : DeltaSite) (request : DeltaRequest) (db : DeltaDatabase)

def SoftMismatch (job : JobRow) (telemetry : DeltaTelemetry) : Prop :=
  db.softFail = true ∧ readTelemetry site job request.payload = .ok telemetry ∧
    telemetry.serverChecksum ≠ request.payload.beforeChecksum

/-- Without success nothing changes; what the validation refuses is recorded, and so is what a soft-failed
mismatch let through. -/
structure KeepsRejections : Prop where
  unchanged : ∀ error, (updateJob site request db).1 = .error error →
    (updateJob site request db).2.store = db.store
  recorded : ∀ job error, db.store.desk.jobs.find? request.jobId = some job →
    (transact site request db job).2 = .error error → error.IsOfValidation →
      Recorded site request (updateJob site request db).2
  softFail : ∀ job telemetry, db.store.desk.jobs.find? request.jobId = some job →
    SoftMismatch site request db job telemetry → Recorded site request (updateJob site request db).2

def NamesAnotherJob (job : JobRow) : Prop := ∃ deltaJob, request.payload.jobId = some deltaJob ∧ deltaJob ≠ job.id

def anotherJobContext (job : JobRow) (deltaJob : ℕ) : RejectionContext :=
  rejectionContext site request job "Delta job_id mismatch"
    [("delta_job_id", .str (site.text.uuid deltaJob)), ("target_job_id", .str (site.text.uuid job.id))]

def softFailContext (job : JobRow) (telemetry : DeltaTelemetry) : RejectionContext :=
  rejectionContext site request job "Delta checksum mismatch (soft-fail)"
    [("server_checksum", .str telemetry.serverChecksum), ("current_values", .dict telemetry.currentValues)]

/-- The version of the request is the job's. -/
def IsCurrent (job : JobRow) : Prop := ifMatchSatisfied site request.ifMatch (jobEtag site job) = true

/-- Each rejection the request owes can be written or is there already, and after a soft-failed mismatch no
value is refused and the save goes through. -/
structure RecordSurvives (job : JobRow) : Prop where
  validation : ∀ error, validateDeltaPayload site job request.payload db.softFail = .error error →
    ∀ context, handlerContext site request job none (asInvalidDelta error) = some context →
      Recorded site request db ∨ Writable site db context
  anotherJob : ∀ telemetry deltaJob,
    validateDeltaPayload site job request.payload db.softFail = .ok telemetry → IsCurrent site request job →
      request.payload.jobId = some deltaJob → deltaJob ≠ job.id →
        Recorded site request db ∨ Writable site db (anotherJobContext site request job deltaJob)
  stale : ∀ telemetry, SoftMismatch site request db job telemetry → ¬IsCurrent site request job →
    Recorded site request db ∨ Writable site db (softFailContext site request job telemetry)
  refused : ∀ telemetry error, SoftMismatch site request db job telemetry → IsCurrent site request job →
    ¬NamesAnotherJob request job → performUpdate site db.store request.payload job = .error error →
      Recorded site request db
  saved : ∀ telemetry self store, SoftMismatch site request db job telemetry → IsCurrent site request job →
    ¬NamesAnotherJob request job → performUpdate site db.store request.payload job = .ok (self, store) →
      Writable site db (softFailContext site request job telemetry) ∨
        Recorded site request db ∧ store = db.store

end Property

/-! ## The cases of a request -/

section Cases

variable {site : DeltaSite} {request : DeltaRequest} {db : DeltaDatabase} {job : JobRow}
  {telemetry : DeltaTelemetry} {error : DeltaError}

@[simp] lemma store_recordThen {context : Option RejectionContext} {answer : Except DeltaError JobRow} :
    (recordThen site context answer db).2.store = db.store := by
  unfold recordThen
  split
  · rfl
  · split <;> rfl

lemma recorded_recordThen_iff {answer : Except DeltaError JobRow} {reason : String}
    {detail : List (String × PyValue)} (hjob : job.id = request.jobId) :
    Recorded site request (recordThen site (some (rejectionContext site request job reason detail)) answer db).2 ↔
      Recorded site request db ∨ Writable site db (rejectionContext site request job reason detail) := by
  by_cases hwritable : Writable site db (rejectionContext site request job reason detail)
  · obtain ⟨after, hafter, -, hrecorded⟩ := recordThen_of_writable answer hjob hwritable
    rw [hafter]
    exact ⟨fun _ => .inr hwritable, fun _ => hrecorded⟩
  · obtain ⟨error, hafter⟩ := recordThen_of_not_writable answer hwritable
    rw [hafter]
    exact ⟨.inl, fun h => h.resolve_right hwritable⟩

lemma SoftMismatch.collected (h : SoftMismatch site request db job telemetry) :
    validateDeltaPayload site job request.payload db.softFail = .ok telemetry ∧
      collectSoftFailContext site request job telemetry db.softFail =
        some (softFailContext site request job telemetry) := by
  obtain ⟨hsoft, hread, hne⟩ := h
  have hserver : telemetry.serverChecksum ≠ "" := by
    unfold readTelemetry at hread
    obtain ⟨-, -, hread⟩ := bind_eq_ok.mp hread
    obtain ⟨values, -, hread⟩ := bind_eq_ok.mp hread
    obtain rfl := pure_eq_ok.mp hread
    exact site.text.sha256_ne_empty _
  constructor
  · unfold validateDeltaPayload
    rw [hread, hsoft]
    rfl
  · unfold collectSoftFailContext
    rw [if_pos ⟨hsoft, hserver, hne⟩]
    rfl

lemma collect_eq_none (hvalidate : validateDeltaPayload site job request.payload db.softFail = .ok telemetry)
    (h : ¬SoftMismatch site request db job telemetry) :
    collectSoftFailContext site request job telemetry db.softFail = none := by
  unfold collectSoftFailContext
  rw [if_neg]
  rintro ⟨hsoft, -, hne⟩
  refine h ⟨hsoft, ?_, hne⟩
  unfold validateDeltaPayload at hvalidate
  obtain ⟨read, hread, hvalidate⟩ := bind_eq_ok.mp hvalidate
  rw [if_pos hsoft] at hvalidate
  obtain rfl := pure_eq_ok.mp hvalidate
  exact hread

variable (hfind : db.store.desk.jobs.find? request.jobId = some job)

include hfind

lemma updateJob_of_invalid
    (hvalidate : validateDeltaPayload site job request.payload db.softFail = .error error) :
    updateJob site request db =
      recordThen site (handlerContext site request job none (asInvalidDelta error))
        (.error (asInvalidDelta error)) db := by
  simp only [updateJob, hfind, transact, hvalidate]

lemma updateJob_of_error (hvalidate : validateDeltaPayload site job request.payload db.softFail = .ok telemetry)
    (hafter : afterValidation site request db.store job = .error error) :
    updateJob site request db = recordThen site (handlerContext site request job
      (collectSoftFailContext site request job telemetry db.softFail) error) (.error error) db := by
  simp only [updateJob, hfind, transact, hvalidate, hafter]

lemma updateJob_of_saved (hvalidate : validateDeltaPayload site job request.payload db.softFail = .ok telemetry)
    {self : JobRow} {store : JobStore} (hafter : afterValidation site request db.store job = .ok (self, store)) :
    updateJob site request db = recordThen site
      (collectSoftFailContext site request job telemetry db.softFail) (.ok self) { db with store } := by
  simp only [updateJob, hfind, transact, hvalidate, hafter]

omit hfind

variable (site request job) in
lemma afterValidation_cases (store : JobStore) :
    (¬IsCurrent site request job ∧ ∃ message,
      afterValidation site request store job = .error (.preconditionFailed message)) ∨
    (IsCurrent site request job ∧ ∃ deltaJob message detail, request.payload.jobId = some deltaJob ∧
      deltaJob ≠ job.id ∧
      afterValidation site request store job = .error (.invalidDelta message "Delta job_id mismatch" detail) ∧
      rejectionContext site request job "Delta job_id mismatch" detail =
        anotherJobContext site request job deltaJob) ∨
    (IsCurrent site request job ∧ ¬NamesAnotherJob request job ∧
      afterValidation site request store job = performUpdate site store request.payload job) := by
  unfold afterValidation
  by_cases hcurrent : IsCurrent site request job
  · have hrequire : requireCurrent site request job = .ok () := if_pos hcurrent
    rw [hrequire, ok_bind]
    unfold requireSameJob NamesAnotherJob
    cases hjob : request.payload.jobId with
    | none => exact .inr (.inr ⟨hcurrent, by simp, rfl⟩)
    | some deltaJob =>
        dsimp only
        by_cases hsame : deltaJob = job.id
        · rw [if_pos hsame, ok_bind]
          exact .inr (.inr ⟨hcurrent, by simp [hsame], rfl⟩)
        · rw [if_neg hsame]
          exact .inr (.inl ⟨hcurrent, deltaJob, _, _, rfl, hsame, rfl, rfl⟩)
  · have hrequire : requireCurrent site request job =
        .error (.preconditionFailed "ETag mismatch: resource has changed") := if_neg hcurrent
    rw [hrequire]
    exact .inl ⟨hcurrent, _, rfl⟩

end Cases

/-! ## The result -/

section Result

variable {site : DeltaSite} {request : DeltaRequest} {db : DeltaDatabase} {job : JobRow}
  {telemetry : DeltaTelemetry} {error : DeltaError}

lemma keepsRejections_of_invalid (hfind : db.store.desk.jobs.find? request.jobId = some job)
    (hvalidate : validateDeltaPayload site job request.payload db.softFail = .error error) :
    KeepsRejections site request db ↔ RecordSurvives site request db job := by
  have hid : job.id = request.jobId := Table.key_of_find? hfind
  have hsoft : ∀ telemetry, ¬SoftMismatch site request db job telemetry := by
    intro telemetry hmismatch
    rw [hmismatch.collected.1] at hvalidate
    cases hvalidate
  have hupdate := updateJob_of_invalid hfind hvalidate
  -- the validation refuses in two ways, and both handlers write a rejection of the request
  have hcontext : ∃ reason detail, handlerContext site request job none (asInvalidDelta error) =
      some (rejectionContext site request job reason detail) ∧ (asInvalidDelta error).IsOfValidation := by
    have hfails := validateDeltaPayload_fails error hvalidate
    cases error with
    | deltaValidation message values checksum => exact ⟨_, _, rfl, trivial⟩
    | value message => exact ⟨_, _, rfl, trivial⟩
    | invalidDelta => exact hfails.elim
    | preconditionFailed => exact hfails.elim
    | other => exact hfails.elim
  obtain ⟨reason, detail, hcontext, hof⟩ := hcontext
  rw [hcontext] at hupdate
  have htransact : (transact site request db job).2 = .error (asInvalidDelta error) := by
    simp only [transact, hvalidate]
  have hrecorded : Recorded site request (recordThen site (some (rejectionContext site request job reason detail))
      (.error (asInvalidDelta error)) db).2 ↔ Recorded site request db ∨
        Writable site db (rejectionContext site request job reason detail) := recorded_recordThen_iff hid
  rw [← hupdate] at hrecorded
  constructor
  · intro hkeeps
    refine ⟨fun other hother context hother' => ?_, fun telemetry _ hok => ?_,
      fun telemetry h => absurd h (hsoft telemetry), fun telemetry _ h => absurd h (hsoft telemetry),
      fun telemetry _ _ h => absurd h (hsoft telemetry)⟩
    · obtain rfl := Except.error.inj (hvalidate.symm.trans hother)
      obtain rfl := Option.some.inj (hcontext.symm.trans hother')
      exact hrecorded.mp (hkeeps.recorded job _ hfind htransact hof)
    · rw [hvalidate] at hok
      cases hok
  · intro hsurvives
    refine ⟨fun _ _ => ?_, fun job' _ hfind' _ _ => ?_, fun job' telemetry hfind' h => ?_⟩
    · rw [hupdate, store_recordThen]
    · exact hrecorded.mpr (hsurvives.validation error hvalidate _ hcontext)
    · obtain rfl := Option.some.inj (hfind.symm.trans hfind')
      exact absurd h (hsoft telemetry)

lemma keepsRejections_of_stale (hfind : db.store.desk.jobs.find? request.jobId = some job)
    (hvalidate : validateDeltaPayload site job request.payload db.softFail = .ok telemetry)
    (hcurrent : ¬IsCurrent site request job) {message : String}
    (hafter : afterValidation site request db.store job = .error (.preconditionFailed message)) :
    KeepsRejections site request db ↔ RecordSurvives site request db job := by
  have hid : job.id = request.jobId := Table.key_of_find? hfind
  have hupdate := updateJob_of_error hfind hvalidate hafter
  have htransact : (transact site request db job).2 = .error (.preconditionFailed message) := by
    simp only [transact, hvalidate, hafter]
  have hrecorded : ∀ other, SoftMismatch site request db job other →
      (Recorded site request (updateJob site request db).2 ↔
        Recorded site request db ∨ Writable site db (softFailContext site request job other)) := by
    intro other hmismatch
    obtain ⟨hok, hcollected⟩ := hmismatch.collected
    obtain rfl := Except.ok.inj (hvalidate.symm.trans hok)
    have hcontext : handlerContext site request job
        (collectSoftFailContext site request job telemetry db.softFail) (.preconditionFailed message) =
          some (softFailContext site request job telemetry) := hcollected
    rw [hupdate, hcontext]
    exact recorded_recordThen_iff hid
  constructor
  · intro hkeeps
    refine ⟨fun error herror => ?_, fun _ _ _ h => absurd h hcurrent, fun other hmismatch _ => ?_,
      fun _ _ _ h => absurd h hcurrent, fun _ _ _ _ h => absurd h hcurrent⟩
    · rw [hvalidate] at herror
      cases herror
    · exact (hrecorded other hmismatch).mp (hkeeps.softFail job other hfind hmismatch)
  · intro hsurvives
    refine ⟨fun _ _ => ?_, fun job' error hfind' herror hof => ?_, fun job' other hfind' hmismatch => ?_⟩
    · rw [hupdate, store_recordThen]
    · obtain rfl := Option.some.inj (hfind.symm.trans hfind')
      obtain rfl := Except.error.inj (htransact.symm.trans herror)
      exact hof.elim
    · obtain rfl := Option.some.inj (hfind.symm.trans hfind')
      exact (hrecorded other hmismatch).mpr (hsurvives.stale other hmismatch hcurrent)

lemma keepsRejections_of_anotherJob (hfind : db.store.desk.jobs.find? request.jobId = some job)
    (hvalidate : validateDeltaPayload site job request.payload db.softFail = .ok telemetry)
    (hcurrent : IsCurrent site request job) {deltaJob : ℕ} {message : String}
    {detail : List (String × PyValue)} (hdelta : request.payload.jobId = some deltaJob) (hne : deltaJob ≠ job.id)
    (hafter : afterValidation site request db.store job =
      .error (.invalidDelta message "Delta job_id mismatch" detail))
    (hcontext : rejectionContext site request job "Delta job_id mismatch" detail =
      anotherJobContext site request job deltaJob) :
    KeepsRejections site request db ↔ RecordSurvives site request db job := by
  have hid : job.id = request.jobId := Table.key_of_find? hfind
  have hnames : NamesAnotherJob request job := ⟨deltaJob, hdelta, hne⟩
  have hupdate : updateJob site request db = recordThen site
      (some (rejectionContext site request job "Delta job_id mismatch" detail))
      (.error (.invalidDelta message "Delta job_id mismatch" detail)) db :=
    updateJob_of_error hfind hvalidate hafter
  have htransact : (transact site request db job).2 =
      .error (.invalidDelta message "Delta job_id mismatch" detail) := by
    simp only [transact, hvalidate, hafter]
  have hrecorded : Recorded site request (updateJob site request db).2 ↔
      Recorded site request db ∨ Writable site db (anotherJobContext site request job deltaJob) := by
    rw [hupdate, ← hcontext]
    exact recorded_recordThen_iff hid
  constructor
  · intro hkeeps
    refine ⟨fun error herror => ?_, fun _ other _ _ hother _ => ?_, fun _ _ h => absurd hcurrent h,
      fun _ _ _ _ h => absurd hnames h, fun _ _ _ _ _ h => absurd hnames h⟩
    · rw [hvalidate] at herror
      cases herror
    · obtain rfl := Option.some.inj (hdelta.symm.trans hother)
      exact hrecorded.mp (hkeeps.recorded job _ hfind htransact trivial)
  · intro hsurvives
    have hafter := hrecorded.mpr (hsurvives.anotherJob telemetry deltaJob hvalidate hcurrent hdelta hne)
    refine ⟨fun _ _ => ?_, fun _ _ _ _ _ => hafter, fun _ _ _ _ => hafter⟩
    rw [hupdate, store_recordThen]

lemma keepsRejections_of_refused (hfind : db.store.desk.jobs.find? request.jobId = some job)
    (hvalidate : validateDeltaPayload site job request.payload db.softFail = .ok telemetry)
    (hcurrent : IsCurrent site request job) (hnames : ¬NamesAnotherJob request job)
    (hafter : afterValidation site request db.store job = performUpdate site db.store request.payload job)
    (hperform : performUpdate site db.store request.payload job = .error error) :
    KeepsRejections site request db ↔ RecordSurvives site request db job := by
  have hunhandled := performUpdate_fails error hperform
  have htransact : (transact site request db job).2 = .error error := by
    simp only [transact, hvalidate, hafter, hperform]
  have hupdate : updateJob site request db = (.error error, db) := by
    rw [updateJob_of_error hfind hvalidate (hafter.trans hperform)]
    cases error with
    | value => rfl
    | other => rfl
    | deltaValidation => exact hunhandled.elim
    | invalidDelta => exact hunhandled.elim
    | preconditionFailed => exact hunhandled.elim
  constructor
  · intro hkeeps
    refine ⟨fun error herror => ?_, fun _ deltaJob _ _ h hne => absurd ⟨deltaJob, h, hne⟩ hnames,
      fun _ _ h => absurd hcurrent h, fun other _ hmismatch _ _ _ => ?_, fun _ _ _ _ _ _ hok => ?_⟩
    · rw [hvalidate] at herror
      cases herror
    · have hrecorded := hkeeps.softFail job other hfind hmismatch
      rwa [hupdate] at hrecorded
    · rw [hperform] at hok
      cases hok
  · intro hsurvives
    refine ⟨fun _ _ => ?_, fun job' other hfind' herror hof => ?_, fun job' other hfind' hmismatch => ?_⟩
    · rw [hupdate]
    · obtain rfl := Option.some.inj (hfind.symm.trans hfind')
      obtain rfl := Except.error.inj (htransact.symm.trans herror)
      cases error <;> first | exact hof.elim | exact hunhandled.elim
    · obtain rfl := Option.some.inj (hfind.symm.trans hfind')
      rw [hupdate]
      exact hsurvives.refused other error hmismatch hcurrent hnames hperform

lemma keepsRejections_of_saved (hfind : db.store.desk.jobs.find? request.jobId = some job)
    (hvalidate : validateDeltaPayload site job request.payload db.softFail = .ok telemetry)
    (hcurrent : IsCurrent site request job) (hnames : ¬NamesAnotherJob request job)
    (hafter : afterValidation site request db.store job = performUpdate site db.store request.payload job)
    {self : JobRow} {store : JobStore}
    (hperform : performUpdate site db.store request.payload job = .ok (self, store)) :
    KeepsRejections site request db ↔ RecordSurvives site request db job := by
  have hid : job.id = request.jobId := Table.key_of_find? hfind
  have htransact : (transact site request db job).2 = .ok (self, store) := by
    simp only [transact, hvalidate, hafter, hperform]
  have hupdate := updateJob_of_saved hfind hvalidate (hafter.trans hperform)
  have hrest : RecordSurvives site request db job ↔ ∀ other, SoftMismatch site request db job other →
      Writable site db (softFailContext site request job other) ∨
        Recorded site request db ∧ store = db.store := by
    constructor
    · exact fun h other hmismatch => h.saved other self store hmismatch hcurrent hnames hperform
    · intro h
      refine ⟨fun error herror => ?_, fun _ deltaJob _ _ h hne => absurd ⟨deltaJob, h, hne⟩ hnames,
        fun _ _ h => absurd hcurrent h, fun _ _ _ _ _ herror => ?_, fun other self' store' hmismatch _ _ hok => ?_⟩
      · rw [hvalidate] at herror
        cases herror
      · rw [hperform] at herror
        cases herror
      · obtain ⟨rfl, rfl⟩ := Prod.mk.inj (Except.ok.inj (hperform.symm.trans hok))
        exact h other hmismatch
  rw [hrest]
  by_cases hmismatch : SoftMismatch site request db job telemetry
  · rw [hmismatch.collected.2] at hupdate
    have hsame : ∀ other, SoftMismatch site request db job other → other = telemetry := fun other h =>
      Except.ok.inj (h.collected.1.symm.trans hvalidate)
    have hrecorded : Recorded site request (updateJob site request db).2 ↔ Recorded site request db ∨
        Writable site db (softFailContext site request job telemetry) := by
      rw [hupdate]
      exact recorded_recordThen_iff hid
    by_cases hwritable : Writable site db (softFailContext site request job telemetry)
    · have hstored : Writable site { db with store } (softFailContext site request job telemetry) := hwritable
      obtain ⟨after, hthen, -, -⟩ := recordThen_of_writable (.ok self) hid hstored
      refine ⟨fun _ other hother => ?_, fun _ => ⟨fun error herror => ?_, fun job' error hfind' herror _ => ?_,
        fun _ _ _ _ => hrecorded.mpr (.inr hwritable)⟩⟩
      · rw [hsame other hother]
        exact .inl hwritable
      · rw [hupdate] at herror
        change (recordThen site _ _ _).1 = _ at herror
        unfold softFailContext at herror
        rw [hthen] at herror
        cases herror
      · obtain rfl := Option.some.inj (hfind.symm.trans hfind')
        rw [htransact] at herror
        cases herror
    · have hstored : ¬Writable site { db with store } (softFailContext site request job telemetry) := hwritable
      obtain ⟨failure, hthen⟩ := recordThen_of_not_writable (.ok self) hstored
      have hafterwards : updateJob site request db = (.error failure, { db with store }) := hupdate.trans hthen
      constructor
      · intro hkeeps other hother
        refine .inr ⟨(hrecorded.mp (hkeeps.softFail job telemetry hfind hmismatch)).resolve_right hwritable, ?_⟩
        have hstore := hkeeps.unchanged failure (congrArg Prod.fst hafterwards)
        rwa [hafterwards] at hstore
      · intro h
        obtain ⟨hthere, hstore⟩ := (h telemetry hmismatch).resolve_left hwritable
        refine ⟨fun _ _ => ?_, fun _ _ _ _ _ => hrecorded.mpr (.inl hthere),
          fun _ _ _ _ => hrecorded.mpr (.inl hthere)⟩
        rw [hafterwards]
        exact hstore
  · rw [collect_eq_none hvalidate hmismatch] at hupdate
    have hnone : ∀ other, ¬SoftMismatch site request db job other := by
      intro other hother
      obtain rfl := Except.ok.inj (hother.collected.1.symm.trans hvalidate)
      exact hmismatch hother
    refine ⟨fun _ other hother => absurd hother (hnone other), fun _ => ⟨fun error herror => ?_,
      fun job' error hfind' herror _ => ?_, fun job' other hfind' hother => ?_⟩⟩
    · rw [hupdate] at herror
      cases herror
    · obtain rfl := Option.some.inj (hfind.symm.trans hfind')
      rw [htransact] at herror
      cases herror
    · obtain rfl := Option.some.inj (hfind.symm.trans hfind')
      exact absurd hother (hnone other)

/-- **The rejections of refused deltas.**  A request changes nothing unless it succeeds and leaves the
rejections it owes exactly where each of them can be written, or is there already, and where a soft-failed
mismatch is not followed by a refused value or a failing save. -/
theorem keepsRejections_iff (site : DeltaSite) (request : DeltaRequest) (db : DeltaDatabase) :
    KeepsRejections site request db ↔
      ∀ job, db.store.desk.jobs.find? request.jobId = some job → RecordSurvives site request db job := by
  cases hfind : db.store.desk.jobs.find? request.jobId with
  | none =>
      refine ⟨fun _ job hjob => (nomatch hjob), fun _ => ⟨fun _ _ => ?_, fun job _ hjob => ?_,
        fun job _ hjob => ?_⟩⟩
      · simp only [updateJob, hfind]
      · rw [hfind] at hjob
        cases hjob
      · rw [hfind] at hjob
        cases hjob
  | some job =>
      have hone : KeepsRejections site request db ↔ RecordSurvives site request db job := by
        cases hvalidate : validateDeltaPayload site job request.payload db.softFail with
        | error error => exact keepsRejections_of_invalid hfind hvalidate
        | ok telemetry =>
            rcases afterValidation_cases site request job db.store with
              ⟨hcurrent, message, hafter⟩ |
              ⟨hcurrent, deltaJob, message, detail, hdelta, hne, hafter, hcontext⟩ |
              ⟨hcurrent, hnames, hafter⟩
            · exact keepsRejections_of_stale hfind hvalidate hcurrent hafter
            · exact keepsRejections_of_anotherJob hfind hvalidate hcurrent hdelta hne hafter hcontext
            · cases hperform : performUpdate site db.store request.payload job with
              | error error => exact keepsRejections_of_refused hfind hvalidate hcurrent hnames hafter hperform
              | ok saved => exact keepsRejections_of_saved hfind hvalidate hcurrent hnames hafter hperform
      rw [hone]
      constructor
      · rintro h job' hjob'
        obtain rfl := Option.some.inj hjob'
        exact h
      · exact fun h => h job rfl

end Result

/-! ## A rejection that is lost -/

namespace LostRejection

/-- The texts of the update below. -/
def text : PythonText where
  sha256 raw :=
    if raw = "00000000-0000-0000-0000-000000000001|notes=__NULL__" then
      "67aa57c2cbb9176d62f30f717b2a1c9e7ec56943b97680e70ece40faecf47fd0"
    else "168a70b5084770b99b05acd074a90cad031f2ea6bf0fb57ac73abb7a03945d9a"
  sha256_ne_empty raw := by split <;> decide
  str _ := ""
  repr _ := "''"
  uuid _ := "00000000-0000-0000-0000-000000000001"
  dateIso _ := ""
  datetimeIso _ := ""
  millisecondsIso _ := ""
  microsecondsIso _ := "1970-01-01T00:00:00.000000Z"
  floatFixed _ := ""
  decimalFixed _ := ""
  decimalNormal _ := ""
  dateOf _ := none
  datetimeOf _ := none
  decimalOf _ := none
  parseEtags header := [header]

/-- Nothing stands against the save, nor against any rejection. -/
def site : DeltaSite where
  text := text
  now := 1
  otherAttribute _ _ := none
  related _ _ := .ok none
  ordinaryTime := none
  refusesSave _ _ := none
  stores _ := true

/-- A job without notes, with soft fail on. -/
def database : DeltaDatabase where
  store := ⟨⟨(⟨[], List.nodup_nil⟩ : Table JobRow.id).upsert (plainJob 1), [], 0⟩, []⟩
  rejections := []
  softFail := true

/-- Notes the page believes to be there, deleted with a blank text. -/
def request : DeltaRequest where
  jobId := 1
  payload := {
    changeId := 1
    fields := ["notes"]
    before := [("notes", .str "Call first")]
    after := [("notes", .str "")]
    beforeChecksum := "168a70b5084770b99b05acd074a90cad031f2ea6bf0fb57ac73abb7a03945d9a"
    fields_ne_nil := by decide }
  staff := 1
  ifMatch := "\"job:00000000-0000-0000-0000-000000000001:1970-01-01T00:00:00.000000Z\""

end LostRejection

/-- With soft fail on, the blank text is refused after the mismatch was let through, and nothing records it. -/
theorem blank_after_soft_fail_unrecorded :
    ¬KeepsRejections LostRejection.site LostRejection.request LostRejection.database := by
  intro hkeeps
  have hfound : (LostRejection.database.store.desk.jobs.find? LostRejection.request.jobId).isSome = true := by
    decide +kernel
  obtain ⟨job, hjob⟩ := Option.isSome_iff_exists.mp hfound
  have hread : (LostRejection.database.store.desk.jobs.find? LostRejection.request.jobId).any (fun job =>
      (readTelemetry LostRejection.site job LostRejection.request.payload).toOption.any fun telemetry =>
        telemetry.serverChecksum ≠ LostRejection.request.payload.beforeChecksum) = true := by
    decide +kernel
  rw [hjob, Option.any_some] at hread
  obtain ⟨telemetry, htelemetry, hne⟩ := (Option.any_eq_true _ _).mp hread
  have hnone : (updateJob LostRejection.site LostRejection.request LostRejection.database).2.rejections = [] := by
    decide +kernel
  have hmismatch : SoftMismatch LostRejection.site LostRejection.request LostRejection.database job telemetry := by
    refine ⟨rfl, ?_, of_decide_eq_true hne⟩
    cases h : readTelemetry LostRejection.site job LostRejection.request.payload with
    | error error =>
        rw [h] at htelemetry
        cases htelemetry
    | ok other =>
        rw [h] at htelemetry
        obtain rfl := Option.some.inj htelemetry
        rfl
  obtain ⟨row, hrow, -⟩ := hkeeps.softFail job telemetry hjob hmismatch
  rw [hnone] at hrow
  cases hrow

end JobRecord

end Docketworks
