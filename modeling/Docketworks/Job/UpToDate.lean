import Docketworks.Core.Numerals
import Docketworks.Job.DeltaUpdate

/-!
# A delta of a client that is up to date

`_validate_delta_payload` (`apps/job/services/job_service.py`) on a delta whose before-values are what the
API answered for the job: each is compared with the job's own value by `normaliseValue`, a text with a text.

* `apiValue` — what a client reads for a column, after the JSON of the response.
* `AsDocumented` — what the texts of Python's library are like.
* `ReadsBack` — the value's API text is its canonical text.
* `validateDeltaPayload_iff` — such a delta is let through exactly where every value reads back.
* `price_cap_on_a_tenth_is_stale` — a price cap that ends in a zero does not.

**Representation.**  Instants are microseconds; `clock` is the text of a second, `YYYY-MM-DDTHH:MM:SS` in
UTC.
-/

namespace Docketworks

open Library

namespace JobRecord

/-! ## What the API answers -/

def cents (price : Column 10 2) : ℤ := (price.val * 100).num

/-- An instant as the response's encoder writes it: milliseconds where it is on no whole second. -/
def encodedInstant (clock : ℤ → String) (instant : ℤ) : String :=
  let micros := (instant % 1000000).toNat
  clock (instant / 1000000) ++
    (if micros = 0 then "" else "." ++ String.ofList (fractionDigits 3 (micros / 1000))) ++ "Z"

/-- What a client reads for a column of the kind, and sends back. -/
def apiValue (text : PythonText) (clock : ℤ → String) : (kind : ColumnKind) → kind.Value → PyValue
  | .key, id => .str (text.uuid id)
  | .optionalKey, id => id.elim .none fun id => .str (text.uuid id)
  | .money, price => price.elim .none fun price => .str (fixedText 2 (cents price))
  | .day, day => day.elim .none fun day => .str (text.dateIso day)
  | .instant, instant => .str (encodedInstant clock instant)
  | .optionalInstant, instant => instant.elim .none fun instant => .str (encodedInstant clock instant)
  | kind, value => columnValue kind value

/-- What the texts of Python's library are like. -/
structure AsDocumented (text : PythonText) (clock : ℤ → String) : Prop where
  uuid : ∀ id, Spaceless (text.uuid id)
  date : ∀ day, Spaceless (text.dateIso day)
  seconds : ∀ second, Spaceless (clock second)
  /-- `isoformat(timespec="milliseconds")`. -/
  milliseconds : ∀ instant, text.millisecondsIso instant = clock (instant / 1000000) ++ "." ++
    String.ofList (fractionDigits 3 ((instant % 1000000).toNat / 1000)) ++ "Z"
  /-- `format(value.normalize(), "f")`. -/
  decimal : ∀ price : Column 10 2, text.decimalNormal price.val = normalText 2 (cents price)

/-- The text the API answers is the canonical text: a price has a last cent, and an instant is on no
whole second. -/
def ReadsBack : (kind : ColumnKind) → kind.Value → Prop
  | .money, price => ∀ price' ∈ price, (cents price').natAbs % 10 ≠ 0
  | .instant, instant => instant % 1000000 ≠ 0
  | .optionalInstant, instant => ∀ instant' ∈ instant, instant' % 1000000 ≠ 0
  | _, _ => True

section Reading

variable {text : PythonText} {clock : ℤ → String}

lemma spaceless_encodedInstant (hclock : ∀ second, Spaceless (clock second)) (instant : ℤ) :
    Spaceless (encodedInstant clock instant) := by
  unfold encodedInstant
  refine ((hclock _).append ?_).append (by decide)
  split
  · decide
  · refine Spaceless.append (by decide) fun c hc => ?_
    rw [String.toList_ofList] at hc
    exact spaceless_fractionDigits 3 _ c hc

lemma encodedInstant_eq_iff (h : AsDocumented text clock) (instant : ℤ) :
    text.millisecondsIso instant = encodedInstant clock instant ↔ instant % 1000000 ≠ 0 := by
  have hnonneg : 0 ≤ instant % 1000000 := Int.emod_nonneg _ (by decide)
  rw [h.milliseconds]
  unfold encodedInstant
  by_cases hwhole : instant % 1000000 = 0
  · refine iff_of_false (fun heq => ?_) (not_not_intro hwhole)
    have hlength := congrArg (fun text => text.toList.length) heq
    simp [hwhole] at hlength
  · have hmicros : (instant % 1000000).toNat ≠ 0 := by omega
    simp only [hmicros, if_false, String.append_assoc, hwhole, ne_eq, not_false_iff]

/-- **A value reads back** exactly where its API text is its canonical text. -/
lemma normaliseValue_apiValue_iff (h : AsDocumented text clock) (kind : ColumnKind) (value : kind.Value) :
    normaliseValue text (columnValue kind value) = normaliseValue text (apiValue text clock kind value) ↔
      ReadsBack kind value := by
  cases kind with
  | key => exact iff_of_true (h.uuid value).strip.symm trivial
  | optionalKey =>
      rcases value with _ | id
      · exact iff_of_true rfl trivial
      · exact iff_of_true (h.uuid id).strip.symm trivial
  | money =>
      rcases value with _ | price
      · exact iff_of_true rfl fun _ hnone => nomatch hnone
      · have hread : normaliseValue text (.decimal price.val) =
            normaliseValue text (.str (fixedText 2 (cents price))) ↔ (cents price).natAbs % 10 ≠ 0 := by
          rw [normaliseValue, normaliseValue, (spaceless_fixedText 2 _).strip, h.decimal]
          exact normalText_eq_fixedText_iff 1 _
        exact hread.trans ⟨fun hne _ hprice => Option.some.inj hprice ▸ hne, fun hall => hall price rfl⟩
  | day =>
      rcases value with _ | day
      · exact iff_of_true rfl trivial
      · exact iff_of_true (h.date day).strip.symm trivial
  | instant =>
      show text.millisecondsIso value = pythonStrip (encodedInstant clock value) ↔ value % 1000000 ≠ 0
      rw [(spaceless_encodedInstant h.seconds value).strip]
      exact encodedInstant_eq_iff h value
  | optionalInstant =>
      rcases value with _ | instant
      · exact iff_of_true rfl fun _ hnone => nomatch hnone
      · have hread : normaliseValue text (.datetime instant) =
            normaliseValue text (.str (encodedInstant clock instant)) ↔ instant % 1000000 ≠ 0 := by
          rw [normaliseValue, normaliseValue, (spaceless_encodedInstant h.seconds instant).strip]
          exact encodedInstant_eq_iff h instant
        exact hread.trans ⟨fun hne _ hinst => Option.some.inj hinst ▸ hne, fun hall => hall instant rfl⟩
  | _ => exact iff_of_true rfl trivial

end Reading

/-! ## Validating what the API answered -/

section Validating

variable {site : DeltaSite} {clock : ℤ → String} {job : JobRow} {payload : JobDeltaPayload}
  {fieldName : String} {field : JobField}

lemma getJobFieldValue_of_deltaField (h : deltaField fieldName = some field) :
    getJobFieldValue site job fieldName = .ok (columnValue field.kind (job.value field)) := by
  unfold deltaField at h
  split at h <;> first | (obtain rfl := Option.some.inj h; rfl) | cases h

/-- What the job has for a field of a delta. -/
def currentValue (job : JobRow) (fieldName : String) : PyValue :=
  (deltaField fieldName).elim .none fun field => columnValue field.kind (job.value field)

def answeredValue (text : PythonText) (clock : ℤ → String) (job : JobRow) (fieldName : String) : PyValue :=
  (deltaField fieldName).elim .none fun field => apiValue text clock field.kind (job.value field)

/-- The delta changes fields that deltas may change, and its before-values are what the API answered for
them. -/
structure FromAnswer (site : DeltaSite) (clock : ℤ → String) (job : JobRow) (payload : JobDeltaPayload) :
    Prop where
  updatable : ∀ fieldName ∈ payload.fields, (deltaField fieldName).isSome
  before : ∀ fieldName ∈ payload.fields,
    lookup? payload.before fieldName = some (answeredValue site.text clock job fieldName)
  checksum : payload.beforeChecksum =
    computeJobDeltaChecksum site.text job.id payload.before payload.fields.dedup

lemma mapM_getJobFieldValue {fields : List String} (h : ∀ name ∈ fields, (deltaField name).isSome) :
    (fields.mapM fun name => (getJobFieldValue site job name).map fun value => (name, value)) =
      .ok (fields.map fun name => (name, currentValue job name)) := by
  rw [mapM_eq_ok, List.forall₂_map_right_iff, List.forall₂_same]
  intro name hname
  obtain ⟨field, hfield⟩ := Option.isSome_iff_exists.mp (h name hname)
  rw [getJobFieldValue_of_deltaField hfield, currentValue, hfield]
  rfl

lemma lookup?_map_of_mem {fields : List String} {v : String → PyValue} (h : fieldName ∈ fields) :
    lookup? (fields.map fun name => (name, v name)) fieldName = some (v fieldName) := by
  unfold lookup?
  rw [List.find?_map]
  induction fields with
  | nil => exact absurd h List.not_mem_nil
  | cons name fields ih =>
      by_cases hname : name = fieldName
      · simp [hname]
      · have hmem : fieldName ∈ fields := (List.mem_cons.mp h).resolve_left (Ne.symm hname)
        simpa [List.find?_cons, hname] using ih hmem

lemma missingFrom_eq_nil {fields : List String} {members : List (String × PyValue)} :
    missingFrom fields members = [] ↔ ∀ name ∈ fields, (lookup? members name).isSome := by
  unfold missingFrom
  rw [List.filter_eq_nil_iff]
  refine forall₂_congr fun name _ => ?_
  rw [Bool.not_eq_true, Option.isNone_eq_false_iff]

/-- The envelope says what each field becomes. -/
def SaysAfter (payload : JobDeltaPayload) : Prop :=
  ∀ name ∈ payload.fields, (lookup? payload.after name).isSome

/-- What the validation reads of the job for the delta. -/
def telemetryOf (site : DeltaSite) (job : JobRow) (payload : JobDeltaPayload) : DeltaTelemetry :=
  let values := payload.fields.dedup.map fun name => (name, currentValue job name)
  ⟨values, computeJobDeltaChecksum site.text job.id values payload.fields.dedup⟩

lemma requireConsistent_eq_ok (h : FromAnswer site clock job payload) :
    requireConsistent site payload = .ok () ↔ SaysAfter payload := by
  have hbefore : missingFrom payload.fields.dedup payload.before = [] := by
    refine missingFrom_eq_nil.mpr fun name hname => ?_
    rw [h.before name (List.mem_dedup.mp hname)]
    rfl
  have hafter : missingFrom payload.fields.dedup payload.after = [] ↔ SaysAfter payload := by
    refine missingFrom_eq_nil.trans (forall_congr' fun name => ?_)
    rw [List.mem_dedup]
  rw [← hafter]
  unfold requireConsistent
  simp only [hbefore, ne_eq, not_true_eq_false, false_or]
  split
  · rename_i hmissing
    exact iff_of_false (fun heq => nomatch heq) hmissing
  · rename_i hnone
    exact iff_of_true rfl (not_not.mp hnone)

lemma readTelemetry_eq_ok (h : FromAnswer site clock job payload) {telemetry : DeltaTelemetry} :
    readTelemetry site job payload = .ok telemetry ↔
      SaysAfter payload ∧ telemetry = telemetryOf site job payload := by
  have hvalues : (payload.fields.dedup.mapM fun name =>
      (getJobFieldValue site job name).map fun value => (name, value)) =
        .ok (payload.fields.dedup.map fun name => (name, currentValue job name)) :=
    mapM_getJobFieldValue fun name hname => h.updatable name (List.mem_dedup.mp hname)
  unfold readTelemetry
  simp only [bind_eq_ok, hvalues, pure_eq_ok]
  constructor
  · rintro ⟨u, hconsistent, values, hread, rfl⟩
    obtain rfl := Except.ok.inj hread
    exact ⟨(requireConsistent_eq_ok h).mp hconsistent, rfl⟩
  · rintro ⟨hafter, rfl⟩
    exact ⟨(), (requireConsistent_eq_ok h).mpr hafter, _, rfl, rfl⟩

def AllReadBack (job : JobRow) (payload : JobDeltaPayload) : Prop :=
  ∀ name ∈ payload.fields, ∀ field ∈ deltaField name, ReadsBack field.kind (job.value field)

lemma normaliseValue_currentValue_iff (hdoc : AsDocumented site.text clock)
    (hfield : deltaField fieldName = some field) :
    normaliseValue site.text (currentValue job fieldName) =
        normaliseValue site.text (answeredValue site.text clock job fieldName) ↔
      ReadsBack field.kind (job.value field) := by
  unfold currentValue answeredValue
  rw [hfield]
  exact normaliseValue_apiValue_iff hdoc field.kind (job.value field)

lemma requireBefore_eq_ok (hdoc : AsDocumented site.text clock) (h : FromAnswer site clock job payload) :
    requireBefore site (telemetryOf site job payload) payload = .ok () ↔ AllReadBack job payload := by
  have hfind : payload.fields.dedup.find? (fun name =>
      ((lookup? (telemetryOf site job payload).currentValues name).map (normaliseValue site.text)) ≠
        ((lookup? payload.before name).map (normaliseValue site.text))) = none ↔
      AllReadBack job payload := by
    rw [List.find?_eq_none]
    refine forall_congr' fun name => ?_
    rw [List.mem_dedup]
    refine imp_congr_right fun hname => ?_
    obtain ⟨field, hfield⟩ := Option.isSome_iff_exists.mp (h.updatable name hname)
    have hlookup : lookup? (telemetryOf site job payload).currentValues name = some (currentValue job name) :=
      lookup?_map_of_mem (List.mem_dedup.mpr hname)
    rw [hlookup, h.before name hname, hfield, decide_eq_true_iff, not_not, Option.map_some, Option.map_some,
      Option.some_inj, normaliseValue_currentValue_iff hdoc hfield]
    exact ⟨fun hread _ heq => Option.some.inj heq ▸ hread, fun hall => hall field rfl⟩
  rw [← hfind]
  unfold requireBefore
  dsimp only
  split
  · rename_i hmismatch
    exact iff_of_false (fun heq => nomatch heq) fun hnone => by
      rw [hnone] at hmismatch
      cases hmismatch
  · rename_i hnone
    exact iff_of_true rfl hnone

lemma requireChecksum_of_readBack (hdoc : AsDocumented site.text clock)
    (h : FromAnswer site clock job payload) (hread : AllReadBack job payload) :
    requireChecksum (telemetryOf site job payload) payload = .ok () := by
  have hsame : (telemetryOf site job payload).serverChecksum = payload.beforeChecksum := by
    rw [h.checksum]
    unfold telemetryOf computeJobDeltaChecksum
    dsimp only
    congr 2
    refine List.filterMap_congr fun name hname => ?_
    have hmem : name ∈ payload.fields.dedup := (List.mem_insertionSort _).mp hname
    have hfields : name ∈ payload.fields := List.mem_dedup.mp hmem
    obtain ⟨field, hfield⟩ := Option.isSome_iff_exists.mp (h.updatable name hfields)
    rw [lookup?_map_of_mem hmem, h.before name hfields, Option.map_some, Option.map_some,
      (normaliseValue_currentValue_iff hdoc hfield).mpr (hread name hfields field hfield)]
  unfold requireChecksum
  rw [if_neg (not_not_intro hsame)]

/-- **An up-to-date delta is let through** exactly where it says what each field becomes and, unless
mismatches are let through anyway, every value reads back. -/
theorem validateDeltaPayload_iff {softFail : Bool} (hdoc : AsDocumented site.text clock)
    (h : FromAnswer site clock job payload) :
    (∃ telemetry, validateDeltaPayload site job payload softFail = .ok telemetry) ↔
      SaysAfter payload ∧ (softFail = true ∨ AllReadBack job payload) := by
  unfold validateDeltaPayload
  simp only [bind_eq_ok, readTelemetry_eq_ok h]
  cases softFail with
  | true =>
      simp only [if_true, pure_eq_ok, true_or, and_true]
      refine ⟨?_, fun hafter => ⟨_, _, ⟨hafter, rfl⟩, rfl⟩⟩
      rintro ⟨_, _, ⟨hafter, -⟩, -⟩
      exact hafter
  | false =>
      simp only [Bool.false_eq_true, if_false, bind_eq_ok, false_or]
      constructor
      · rintro ⟨_, _, ⟨hafter, rfl⟩, _, -, _, hbefore, -⟩
        exact ⟨hafter, (requireBefore_eq_ok hdoc h).mp hbefore⟩
      · rintro ⟨hafter, hread⟩
        exact ⟨_, _, ⟨hafter, rfl⟩, (), requireChecksum_of_readBack hdoc h hread, (),
          (requireBefore_eq_ok hdoc h).mpr hread, rfl⟩

end Validating

/-! ## A price cap -/

namespace CappedJob

/-- Midnight of the epoch, the one second that is read. -/
def clock (_ : ℤ) : String := "1970-01-01T00:00:00"

/-- The texts of the deltas below. -/
def text : PythonText where
  sha256 raw :=
    if raw = "00000000-0000-0000-0000-000000000001|price_cap=12.34" then
      "a14c8ed75542352eb8fd73e3495d8123b8887d2f2261e00b92bcff1941391d10"
    else if raw = "00000000-0000-0000-0000-000000000001|price_cap=12.50" then
      "f02d09a0b31aa480d7af6f43bc96dbf891c2101b7fbd8390f8de13a935608bf2"
    else "f3f00f8e41216abeda61b339445d09db0f67ac338b150013a9853e4f6b2b9036"
  sha256_ne_empty raw := by
    split
    · decide
    · split <;> decide
  str _ := ""
  repr _ := ""
  uuid _ := "00000000-0000-0000-0000-000000000001"
  dateIso _ := "1970-01-01"
  datetimeIso _ := ""
  millisecondsIso instant := clock (instant / 1000000) ++ "." ++
    String.ofList (fractionDigits 3 ((instant % 1000000).toNat / 1000)) ++ "Z"
  microsecondsIso _ := ""
  floatFixed _ := ""
  decimalFixed _ := ""
  decimalNormal q := normalText 2 (q * 100).num
  dateOf _ := none
  datetimeOf _ := none
  decimalOf _ := none
  parseEtags _ := []

def site : DeltaSite where
  text := text
  now := 1
  otherAttribute _ _ := none
  related _ _ := .ok none
  ordinaryTime := none
  refusesSave _ _ := none
  stores _ := true

lemma asDocumented : AsDocumented site.text clock where
  uuid _ := (by decide : Spaceless "00000000-0000-0000-0000-000000000001")
  date _ := (by decide : Spaceless "1970-01-01")
  seconds _ := (by decide : Spaceless "1970-01-01T00:00:00")
  milliseconds _ := rfl
  decimal _ := rfl

/-- A job with a price cap. -/
def job (cap : Column 10 2) : JobRow := (plainJob 1).set ⟨.priceCap, some cap⟩

/-- The cap as the API answered it, taken away. -/
def payload (cap : String) : JobDeltaPayload where
  changeId := 1
  fields := ["price_cap"]
  before := [("price_cap", .str cap)]
  after := [("price_cap", .none)]
  beforeChecksum := computeJobDeltaChecksum text 1 [("price_cap", .str cap)] ["price_cap"]
  fields_ne_nil := by decide

/-- A cap of 12.34. -/
def toTheCent : Column 10 2 := ⟨617 / 50, by decide +kernel⟩

/-- A cap of 12.50. -/
def onATenth : Column 10 2 := ⟨25 / 2, by decide +kernel⟩

lemma fromAnswer {cap : Column 10 2} {answer : String} (hanswer : fixedText 2 (cents cap) = answer) :
    FromAnswer site clock (job cap) (payload answer) where
  updatable name hname := by
    rw [List.mem_singleton.mp hname]
    rfl
  before name hname := by
    rw [List.mem_singleton.mp hname, ← hanswer]
    rfl
  checksum := rfl

lemma saysAfter (answer : String) : SaysAfter (payload answer) := by
  intro name hname
  rw [List.mem_singleton.mp hname]
  rfl

end CappedJob

/-- A cap to the cent is let through. -/
theorem validateDeltaPayload_cap_to_the_cent : ∃ telemetry, validateDeltaPayload CappedJob.site
    (CappedJob.job CappedJob.toTheCent) (CappedJob.payload "12.34") false = .ok telemetry := by
  refine (validateDeltaPayload_iff CappedJob.asDocumented (CappedJob.fromAnswer (by decide +kernel))).mpr
    ⟨CappedJob.saysAfter _, .inr fun name hname field hfield => ?_⟩
  rw [List.mem_singleton.mp hname] at hfield
  obtain rfl : JobField.priceCap = field := Option.some.inj hfield
  intro price hprice
  obtain rfl : CappedJob.toTheCent = price := Option.some.inj hprice
  decide +kernel

/-- **A price cap of 12.50** is answered as `12.50` and compared as `12.5`: the client that sends back what
it read is told that its data is stale. -/
theorem price_cap_on_a_tenth_is_stale :
    ¬∀ (site : DeltaSite) (clock : ℤ → String) (job : JobRow) (payload : JobDeltaPayload),
      AsDocumented site.text clock → FromAnswer site clock job payload → SaysAfter payload →
      ∃ telemetry, validateDeltaPayload site job payload false = .ok telemetry := by
  intro h
  obtain ⟨telemetry, htelemetry⟩ := h CappedJob.site CappedJob.clock (CappedJob.job CappedJob.onATenth)
    (CappedJob.payload "12.50") CappedJob.asDocumented (CappedJob.fromAnswer (by decide +kernel))
    (CappedJob.saysAfter _)
  have hrefused : (validateDeltaPayload CappedJob.site (CappedJob.job CappedJob.onATenth)
      (CappedJob.payload "12.50") false).isOk = false := by decide +kernel
  rw [htelemetry] at hrefused
  cases hrefused

end JobRecord

end Docketworks
