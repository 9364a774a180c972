import Mathlib.Data.List.Dedup
import Docketworks.Crm.PhoneBook

/-!
# Calls under the phone book

`apps/crm/services/phone_call_service.py`: whose call it is, when it is imported and again when a number
changes hands.

* `PhoneMatcher` — the phone book as an import or a rematch reads it, whole or for some numbers.
* `PhoneMatcher.classify` — direction, numbers, endpoints, company and person of a call.
* `upsertCallRecord`, `rematchCallsForNumbers` — the two writers of a classification.
* `linkPhoneCallToJob`, `unlinkPhoneCallJob` — a call on a job.
* `rematch_rematch` — a rematch again changes nothing.

**Design.**  A matcher is read once and used for a whole import, so it is a value of its own.  What else
the provider says of a call (times, status, charge, recording) is left out.
-/

namespace Docketworks.Crm

open Library

/-! ## The index -/

/-- What a number is found under: `(kind, object_id, company_id)`. -/
abbrev PhoneMatch := Owner × ℕ

namespace Book

variable (b : Book)

/-- What the numbers of an owner are found under. -/
def matchesOf : Owner → List PhoneMatch
  | .person id =>
      if (b.people.find? id).any Person.isActive then
        (b.companiesOf id).map fun company => (.person id, company)
      else []
  | .company id =>
      if (b.companies.find? id).any Company.allowJobs then [(.company id, id)] else []

/-- `_build_contact_method_phone_index`: the phone methods of all numbers, or of these. -/
def phoneIndex (numbers : Option (List String)) (number : String) : List PhoneMatch :=
  if number = "" ∨ (b.activeEndpoint number).isSome then []
  else (b.contactMethods.rows.filter fun method =>
      method.dials number && numbers.all (method.normalizedValue ∈ ·)).flatMap fun method =>
    b.matchesOf method.owner

end Book

/-- The phone book as it was read. -/
structure PhoneMatcher where
  phoneMatches : String → List PhoneMatch
  endpoints : String → Option ℕ

/-- `PhoneMatcher(numbers)`. -/
def Book.phoneMatcher (b : Book) (numbers : Option (List String)) : PhoneMatcher where
  phoneMatches := b.phoneIndex numbers
  endpoints := fun number => (b.activeEndpoint number).map PhoneEndpoint.id

/-! ## Classification -/

/-- `normalize_phone` of this service: no number is `None`. -/
def normalizePhone (value : Option String) : Option String :=
  (value.map ContactMethod.normalizePhone).filter (· ≠ "")

/-- The item of a list of one. -/
def only {α : Type} : List α → Option α
  | [a] => some a
  | _ => none

namespace PhoneMatcher

variable (matcher : PhoneMatcher)

/-- `match_customer`: the one company the numbers are found under, and the person where nothing else is. -/
def matchCustomer (values : List (Option String)) : Option ℕ × Option ℕ :=
  let found := ((values.filterMap normalizePhone).flatMap matcher.phoneMatches).dedup
  match only (found.map Prod.snd).dedup with
  | none => (none, none)
  | some company =>
    match only found with
    | some (.person person, _) => (some company, some person)
    | _ => (some company, none)

def classify (origin destination : Option String) : CallClassification :=
  let normalizedOrigin := normalizePhone origin
  let normalizedDestination := normalizePhone destination
  match normalizedOrigin.bind matcher.endpoints, normalizedDestination.bind matcher.endpoints with
  | some originEndpoint, some destinationEndpoint =>
      { direction := .internal, ourNumber := normalizedOrigin, externalNumber := none
        originEndpoint := some originEndpoint, destinationEndpoint := some destinationEndpoint
        company := none, person := none }
  | some originEndpoint, none =>
      let customer := matcher.matchCustomer [normalizedDestination]
      { direction := .outbound, ourNumber := normalizedOrigin, externalNumber := normalizedDestination
        originEndpoint := some originEndpoint, destinationEndpoint := none
        company := customer.1, person := customer.2 }
  | none, some destinationEndpoint =>
      let customer := matcher.matchCustomer [normalizedOrigin]
      { direction := .inbound, ourNumber := normalizedDestination, externalNumber := normalizedOrigin
        originEndpoint := none, destinationEndpoint := some destinationEndpoint
        company := customer.1, person := customer.2 }
  | none, none =>
      let customer := matcher.matchCustomer [normalizedOrigin, normalizedDestination]
      { direction := .unknown, ourNumber := none
        -- zero or two candidates is not a strict assignable number
        externalNumber :=
          match normalizedOrigin, normalizedDestination with
          | some origin, none => some origin
          | none, some destination => some destination
          | _, _ => none
        originEndpoint := none, destinationEndpoint := none
        company := customer.1, person := customer.2 }

end PhoneMatcher

/-! ## Imports -/

/-- A row of the provider's feed, with the id `_provider_call_id` reads off it. -/
structure CallPayload where
  providerCallId : String
  dated : Bool
  origin : Option String
  destination : Option String
deriving DecidableEq, Repr

/-- `is_call_payload`: billing lines have no parties. -/
def isCallPayload (payload : CallPayload) : Bool :=
  payload.dated && ((normalizePhone payload.origin).isSome || (normalizePhone payload.destination).isSome)

/-- The rows a classification refers to are there. -/
def Book.refersTo (b : Book) (classification : CallClassification) : Bool :=
  classification.company.all (fun id => (b.companies.find? id).isSome) &&
    classification.person.all (fun id => (b.people.find? id).isSome) &&
    classification.originEndpoint.all (fun id => (b.phoneEndpoints.find? id).isSome) &&
    classification.destinationEndpoint.all (fun id => (b.phoneEndpoints.find? id).isSome)

def upsertCallRecord (payload : CallPayload) (matcher : PhoneMatcher) : BookCall Unit := do
  let origin := normalizePhone payload.origin
  let destination := normalizePhone payload.destination
  let classification := matcher.classify origin destination
  let b ← .read id
  .require (b.refersTo classification) (.doesNotExist "Company")
  match b.phoneCalls.find? payload.providerCallId with
  | none =>
      let call : PhoneCallRecord :=
        { classification with providerCallId := payload.providerCallId, origin, destination, job := none }
      .write fun b => { b with phoneCalls := b.phoneCalls.upsert call }
  | some call =>
      let call : PhoneCallRecord := { classification with
        providerCallId := call.providerCallId, origin, destination, job := call.job }
      .write fun b => { b with phoneCalls := b.phoneCalls.put call }

/-! ## Rematches -/

namespace PhoneCallRecord

/-- The columns `normalized_origin` and `normalized_destination`, those that are not null. -/
def parties (call : PhoneCallRecord) : List String :=
  [call.origin, call.destination].filterMap normalizePhone

/-- The call is from or to one of these numbers. -/
def touches (numbers : List String) (call : PhoneCallRecord) : Bool :=
  call.parties.any (· ∈ numbers)

end PhoneCallRecord

/-- A call reclassified: a job of another company is taken off it. -/
def rematched (jobs : Table Job.id) (matcher : PhoneMatcher) (call : PhoneCallRecord) : PhoneCallRecord :=
  let classification := matcher.classify call.origin call.destination
  if call.toCallClassification = classification then call
  else { classification with
    providerCallId := call.providerCallId, origin := call.origin, destination := call.destination
    job := call.job.filter fun job => (jobs.find? job).bind Job.company = classification.company }

lemma providerCallId_rematched {jobs : Table Job.id} {matcher : PhoneMatcher} (call : PhoneCallRecord) :
    (rematched jobs matcher call).providerCallId = call.providerCallId := by
  unfold rematched
  dsimp only
  split <;> rfl

/-- The calls a rematch reads. -/
def Book.callsTouching (b : Book) (numbers : List String) : List PhoneCallRecord :=
  b.phoneCalls.rows.filter fun call => call.touches numbers

/-- The matcher of a rematch: the parties of its calls, and nothing beyond. -/
def Book.rematcher (b : Book) (numbers : List String) : PhoneMatcher :=
  b.phoneMatcher (some ((b.callsTouching numbers).flatMap PhoneCallRecord.parties))

/-- The numbers a rematch looks for. -/
def soughtNumbers (numbers : List String) : List String :=
  (numbers.map some).filterMap normalizePhone

/-- What a rematch makes of a call. -/
def Book.rematchOne (b : Book) (numbers : List String) (call : PhoneCallRecord) : PhoneCallRecord :=
  if call.touches (soughtNumbers numbers) then rematched b.jobs (b.rematcher (soughtNumbers numbers)) call
  else call

lemma providerCallId_rematchOne {b : Book} {numbers : List String} (call : PhoneCallRecord) :
    (b.rematchOne numbers call).providerCallId = call.providerCallId := by
  unfold Book.rematchOne
  split
  · exact providerCallId_rematched call
  · rfl

def rematchCallsForNumbers (numbers : List String) (b : Book) : Book :=
  { b with phoneCalls := b.phoneCalls.modify (b.rematchOne numbers) providerCallId_rematchOne }

/-! ## Calls on jobs -/

def linkPhoneCallToJob (callId : String) (jobId : ℕ) : BookCall Unit := do
  let b ← .read id
  let call ← .orRefuse (b.phoneCalls.find? callId) (.value "Phone call not found")
  .require call.company.isSome
    (.value "Phone call must be assigned to a company before linking a job")
  let job ← .orRefuse (b.jobs.find? jobId) (.value "Job not found")
  .require (job.company = call.company)
    (.value "Phone call can only be linked to a job for the same company")
  .write fun b => { b with phoneCalls := b.phoneCalls.put { call with job := some job.id } }

def unlinkPhoneCallJob (callId : String) : BookCall Unit := do
  let call ← .read (·.phoneCalls.find? callId)
  let call ← .orRefuse call (.value "Phone call not found")
  .write fun b => { b with phoneCalls := b.phoneCalls.put { call with job := none } }

/-! ## A rematch classifies as an import would -/

/-- What importing the call afresh would classify it as. -/
def Book.freshClassification (b : Book) (call : PhoneCallRecord) : CallClassification :=
  (b.phoneMatcher none).classify (normalizePhone call.origin) (normalizePhone call.destination)

/-- The call is classified as it would be now. -/
def Book.Fresh (b : Book) (call : PhoneCallRecord) : Prop :=
  call.toCallClassification = b.freshClassification call

instance (b : Book) (call : PhoneCallRecord) : Decidable (b.Fresh call) :=
  inferInstanceAs (Decidable (_ = _))

lemma normalizePhone_eq_some {value : Option String} {number : String}
    (h : normalizePhone value = some number) : ContactMethod.normalizePhone number = number := by
  obtain ⟨hnumber, -⟩ := Option.filter_eq_some_iff.mp h
  obtain ⟨text, -, rfl⟩ := Option.map_eq_some_iff.mp hnumber
  exact normalizePhone_idem text

lemma normalizePhone_normalizePhone (value : Option String) :
    normalizePhone (normalizePhone value) = normalizePhone value := by
  cases hvalue : normalizePhone value with
  | none => rfl
  | some number =>
      have hne : number ≠ "" := by simpa using (Option.filter_eq_some_iff.mp hvalue).2
      unfold normalizePhone
      rw [Option.map_some, normalizePhone_eq_some hvalue, Option.filter_some, if_pos (by simpa using hne)]

lemma only_congr {α : Type} {as bs : List α} (h : as.Perm bs) : only as = only bs := by
  match as, bs with
  | [], bs => rw [h.nil_eq]
  | [a], bs => rw [h.singleton_eq]
  | _ :: _ :: _, [] => exact absurd h.length_eq (by simp)
  | _ :: _ :: _, [b] => exact absurd h.length_eq (by simp)
  | _ :: _ :: _, _ :: _ :: _ => rfl

/-- Two matchers find the same at these numbers. -/
def PhoneMatcher.AgreesAt (matcher matcher' : PhoneMatcher) (number : String) : Prop :=
  (∀ found, found ∈ matcher.phoneMatches number ↔ found ∈ matcher'.phoneMatches number) ∧
    matcher.endpoints number = matcher'.endpoints number

section Agree

variable {matcher matcher' : PhoneMatcher}

lemma matchCustomer_congr {values : List (Option String)}
    (h : ∀ number ∈ values.filterMap normalizePhone, matcher.AgreesAt matcher' number) :
    matcher.matchCustomer values = matcher'.matchCustomer values := by
  have hmem : ∀ found, found ∈ (values.filterMap normalizePhone).flatMap matcher.phoneMatches ↔
      found ∈ (values.filterMap normalizePhone).flatMap matcher'.phoneMatches := fun found => by
    rw [List.mem_flatMap, List.mem_flatMap]
    exact exists_congr fun number => and_congr_right fun hnumber => (h number hnumber).1 found
  have hperm : ((values.filterMap normalizePhone).flatMap matcher.phoneMatches).dedup.Perm
      ((values.filterMap normalizePhone).flatMap matcher'.phoneMatches).dedup :=
    (List.perm_ext_iff_of_nodup (List.nodup_dedup _) (List.nodup_dedup _)).mpr fun found => by
      rw [List.mem_dedup, List.mem_dedup, hmem]
  unfold PhoneMatcher.matchCustomer
  simp only
  rw [only_congr hperm, only_congr (hperm.map Prod.snd).dedup]

lemma classify_congr {origin destination : Option String}
    (h : ∀ number ∈ [origin, destination].filterMap normalizePhone, matcher.AgreesAt matcher' number) :
    matcher.classify origin destination = matcher'.classify origin destination := by
  have hof : ∀ value ∈ [origin, destination], ∀ number, normalizePhone value = some number →
      matcher.AgreesAt matcher' number := fun value hvalue number hnumber =>
    h number (List.mem_filterMap.mpr ⟨value, hvalue, hnumber⟩)
  have hendpoint : ∀ value ∈ [origin, destination],
      (normalizePhone value).bind matcher.endpoints = (normalizePhone value).bind matcher'.endpoints := by
    intro value hvalue
    cases hnumber : normalizePhone value with
    | none => rfl
    | some number => exact (hof value hvalue number hnumber).2
  have hcustomer : ∀ values : List (Option String), (∀ value ∈ values, value ∈ [origin, destination]) →
      matcher.matchCustomer (values.map normalizePhone) =
        matcher'.matchCustomer (values.map normalizePhone) := by
    intro values hvalues
    refine matchCustomer_congr fun number hnumber => ?_
    obtain ⟨_, hmem, hread⟩ := List.mem_filterMap.mp hnumber
    obtain ⟨value, hvalue, rfl⟩ := List.mem_map.mp hmem
    rw [normalizePhone_normalizePhone] at hread
    exact hof value (hvalues value hvalue) number hread
  have horigin := hcustomer [origin] (by simp)
  have hdestination := hcustomer [destination] (by simp)
  have hboth := hcustomer [origin, destination] fun _ h => h
  simp only [List.map_cons, List.map_nil] at horigin hdestination hboth
  unfold PhoneMatcher.classify
  simp only [hendpoint origin (by simp), hendpoint destination (by simp), horigin, hdestination, hboth]

lemma classify_normalizePhone (matcher : PhoneMatcher) (origin destination : Option String) :
    matcher.classify (normalizePhone origin) (normalizePhone destination) =
      matcher.classify origin destination := by
  unfold PhoneMatcher.classify
  rw [normalizePhone_normalizePhone, normalizePhone_normalizePhone]

end Agree

variable {b : Book} {numbers : List String} {number : String} {call : PhoneCallRecord}

lemma phoneIndex_some (h : number ∈ numbers) :
    b.phoneIndex (some numbers) number = b.phoneIndex none number := by
  unfold Book.phoneIndex
  have hrows : (b.contactMethods.rows.filter fun method =>
      method.dials number && (some numbers).all (method.normalizedValue ∈ ·)) =
      b.contactMethods.rows.filter fun method =>
        method.dials number && (none : Option (List String)).all (method.normalizedValue ∈ ·) := by
    refine List.filter_congr fun method _ => ?_
    cases hdials : method.dials number with
    | false => rfl
    | true =>
        obtain ⟨-, hvalue⟩ := Bool.and_eq_true_iff.mp hdials
        simpa [of_decide_eq_true hvalue] using h
  rw [hrows]

/-- **The restricted index.**  A rematch's matcher classifies its calls as the whole phone book would. -/
lemma classify_rematcher (hcall : call ∈ b.phoneCalls.rows) (h : call.touches numbers = true) :
    (b.rematcher numbers).classify call.origin call.destination = b.freshClassification call := by
  unfold Book.freshClassification
  rw [classify_normalizePhone]
  refine classify_congr fun number hnumber => ⟨fun found => ?_, rfl⟩
  have hrelevant : number ∈ (b.callsTouching numbers).flatMap PhoneCallRecord.parties :=
    List.mem_flatMap.mpr ⟨call, List.mem_filter.mpr ⟨hcall, h⟩, hnumber⟩
  exact iff_of_eq (congrArg (found ∈ ·) (phoneIndex_some hrelevant))

@[simp] lemma origin_rematched {jobs : Table Job.id} {matcher : PhoneMatcher} :
    (rematched jobs matcher call).origin = call.origin := by
  unfold rematched
  dsimp only
  split <;> rfl

@[simp] lemma destination_rematched {jobs : Table Job.id} {matcher : PhoneMatcher} :
    (rematched jobs matcher call).destination = call.destination := by
  unfold rematched
  dsimp only
  split <;> rfl

lemma classification_rematched {jobs : Table Job.id} {matcher : PhoneMatcher} :
    (rematched jobs matcher call).toCallClassification =
      matcher.classify call.origin call.destination := by
  unfold rematched
  dsimp only
  split
  · assumption
  · rfl

lemma touches_congr {call' : PhoneCallRecord} (horigin : call'.origin = call.origin)
    (hdestination : call'.destination = call.destination) :
    call'.touches numbers = call.touches numbers := by
  unfold PhoneCallRecord.touches PhoneCallRecord.parties
  rw [horigin, hdestination]

lemma freshClassification_congr {call' : PhoneCallRecord} (horigin : call'.origin = call.origin)
    (hdestination : call'.destination = call.destination) :
    b.freshClassification call' = b.freshClassification call := by
  unfold Book.freshClassification
  rw [horigin, hdestination]

lemma rows_rematch : (rematchCallsForNumbers numbers b).phoneCalls.rows =
    b.phoneCalls.rows.map (b.rematchOne numbers) := rfl

@[simp] lemma parties_rematchOne : (b.rematchOne numbers call).origin = call.origin ∧
    (b.rematchOne numbers call).destination = call.destination := by
  unfold Book.rematchOne
  split
  · exact ⟨origin_rematched, destination_rematched⟩
  · exact ⟨rfl, rfl⟩

/-- **Rematching classifies.** -/
lemma fresh_rematchOne (hcall : call ∈ b.phoneCalls.rows)
    (h : call.touches (soughtNumbers numbers) = true) :
    (rematchCallsForNumbers numbers b).Fresh (b.rematchOne numbers call) := by
  unfold Book.Fresh
  rw [freshClassification_congr parties_rematchOne.1 parties_rematchOne.2]
  unfold Book.rematchOne
  rw [if_pos h, classification_rematched, classify_rematcher hcall h]
  rfl

lemma rematchOne_of_not_touches (h : ¬call.touches (soughtNumbers numbers) = true) :
    b.rematchOne numbers call = call := if_neg h

lemma rematchOne_of_fresh (hcall : call ∈ b.phoneCalls.rows) (h : b.Fresh call) :
    b.rematchOne numbers call = call := by
  unfold Book.rematchOne
  split
  · rename_i htouches
    unfold rematched
    rw [classify_rematcher hcall htouches]
    exact if_pos h
  · rfl

lemma rematch_rematch (numbers : List String) (b : Book) :
    rematchCallsForNumbers numbers (rematchCallsForNumbers numbers b) =
      rematchCallsForNumbers numbers b := by
  have hsame : ∀ call' ∈ (rematchCallsForNumbers numbers b).phoneCalls.rows,
      (rematchCallsForNumbers numbers b).rematchOne numbers call' = call' := by
    intro call' hcall'
    rw [rows_rematch] at hcall'
    obtain ⟨call, hcall, rfl⟩ := List.mem_map.mp hcall'
    by_cases htouches : call.touches (soughtNumbers numbers) = true
    · exact rematchOne_of_fresh (rows_rematch ▸ List.mem_map_of_mem hcall)
        (fresh_rematchOne hcall htouches)
    · apply rematchOne_of_not_touches
      rw [touches_congr parties_rematchOne.1 parties_rematchOne.2]
      exact htouches
  exact congrArg (fun calls => { rematchCallsForNumbers numbers b with phoneCalls := calls })
    (Table.modify_eq_self hsame)

end Docketworks.Crm
