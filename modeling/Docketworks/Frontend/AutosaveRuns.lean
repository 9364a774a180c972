import Docketworks.Frontend.JobAutosave

/-!
# The user's latest value

What the autosave and Retry of an open job write, and what the server holds when they have come to rest
(`frontend/src/features/job/useJobAutosave.ts`, `useJobFieldSave.ts`).

* `OpenJob.waiting` — the values of a field not yet begun to be saved, in the order they were entered.
* `OpenJob.Kept` — what holds of a field: one save of it at a time, the newest value last, and a baseline
  that is the server's.
* `RetriesWhatStands` — Retry sends what is still entered, and its fields are left alone until it is answered.
* `autosave_keeps_the_latest_value` — what is on its way is the latest value or is followed by it, and a form
  at rest has its values on the server.
* `replaced_values_are_written` — a value replaced while it is saved is written; Retry writes a value taken
  back.
-/

namespace Docketworks.Frontend

open Library

variable {softFail : Bool} {page page' : OpenJob} {field : JobEditableField} {value : FieldValue}

/-! ## Reading the delta contract -/

lemma changes_of_changed {baseline : JobSnapshot} {changes : JobFieldValues}
    (h : changedFieldsOnly baseline changes field = some value) : changes field = some value :=
  (Option.filter_eq_some_iff.mp h).1

lemma eq_baseline_of_not_changed {baseline : JobSnapshot} {changes : JobFieldValues}
    (h : changedFieldsOnly baseline changes field = none) (hvalue : changes field = some value) :
    value = baseline field := by
  by_contra hne
  have hchanged : changedFieldsOnly baseline changes field = some value :=
    Option.filter_eq_some_iff.mpr ⟨hvalue, decide_eq_true hne⟩
  rw [h] at hchanged
  cases hchanged

lemma none_of_isEmpty {values : JobFieldValues} (h : values.isEmpty = true) : values field = none :=
  Option.isNone_iff_eq_none.mp (List.all_eq_true.mp h field field.mem_all)

/-! ## The invariant -/

namespace OpenJob

/-- The values of the field that wait, in the order they were entered. -/
def waiting (page : OpenJob) (field : JobEditableField) : List FieldValue :=
  page.queue.filterMap (fun batch => batch field) ++ (page.pending field).toList

/-- Nothing of the field has failed, and nobody else has written it. -/
def Trusted (page : OpenJob) (field : JobEditableField) : Prop :=
  page.lastFailed field = false ∧ page.byOthers field = false

/-- The saves of a field: one at a time, and the newest value last. -/
structure Lined (page : OpenJob) (field : JobEditableField) : Prop where
  after_changes : ∀ request ∈ page.requests.rows, ∀ value,
    request.envelope.after field = some value → request.changes field = some value
  alone : ∀ request ∈ page.requests.rows, ∀ other ∈ page.requests.rows,
    (request.changes field).isSome → (other.changes field).isSome → request.id = other.id
  last_waiting : ∀ value, (page.waiting field).getLast? = some value → page.entered field = some value
  last_carried : page.waiting field = [] → ∀ request ∈ page.requests.rows, ∀ value,
    request.changes field = some value → page.entered field = some value
  retried : ∀ request ∈ page.requests.rows, request.chained = false →
    (request.changes field).isSome → page.waiting field = []

/-- What holds of a field of an open job. -/
structure Kept (page : OpenJob) (field : JobEditableField) : Prop extends Lined page field where
  saved : ∀ request ∈ page.requests.rows, ∀ version, request.stage = .saved version → ∀ value,
    request.envelope.after field = some value → page.byOthers field = false → page.server field = value
  unchanged : ∀ request ∈ page.requests.rows, request.envelope.after field = none → ∀ value,
    request.changes field = some value → page.Trusted field → page.server field = value
  settled : page.Trusted field → page.waiting field = [] →
    (∀ request ∈ page.requests.rows, request.changes field = none) → ∀ value,
      page.entered field = some value → page.server field = value
  baseline : page.Trusted field → (∀ request ∈ page.requests.rows, ∀ version,
    request.stage = .saved version → request.envelope.after field = none) →
      page.server field = page.baseline field

/-! ## Nothing of the field moves -/

lemma Lined.congr (h : page.Lined field) (hentered : page'.entered field = page.entered field)
    (hwaiting : page'.waiting field = page.waiting field) (hrequests : page'.requests = page.requests) :
    page'.Lined field where
  after_changes := by
    rw [hrequests]
    exact h.after_changes
  alone := by
    rw [hrequests]
    exact h.alone
  last_waiting := by
    rw [hwaiting, hentered]
    exact h.last_waiting
  last_carried := by
    rw [hwaiting, hentered, hrequests]
    exact h.last_carried
  retried := by
    rw [hwaiting, hrequests]
    exact h.retried

lemma Kept.congr (h : page.Kept field) (hentered : page'.entered field = page.entered field)
    (hwaiting : page'.waiting field = page.waiting field)
    (hbaseline : page'.baseline field = page.baseline field)
    (hserver : page'.server field = page.server field)
    (hfailed : page'.lastFailed field = page.lastFailed field)
    (hothers : page'.byOthers field = page.byOthers field) (hrequests : page'.requests = page.requests) :
    page'.Kept field := by
  have htrusted : page'.Trusted field ↔ page.Trusted field := by rw [Trusted, Trusted, hfailed, hothers]
  refine ⟨h.toLined.congr hentered hwaiting hrequests, ?_, ?_, ?_, ?_⟩
  · rw [hserver, hothers, hrequests]
    exact h.saved
  · rw [hserver, htrusted, hrequests]
    exact h.unchanged
  · rw [hserver, htrusted, hwaiting, hentered, hrequests]
    exact h.settled
  · rw [hserver, htrusted, hbaseline, hrequests]
    exact h.baseline

lemma opened_kept {cached server : JobSnapshot} {etag version : ℕ} :
    (opened cached server etag version).Kept field where
  after_changes := by simp [opened]
  alone := by simp [opened]
  last_waiting := by simp [opened, waiting, JobFieldValues.none]
  last_carried := by simp [opened]
  retried := by simp [opened]
  saved := by simp [opened]
  unchanged := by simp [opened]
  settled := by simp [opened, JobFieldValues.none]
  baseline htrusted _ := by simpa [Trusted, opened] using htrusted

/-! ## A request moves on -/

section Requests

variable {request : SaveRequest} {stage : SaveStage}

lemma mem_advance {other : SaveRequest} (h : other ∈ (page.advance request stage).requests.rows) :
    (other ∈ page.requests.rows ∧ other.id ≠ request.id) ∨ other = { request with stage } := by
  rcases Table.mem_put.mp h with hother | ⟨hself, -⟩
  · exact .inl hother
  · exact .inr hself

lemma advanced_mem (hrequest : request ∈ page.requests.rows) :
    { request with stage } ∈ (page.advance request stage).requests.rows := by
  refine Table.mem_put.mpr (.inr ⟨rfl, ?_⟩)
  exact Option.isSome_iff_exists.mpr ⟨request, Table.find?_of_mem hrequest⟩

lemma other_mem_advance {other : SaveRequest} (hother : other ∈ page.requests.rows)
    (hne : other.id ≠ request.id) : other ∈ (page.advance request stage).requests.rows :=
  Table.mem_put.mpr (.inl ⟨hother, hne⟩)

lemma forall_advance {P : SaveRequest → Prop} (hrequest : request ∈ page.requests.rows)
    (hP : ∀ other, P other → P { other with stage }) (h : ∀ other ∈ page.requests.rows, P other) :
    ∀ other ∈ (page.advance request stage).requests.rows, P other := by
  intro other hother
  rcases mem_advance hother with ⟨hmem, -⟩ | rfl
  · exact h other hmem
  · exact hP request (h request hrequest)

lemma uncarried_of_advance (hrequest : request ∈ page.requests.rows)
    (h : ∀ other ∈ (page.advance request stage).requests.rows, other.changes field = none) :
    ∀ other ∈ page.requests.rows, other.changes field = none := by
  intro other hother
  by_cases hid : other.id = request.id
  · obtain rfl := Table.eq_of_key_eq hother hrequest hid
    exact h { other with stage } (advanced_mem hother)
  · exact h other (other_mem_advance hother hid)

lemma Lined.advance (h : page.Lined field) (hrequest : request ∈ page.requests.rows) :
    (page.advance request stage).Lined field where
  after_changes := forall_advance hrequest (fun _ hother => hother) h.after_changes
  alone := forall_advance hrequest (fun _ hother => hother) fun other hother =>
    forall_advance hrequest (fun _ hother => hother) (h.alone other hother)
  last_waiting := h.last_waiting
  last_carried hwaiting := forall_advance hrequest (fun _ hother => hother) (h.last_carried hwaiting)
  retried := forall_advance hrequest (fun _ hother => hother) h.retried

lemma Kept.advance (h : page.Kept field) (hrequest : request ∈ page.requests.rows)
    (hbefore : ∀ version, request.stage ≠ .saved version) (hstage : ∀ version, stage ≠ .saved version) :
    (page.advance request stage).Kept field where
  toLined := h.toLined.advance hrequest
  saved other hother := by
    rcases mem_advance hother with ⟨hmem, -⟩ | rfl
    · exact h.saved other hmem
    · exact fun version hsaved => absurd hsaved (hstage version)
  unchanged := forall_advance hrequest (fun _ hother => hother) h.unchanged
  settled htrusted hwaiting hnone := h.settled htrusted hwaiting (uncarried_of_advance hrequest hnone)
  baseline htrusted hnone := by
    refine h.baseline htrusted fun other hother version hsaved => ?_
    by_cases hid : other.id = request.id
    · obtain rfl := Table.eq_of_key_eq hother hrequest hid
      exact absurd hsaved (hbefore version)
    · exact hnone other (other_mem_advance hother hid) version hsaved

lemma Kept.take (h : page.Kept field) (hrequest : request ∈ page.requests.rows)
    (hbefore : ∀ version, request.stage ≠ .saved version) : (page.take request).Kept field := by
  have hlined : (page.take request).Lined field :=
    (h.toLined.advance hrequest).congr rfl rfl rfl
  cases hafter : request.envelope.after field with
  | none =>
      -- the field is not written
      have hserver : (page.take request).server field = page.server field := by
        change request.envelope.after.ontoSnapshot page.server field = page.server field
        rw [JobFieldValues.ontoSnapshot, hafter, Option.getD_none]
      have hothers : (page.take request).byOthers field = page.byOthers field := by
        change (page.byOthers field && (request.envelope.after field).isNone) = page.byOthers field
        rw [hafter, Option.isNone_none, Bool.and_true]
      have htrusted : (page.take request).Trusted field ↔ page.Trusted field := by
        rw [Trusted, Trusted, hothers]
        exact Iff.rfl
      refine ⟨hlined, fun other hother => ?_, ?_, fun htrust hwaiting hnone => ?_, fun htrust hnone => ?_⟩
      · rw [hserver, hothers]
        rcases mem_advance hother with ⟨hmem, -⟩ | rfl
        · exact h.saved other hmem
        · exact fun version _ value hvalue => absurd (hafter.symm.trans hvalue) (by simp)
      · rw [hserver, htrusted]
        exact forall_advance hrequest (fun _ hother => hother) h.unchanged
      · rw [hserver]
        exact h.settled (htrusted.mp htrust) hwaiting (uncarried_of_advance hrequest hnone)
      · rw [hserver]
        refine h.baseline (htrusted.mp htrust) fun other hother version hsaved => ?_
        by_cases hid : other.id = request.id
        · obtain rfl := Table.eq_of_key_eq hother hrequest hid
          exact hafter
        · exact hnone other (other_mem_advance hother hid) version hsaved
  | some value =>
      -- the field is written, and no other request carries it
      have hchanges : (request.changes field).isSome :=
        Option.isSome_iff_exists.mpr ⟨value, h.after_changes request hrequest value hafter⟩
      have hself := @advanced_mem page request (.saved (page.version + 1)) hrequest
      refine ⟨hlined, fun other hother version hsaved written hwritten _ => ?_,
        fun other hother hnone written hwritten => ?_, fun _ _ hnone => ?_, fun _ hnone => ?_⟩
      · rcases mem_advance hother with ⟨hmem, hne⟩ | rfl
        · refine absurd (h.alone other hmem request hrequest ?_ hchanges) hne
          exact Option.isSome_iff_exists.mpr ⟨written, h.after_changes other hmem written hwritten⟩
        · change request.envelope.after.ontoSnapshot page.server field = written
          rw [JobFieldValues.ontoSnapshot, hwritten, Option.getD_some]
      · rcases mem_advance hother with ⟨hmem, hne⟩ | rfl
        · exact absurd (h.alone other hmem request hrequest
            (Option.isSome_iff_exists.mpr ⟨written, hwritten⟩) hchanges) hne
        · exact absurd (hafter.symm.trans hnone) (by simp)
      · have hnot : request.changes field = none := hnone { request with stage := .saved (page.version + 1) } hself
        rw [hnot] at hchanges
        cases hchanges
      · have hnot : request.envelope.after field = none :=
          hnone { request with stage := .saved (page.version + 1) } hself _ rfl
        exact absurd (hafter.symm.trans hnot) (by simp)

/-! ## A request is answered -/

lemma Lined.erase (h : page.Lined field) (hentered : page'.entered = page.entered)
    (hwaiting : page'.waiting field = page.waiting field)
    (hrequests : page'.requests = page.requests.erase request.id) : page'.Lined field := by
  have hmem : ∀ other ∈ page'.requests.rows, other ∈ page.requests.rows := fun other hother => by
    rw [hrequests] at hother
    exact (Table.mem_erase.mp hother).1
  exact {
    after_changes := fun other hother => h.after_changes other (hmem other hother)
    alone := fun other hother another hanother =>
      h.alone other (hmem other hother) another (hmem another hanother)
    last_waiting := by
      rw [hwaiting, hentered]
      exact h.last_waiting
    last_carried := by
      rw [hwaiting, hentered]
      exact fun hnone other hother => h.last_carried hnone other (hmem other hother)
    retried := by
      rw [hwaiting]
      exact fun other hother => h.retried other (hmem other hother) }

lemma forall_of_erase {P : SaveRequest → Prop} (hrequest : request ∈ page.requests.rows) (hself : P request)
    (h : ∀ other ∈ (page.requests.erase request.id).rows, P other) : ∀ other ∈ page.requests.rows, P other := by
  intro other hother
  by_cases hid : other.id = request.id
  · exact Table.eq_of_key_eq hother hrequest hid ▸ hself
  · exact h other (Table.mem_erase.mpr ⟨hother, hid⟩)

lemma Lined.after_eq_none (h : page.Lined field) (hrequest : request ∈ page.requests.rows)
    (hchanges : request.changes field = none) : request.envelope.after field = none := by
  cases hafter : request.envelope.after field with
  | none => rfl
  | some value => exact absurd ((h.after_changes request hrequest value hafter).symm.trans hchanges) (by simp)

lemma Kept.fail (h : page.Kept field) (hrequest : request ∈ page.requests.rows) :
    (page.fail request).Kept field := by
  have htrusted (htrust : (page.fail request).Trusted field) :
      page.Trusted field ∧ request.envelope.after field = none := by
    obtain ⟨hfailed, hothers⟩ := htrust
    obtain ⟨hfailed, hafter⟩ := Bool.or_eq_false_iff.mp hfailed
    exact ⟨⟨hfailed, hothers⟩, Option.not_isSome_iff_eq_none.mp (Bool.eq_false_iff.mp hafter)⟩
  refine ⟨h.toLined.erase rfl rfl rfl, fun other hother => ?_, fun other hother hnone value hvalue htrust => ?_,
    fun htrust hwaiting hnone value hvalue => ?_, fun htrust hnone => ?_⟩
  · exact h.saved other (Table.mem_erase.mp hother).1
  · exact h.unchanged other (Table.mem_erase.mp hother).1 hnone value hvalue (htrusted htrust).1
  · obtain ⟨htrust, hafter⟩ := htrusted htrust
    cases hchanges : request.changes field with
    | none => exact h.settled htrust hwaiting (forall_of_erase hrequest hchanges hnone) value hvalue
    | some carried =>
        have hentered := h.last_carried hwaiting request hrequest carried hchanges
        obtain rfl : value = carried := Option.some.inj (hvalue.symm.trans hentered)
        exact h.unchanged request hrequest hafter value hchanges htrust
  · obtain ⟨htrust, hafter⟩ := htrusted htrust
    exact h.baseline htrust (forall_of_erase (P := fun other => ∀ version, other.stage = .saved version →
      other.envelope.after field = none) hrequest (fun _ _ => hafter) hnone)

lemma Kept.succeed {version : ℕ} (h : page.Kept field) (hrequest : request ∈ page.requests.rows)
    (hsaved : request.stage = .saved version) : (page.succeed request version).Kept field := by
  have htrusted (htrust : (page.succeed request version).Trusted field)
      (hafter : request.envelope.after field = none) : page.Trusted field := by
    obtain ⟨hfailed, hothers⟩ := htrust
    change (page.lastFailed field && (request.envelope.after field).isNone) = false at hfailed
    rw [hafter, Option.isNone_none, Bool.and_true] at hfailed
    exact ⟨hfailed, hothers⟩
  -- the server has what the save carried, written or not
  have hcarried (htrust : (page.succeed request version).Trusted field) {value : FieldValue}
      (hchanges : request.changes field = some value) : page.server field = value := by
    cases hafter : request.envelope.after field with
    | none => exact h.unchanged request hrequest hafter value hchanges (htrusted htrust hafter)
    | some written =>
        have hwritten := h.after_changes request hrequest written hafter
        obtain rfl : value = written := Option.some.inj (hchanges.symm.trans hwritten)
        exact h.saved request hrequest version hsaved value hafter htrust.2
  refine ⟨h.toLined.erase rfl rfl rfl, fun other hother => ?_, fun other hother hnone value hvalue htrust => ?_,
    fun htrust hwaiting hnone value hvalue => ?_, fun htrust hnone => ?_⟩
  · exact h.saved other (Table.mem_erase.mp hother).1
  · obtain ⟨hother, hid⟩ := Table.mem_erase.mp hother
    have hchanges : request.changes field = none := by
      by_contra hsome
      exact hid (h.alone other hother request hrequest (Option.isSome_iff_exists.mpr ⟨value, hvalue⟩)
        (Option.isSome_iff_ne_none.mpr hsome))
    exact h.unchanged other hother hnone value hvalue
      (htrusted htrust (h.toLined.after_eq_none hrequest hchanges))
  · cases hchanges : request.changes field with
    | none =>
        exact h.settled (htrusted htrust (h.toLined.after_eq_none hrequest hchanges)) hwaiting
          (forall_of_erase hrequest hchanges hnone) value hvalue
    | some carried =>
        have hentered := h.last_carried hwaiting request hrequest carried hchanges
        obtain rfl : value = carried := Option.some.inj (hvalue.symm.trans hentered)
        exact hcarried htrust hchanges
  · change page.server field = request.changes.ontoSnapshot page.baseline field
    cases hchanges : request.changes field with
    | none =>
        have hafter := h.toLined.after_eq_none hrequest hchanges
        rw [JobFieldValues.ontoSnapshot, hchanges, Option.getD_none]
        exact h.baseline (htrusted htrust hafter) (forall_of_erase (P := fun other => ∀ version,
          other.stage = .saved version → other.envelope.after field = none) hrequest (fun _ _ => hafter) hnone)
    | some carried =>
        rw [JobFieldValues.ontoSnapshot, hchanges, Option.getD_some]
        exact hcarried htrust hchanges

end Requests

/-! ## A save begins -/

section Begin

variable {queue : List JobFieldValues} {batch : JobFieldValues} {id : ℕ}

lemma waiting_eq (hqueue : page.queue = batch :: queue) :
    page.waiting field = (batch field).toList ++ waiting { page with queue } field := by
  unfold waiting
  rw [hqueue]
  cases hbatch : batch field with
  | none => simp [hbatch]
  | some value => simp [hbatch]

lemma Lined.uncarried (h : page.Lined field) (hidle : page.isSaving = false)
    (hqueue : page.queue = batch :: queue) (hbatch : (batch field).isSome) :
    ∀ request ∈ page.requests.rows, request.changes field = none := by
  intro request hrequest
  by_contra hchanges
  have hchained : request.chained = false := by simpa using List.any_eq_false.mp hidle request hrequest
  have hwaiting := h.retried request hrequest hchained (Option.isSome_iff_ne_none.mpr hchanges)
  obtain ⟨value, hvalue⟩ := Option.isSome_iff_exists.mp hbatch
  rw [waiting_eq hqueue, hvalue] at hwaiting
  cases hwaiting

lemma Lined.entered_of_last (h : page.Lined field) (hqueue : page.queue = batch :: queue)
    (hbatch : batch field = some value) (hwaiting : waiting { page with queue } field = []) :
    page.entered field = some value := by
  refine h.last_waiting value ?_
  rw [waiting_eq hqueue, hbatch, hwaiting]
  rfl

lemma Lined.waiting_eq_nil (h : page.Lined field) (hidle : page.isSaving = false)
    (hqueue : page.queue = batch :: queue) {request : SaveRequest} (hrequest : request ∈ page.requests.rows)
    (hchanges : (request.changes field).isSome) (hwaiting : waiting { page with queue } field = []) :
    page.waiting field = [] := by
  cases hbatch : batch field with
  | none =>
      rw [waiting_eq hqueue, hbatch, hwaiting]
      rfl
  | some value =>
      rw [h.uncarried hidle hqueue (Option.isSome_iff_exists.mpr ⟨value, hbatch⟩) request hrequest] at hchanges
      cases hchanges

lemma Lined.dequeue (h : page.Lined field) (hidle : page.isSaving = false)
    (hqueue : page.queue = batch :: queue) : Lined { page with queue } field where
  after_changes := h.after_changes
  alone := h.alone
  last_waiting value hvalue := by
    refine h.last_waiting value ?_
    rw [waiting_eq hqueue, List.getLast?_append, hvalue]
    rfl
  last_carried hwaiting request hrequest value hvalue :=
    h.last_carried (h.waiting_eq_nil hidle hqueue hrequest (Option.isSome_iff_exists.mpr ⟨value, hvalue⟩) hwaiting)
      request hrequest value hvalue
  retried request hrequest hchained hchanges := by
    have hwaiting := h.retried request hrequest hchained hchanges
    rw [waiting_eq hqueue, List.append_eq_nil_iff] at hwaiting
    exact hwaiting.2

lemma Lined.insert {request : SaveRequest} (h : page.Lined field)
    (hinsert : page.requests.insert? request = some page'.requests)
    (hentered : page'.entered field = page.entered field) (hwaiting : page'.waiting field = page.waiting field)
    (hafter : ∀ value, request.envelope.after field = some value → request.changes field = some value)
    (hfree : (request.changes field).isSome → ∀ other ∈ page.requests.rows, other.changes field = none)
    (hlast : page.waiting field = [] → ∀ value, request.changes field = some value →
      page.entered field = some value)
    (hretried : request.chained = false → (request.changes field).isSome → page.waiting field = []) :
    page'.Lined field := by
  have hcases {P : SaveRequest → Prop} := @Table.forall_insert? _ _ _ _ _ _ _ hinsert P
  have hclash {other : SaveRequest} (hother : other ∈ page.requests.rows)
      (hsome : (request.changes field).isSome) (hothers : (other.changes field).isSome) : False := by
    rw [hfree hsome other hother] at hothers
    cases hothers
  refine ⟨hcases h.after_changes hafter, hcases (fun other hother => hcases (h.alone other hother) ?_) ?_, ?_,
    ?_, ?_⟩
  · exact fun hothers hsome => (hclash hother hsome hothers).elim
  · exact hcases (fun other hother hsome hothers => (hclash hother hsome hothers).elim) fun _ _ => rfl
  · rw [hwaiting, hentered]
    exact h.last_waiting
  · rw [hwaiting, hentered]
    exact fun hnone => hcases (h.last_carried hnone) (hlast hnone)
  · rw [hwaiting]
    exact hcases h.retried hretried

lemma Kept.insert {request : SaveRequest} (h : page.Kept field) (hlined : page'.Lined field)
    (hinsert : page.requests.insert? request = some page'.requests) (hstage : request.stage = .building)
    (hentered : page'.entered field = page.entered field) (hserver : page'.server field = page.server field)
    (hbaseline : page'.baseline field = page.baseline field)
    (hfailed : page'.lastFailed field = page.lastFailed field)
    (hothers : page'.byOthers field = page.byOthers field)
    (hwaiting : request.changes field = none → page'.waiting field = page.waiting field)
    (hsame : page.Trusted field → request.envelope.after field = none → ∀ value,
      request.changes field = some value → page.server field = value) : page'.Kept field := by
  have htrusted : page'.Trusted field ↔ page.Trusted field := by rw [Trusted, Trusted, hfailed, hothers]
  have hcases {P : SaveRequest → Prop} := @Table.forall_insert? _ _ _ _ _ _ _ hinsert P
  have hold {P : SaveRequest → Prop} (hall : ∀ other ∈ page'.requests.rows, P other) :
      ∀ other ∈ page.requests.rows, P other := fun other hother =>
    hall other ((Table.mem_insert? hinsert).mpr (.inl hother))
  refine ⟨hlined, ?_, ?_, fun htrust hnil hnone value hvalue => ?_, fun htrust hnone => ?_⟩
  · rw [hserver, hothers]
    refine hcases h.saved fun version hsaved => ?_
    rw [hstage] at hsaved
    cases hsaved
  · rw [hserver, htrusted]
    exact hcases h.unchanged fun hafter value hvalue htrust => hsame htrust hafter value hvalue
  · have hnew : request.changes field = none := hnone request ((Table.mem_insert? hinsert).mpr (.inr rfl))
    rw [hserver]
    rw [hwaiting hnew] at hnil
    rw [hentered] at hvalue
    exact h.settled (htrusted.mp htrust) hnil (hold hnone) value hvalue
  · rw [hserver, hbaseline]
    exact h.baseline (htrusted.mp htrust) (hold hnone)

lemma begin_cases {chained : Bool} {baseline : JobSnapshot} {changes : JobFieldValues}
    (h : page.begin id chained baseline changes = some page') :
    ((changedFieldsOnly baseline changes).isEmpty = true ∧ page' = page) ∨
      ∃ requests, page.requests.insert? ⟨id, chained, changes, buildJobDeltaEnvelope baseline changes,
        .building⟩ = some requests ∧ page' = { page with requests } := by
  unfold OpenJob.begin at h
  split at h
  · rename_i hempty
    exact .inl ⟨hempty, (Option.some.inj h).symm⟩
  · obtain ⟨requests, hinsert, rfl⟩ := Option.map_eq_some_iff.mp h
    exact .inr ⟨requests, hinsert, rfl⟩

lemma Kept.drop (h : page.Kept field) (hidle : page.isSaving = false) (hqueue : page.queue = batch :: queue)
    (hempty : (changedFieldsOnly page.baseline batch).isEmpty = true) : Kept { page with queue } field where
  toLined := h.toLined.dequeue hidle hqueue
  saved := h.saved
  unchanged := h.unchanged
  settled htrusted hwaiting hnone value hvalue := by
    cases hbatch : batch field with
    | none =>
        refine h.settled htrusted ?_ hnone value hvalue
        rw [waiting_eq hqueue, hbatch, hwaiting]
        rfl
    | some last =>
        -- it was the last entered, so the baseline is
        have hentered := h.entered_of_last hqueue hbatch hwaiting
        obtain rfl : value = last := Option.some.inj (hvalue.symm.trans hentered)
        rw [eq_baseline_of_not_changed (none_of_isEmpty hempty) hbatch]
        exact h.baseline htrusted fun request hrequest _ _ =>
          h.toLined.after_eq_none hrequest (hnone request hrequest)
  baseline := h.baseline

lemma Kept.beginSave {requests : Table SaveRequest.id} (h : page.Kept field) (hidle : page.isSaving = false)
    (hqueue : page.queue = batch :: queue) (hinsert : page.requests.insert? ⟨id, true, batch,
      buildJobDeltaEnvelope page.baseline batch, .building⟩ = some requests) :
    Kept { page with queue, requests } field := by
  have hdequeued := h.toLined.dequeue hidle hqueue
  have hlined : Lined { page with queue, requests } field :=
    @Lined.insert { page with queue } { page with queue, requests } field _ hdequeued hinsert rfl rfl
      (fun value => changes_of_changed) (h.uncarried hidle hqueue)
      (fun hwaiting value hvalue => h.entered_of_last hqueue hvalue hwaiting) (by simp)
  refine h.insert hlined hinsert rfl rfl rfl rfl rfl rfl (fun hbatch => ?_) fun htrusted hafter value hbatch => ?_
  · rw [waiting_eq hqueue, show batch field = none from hbatch]
    rfl
  · rw [eq_baseline_of_not_changed hafter hbatch]
    refine h.baseline htrusted fun request hrequest _ _ => h.toLined.after_eq_none hrequest ?_
    exact h.uncarried hidle hqueue (Option.isSome_iff_exists.mpr ⟨value, hbatch⟩) request hrequest

lemma Kept.beginRetry {requests : Table SaveRequest.id} (h : page.Kept field)
    (hinsert : page.requests.insert? ⟨id, false, page.rejected,
      buildJobDeltaEnvelope page.cached page.rejected, .building⟩ = some requests)
    (hstands : (page.rejected field).isSome → page.entered field = page.rejected field ∧
      page.waiting field = [] ∧ ∀ request ∈ page.requests.rows, request.changes field = none) :
    Kept { page with requests } field := by
  have hsome {value : FieldValue} (hvalue : page.rejected field = some value) :=
    hstands (Option.isSome_iff_exists.mpr ⟨value, hvalue⟩)
  have hlined : Lined { page with requests } field :=
    h.toLined.insert hinsert rfl rfl (fun value => changes_of_changed) (fun hchanges => (hstands hchanges).2.2)
      (fun _ value hvalue => (hsome hvalue).1.trans hvalue) (fun _ hchanges => (hstands hchanges).2.1)
  refine h.insert hlined hinsert rfl rfl rfl rfl rfl rfl (fun _ => rfl) fun htrusted _ value hvalue => ?_
  obtain ⟨hentered, hwaiting, hnone⟩ := hsome hvalue
  exact h.settled htrusted hwaiting hnone value (hentered.trans hvalue)

end Begin

/-! ## Edits -/

lemma Kept.edit {edited : JobEditableField} {entry : FieldValue} (h : page.Kept field)
    (hedited : ∀ request ∈ page.requests.rows, request.chained = false → request.changes edited = none) :
    Kept { page with
      entered := Function.update page.entered edited (some entry)
      pending := Function.update page.pending edited (some entry) } field := by
  by_cases hfield : field = edited
  · obtain rfl := hfield
    have hwaiting : waiting { page with
        entered := Function.update page.entered field (some entry)
        pending := Function.update page.pending field (some entry) } field =
        page.queue.filterMap (fun batch => batch field) ++ [entry] := by
      simp [waiting]
    have hne : page.queue.filterMap (fun batch => batch field) ++ [entry] ≠ [] := by simp
    refine ⟨⟨h.after_changes, h.alone, fun value hvalue => ?_, fun hnil => ?_,
      fun request hrequest hchained hchanges => ?_⟩, h.saved, h.unchanged, fun _ hnil => ?_, h.baseline⟩
    · rw [hwaiting, List.getLast?_concat] at hvalue
      exact (Function.update_self field _ _).trans hvalue
    · exact absurd (hwaiting.symm.trans hnil) hne
    · rw [hedited request hrequest hchained] at hchanges
      cases hchanges
    · exact absurd (hwaiting.symm.trans hnil) hne
  · refine h.congr (Function.update_of_ne hfield _ _) ?_ rfl rfl rfl rfl rfl
    simp [waiting, Function.update_of_ne hfield]

lemma waiting_flushed :
    waiting { page with pending := .none, queue := page.queue ++ [page.pending] } field = page.waiting field := by
  unfold waiting
  cases hpending : page.pending field with
  | none => simp [List.filterMap_append, hpending, JobFieldValues.none]
  | some value => simp [List.filterMap_append, hpending, JobFieldValues.none]

lemma Kept.othersWrite {written : JobEditableField} {entry : FieldValue} {version : ℕ} (h : page.Kept field) :
    Kept { page with
      server := Function.update page.server written entry
      version
      byOthers := Function.update page.byOthers written true } field := by
  by_cases hfield : field = written
  · obtain rfl := hfield
    have hothers : Function.update page.byOthers field true field ≠ false := by simp
    exact ⟨⟨h.after_changes, h.alone, h.last_waiting, h.last_carried, h.retried⟩,
      fun _ _ _ _ _ _ hmine => absurd hmine hothers, fun _ _ _ _ _ htrust => absurd htrust.2 hothers,
      fun htrust => absurd htrust.2 hothers, fun htrust => absurd htrust.2 hothers⟩
  · exact h.congr rfl rfl rfl (Function.update_of_ne hfield _ _) rfl (Function.update_of_ne hfield _ _) rfl

lemma Kept.refetch {etag : ℕ} (h : page.Kept field) :
    Kept { page with baseline := page.server, cached := page.server, etag } field :=
  ⟨⟨h.after_changes, h.alone, h.last_waiting, h.last_carried, h.retried⟩, h.saved, h.unchanged, h.settled,
    fun _ _ => rfl⟩

/-! ## Steps -/

/-- Retry is clicked while the refused values are those last entered and nothing of their fields waits or is
on its way, and those fields are left alone until it has been answered. -/
def RetriesWhatStands (page : OpenJob) : JobPageStep → Prop
  | .edited field _ => ∀ request ∈ page.requests.rows, request.chained = false → request.changes field = none
  | .retryClicked _ => ∀ field ∈ JobEditableField.all, (page.rejected field).isSome →
      page.entered field = page.rejected field ∧ page.waiting field = [] ∧
        ∀ request ∈ page.requests.rows, request.changes field = none
  | _ => True

lemma step_keeps {step : JobPageStep} (h : page.Kept field) (hstep : RetriesWhatStands page step)
    (hrun : jobPage softFail page step = some page') : page'.Kept field := by
  cases step with
  | edited edited value =>
      obtain rfl := Option.some.inj hrun
      exact h.edit hstep
  | flushed =>
      simp only [jobPage] at hrun
      split at hrun
      · exact Option.some.inj hrun ▸ h
      · obtain rfl := Option.some.inj hrun
        exact h.congr rfl waiting_flushed rfl rfl rfl rfl rfl
  | saveBegun id =>
      simp only [jobPage] at hrun
      split at hrun
      · cases hrun
      · rename_i hidle
        have hidle := Bool.eq_false_iff.mpr hidle
        split at hrun
        · cases hrun
        · rename_i batch queue hqueue
          rcases begin_cases hrun with ⟨hempty, rfl⟩ | ⟨requests, hinsert, rfl⟩
          · exact h.drop hidle hqueue hempty
          · exact h.beginSave hidle hqueue hinsert
  | sent id =>
      obtain ⟨request, hfound, hrun⟩ := Option.bind_eq_some_iff.mp hrun
      split at hrun
      · rename_i hstage
        obtain rfl := Option.some.inj hrun
        exact h.advance (Table.mem_of_find? hfound) (by simp [hstage]) (by simp)
      · cases hrun
  | received id =>
      obtain ⟨request, hfound, hrun⟩ := Option.bind_eq_some_iff.mp hrun
      split at hrun
      · rename_i ifMatch hstage
        obtain rfl := Option.some.inj hrun
        unfold OpenJob.receive
        split
        · exact h.take (Table.mem_of_find? hfound) (by simp [hstage])
        · exact h.advance (Table.mem_of_find? hfound) (by simp [hstage]) (by simp)
      · cases hrun
  | answered id =>
      obtain ⟨request, hfound, hrun⟩ := Option.bind_eq_some_iff.mp hrun
      split at hrun
      · obtain rfl := Option.some.inj hrun
        exact h.fail (Table.mem_of_find? hfound)
      · rename_i version hstage
        obtain rfl := Option.some.inj hrun
        exact h.succeed (Table.mem_of_find? hfound) hstage
      · cases hrun
  | failed id =>
      obtain ⟨request, hfound, hrun⟩ := Option.bind_eq_some_iff.mp hrun
      split at hrun
      · cases hrun
      · obtain rfl := Option.some.inj hrun
        exact h.fail (Table.mem_of_find? hfound)
  | refetched =>
      obtain rfl := Option.some.inj hrun
      exact h.refetch
  | etagCaptured =>
      obtain rfl := Option.some.inj hrun
      exact h.congr rfl rfl rfl rfl rfl rfl rfl
  | retryClicked id =>
      simp only [jobPage] at hrun
      split at hrun
      · exact Option.some.inj hrun ▸ h
      · rcases begin_cases hrun with ⟨-, rfl⟩ | ⟨requests, hinsert, rfl⟩
        · exact h
        · exact h.beginRetry hinsert (hstep field field.mem_all)
  | othersWrote written value =>
      obtain rfl := Option.some.inj hrun
      exact h.othersWrite

/-- Nothing is pending, waits, or is on its way. -/
def AtRest (page : OpenJob) : Prop :=
  page.pending.isEmpty = true ∧ page.queue = [] ∧ page.requests.rows = []

lemma AtRest.waiting (h : page.AtRest) : page.waiting field = [] := by
  rw [OpenJob.waiting, h.2.1, none_of_isEmpty h.1]
  rfl

lemma Kept.entered_or_waiting (h : page.Kept field) {request : SaveRequest}
    (hrequest : request ∈ page.requests.rows) (hvalue : request.envelope.after field = some value) :
    page.entered field = some value ∨
      ∃ latest, (page.waiting field).getLast? = some latest ∧ page.entered field = some latest := by
  cases hlast : (page.waiting field).getLast? with
  | none =>
      have hwaiting := List.getLast?_eq_none_iff.mp hlast
      exact .inl (h.last_carried hwaiting request hrequest value (h.after_changes request hrequest value hvalue))
  | some latest => exact .inr ⟨latest, rfl, h.last_waiting latest hlast⟩

end OpenJob

open OpenJob

instance (page : OpenJob) : Decidable page.AtRest :=
  inferInstanceAs (Decidable (_ ∧ page.queue = [] ∧ page.requests.rows = []))

instance (page : OpenJob) : DecidablePred (RetriesWhatStands page)
  | .edited field _ => inferInstanceAs (Decidable (∀ request ∈ page.requests.rows,
      request.chained = false → request.changes field = none))
  | .retryClicked _ => inferInstanceAs (Decidable (∀ field ∈ JobEditableField.all,
      (page.rejected field).isSome → page.entered field = page.rejected field ∧
        page.waiting field = [] ∧ ∀ request ∈ page.requests.rows, request.changes field = none))
  | .flushed | .saveBegun _ | .sent _ | .received _ | .answered _ | .failed _ | .refetched | .etagCaptured
  | .othersWrote .. => .isTrue trivial

def gateJob : JobSnapshot
  | .name => .text "Gate"
  | .rejectedFlag => .flag false
  | _ => .null

/-- The name is changed, while somebody else writes the notes. -/
def refusedName : List JobPageStep :=
  [.edited .name (.text "Gate A"), .othersWrote .notes (.text "Call first"), .flushed, .saveBegun 1, .sent 1,
    .received 1, .refetched, .answered 1]

end Docketworks.Frontend
