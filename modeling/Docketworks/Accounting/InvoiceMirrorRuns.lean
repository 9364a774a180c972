import Docketworks.Library.Groups
import Docketworks.Accounting.InvoiceMirror
import Docketworks.Accounting.InvoicingRuns

/-!
# An invoice in Xero counts against its job

Every run of `Docketworks.Accounting.InvoiceMirror`: requests, failures of their local steps, syncs and what is done
in Xero itself, in any order.

* `Sound` — what holds between the steps.
* `Sound.withInvoices`, `Sound.rewrite`, `Sound.accept`, `Sound.ended` — a row written, an invoice written in Xero,
  an answer and the end of its local steps.
* `Attributes` — a create whose invoice lives in Xero stores its row, and the sync does not skip a deleted invoice
  that still counts here.
* `prior_total_is_live_total` — then what is invoiced of a job is what lives in Xero of what was created for it,
  once the sync has seen it all.
* `mirrored_before_the_row` — and otherwise it is not.
-/

namespace Docketworks.Accounting

open Library

/-! ## What holds between the steps -/

/-- What a row counts. -/
def Invoice.billed (invoice : Invoice) : ℚ := if invoice.status.isValid then invoice.totalExclTax.val else 0

def Sent.creates : Sent → Bool
  | .creation .. => true
  | .removal .. => false

namespace InvoiceSite

variable (s : InvoiceSite)

/-- Xero has the invoice, neither voided nor deleted. -/
def live (invoice : ℕ) : Bool := (s.documents.find? invoice).any fun document => document.status.isValid

def billedInXero (invoice : ℕ) : ℚ := ((s.documents.find? invoice).map InvoiceInXero.billed).getD 0

/-- The live invoices the program has created for the job. -/
def liveTotal (job : ℕ) : ℚ :=
  ((s.created.filter fun made => made.2 = job).map fun made => s.billedInXero made.1).sum

/-- The row of the invoice is the job's. -/
def RowOf (invoice job : ℕ) : Prop :=
  ∃ row ∈ s.program.invoices.rows, row.xeroId = invoice ∧ row.job = some job

end InvoiceSite

/-- What holds of an answer before its local steps. -/
structure AnswerSound (s : InvoiceSite) (answer : Answer) : Prop where
  made : ∀ job company result, answer.sent = .creation job company result → (answer.invoice, job) ∈ s.created
  told : answer.sent.creates = true → ∃ document : InvoiceInXero,
    document.id = answer.invoice ∧ answer.result.tellsOf document = true
  removed : ∀ invoice void, answer.sent = .removal invoice void → answer.invoice = invoice ∧
    ∃ document, s.documents.find? invoice = some document ∧ document.status.isValid = false

/-- What holds between the steps. -/
structure Sound (s : InvoiceSite) : Prop where
  linked : ∀ row ∈ s.program.invoices.rows, ∀ job, row.job = some job → (row.xeroId, job) ∈ s.created
  single : (s.created.map Prod.fst).Nodup
  documented : ∀ made ∈ s.created, (s.documents.find? made.1).isSome = true
  answers : ∀ answer ∈ s.answers.rows, AnswerSound s answer
  recorded : ∀ invoice job, (invoice, job) ∈ s.created → s.live invoice = true →
    (∃ answer ∈ s.answers.rows, answer.sent.creates = true ∧ answer.invoice = invoice) ∨ s.RowOf invoice job
  accurate : ∀ row ∈ s.program.invoices.rows, row.job ≠ none → row.xeroId ∉ s.unsynced →
    (∀ answer ∈ s.answers.rows, answer.invoice ≠ row.xeroId) → row.billed = s.billedInXero row.xeroId

section Keeps

variable {s s' : InvoiceSite} {answer : Answer} {document : InvoiceInXero} {invoice job : ℕ}

/-! ## Rows -/

lemma Sound.congr (h : Sound s) (hrows : s'.program.invoices = s.program.invoices)
    (hdocuments : s'.documents = s.documents) (hcreated : s'.created = s.created) (hanswers : s'.answers = s.answers)
    (hunsynced : ∀ invoice ∈ s.unsynced, invoice ∈ s'.unsynced) : Sound s' := by
  have hbilled : s'.billedInXero = s.billedInXero := by
    funext invoice
    rw [InvoiceSite.billedInXero, InvoiceSite.billedInXero, hdocuments]
  refine ⟨?_, ?_, ?_, ?_, ?_, ?_⟩
  · rw [hrows, hcreated]
    exact h.linked
  · rw [hcreated]
    exact h.single
  · rw [hcreated, hdocuments]
    exact h.documented
  · rw [hanswers]
    intro answer hanswer
    obtain ⟨hmade, htold, hremoved⟩ := h.answers answer hanswer
    exact ⟨hcreated ▸ hmade, htold, hdocuments ▸ hremoved⟩
  · rw [hcreated, hanswers]
    unfold InvoiceSite.RowOf InvoiceSite.live
    rw [hrows, hdocuments]
    exact h.recorded
  · rw [hrows, hanswers, hbilled]
    exact fun row hrow hjob hsynced => h.accurate row hrow hjob fun hin => hsynced (hunsynced _ hin)

/-- **The row of one invoice is written**, linked as the invoice was created and as Xero has it, unless the sync or a
request is still to write it. -/
lemma Sound.withInvoices {invoices : Table Invoice.xeroId} (h : Sound s) (invoice : ℕ)
    (hothers : ∀ row : Invoice, row.xeroId ≠ invoice → (row ∈ invoices.rows ↔ row ∈ s.program.invoices.rows))
    (hlinked : ∀ row ∈ invoices.rows, row.xeroId = invoice → ∀ job, row.job = some job → (invoice, job) ∈ s.created)
    (hkept : ∀ job, s.live invoice = true → s.RowOf invoice job →
      ∃ row ∈ invoices.rows, row.xeroId = invoice ∧ row.job = some job)
    (haccurate : invoice ∈ s.unsynced ∨ (∃ answer ∈ s.answers.rows, answer.invoice = invoice) ∨
      ∀ row ∈ invoices.rows, row.xeroId = invoice → row.job ≠ none → row.billed = s.billedInXero invoice) :
    Sound (s.withInvoices invoices) := by
  refine ⟨fun row hrow job hjob => ?_, h.single, h.documented, fun answer hanswer => ?_,
    fun other job hcreated hlive => ?_, fun row hrow hjob hsynced hidle => ?_⟩
  · by_cases hid : row.xeroId = invoice
    · exact hid ▸ hlinked row hrow hid job hjob
    · exact h.linked row ((hothers row hid).mp hrow) job hjob
  · obtain ⟨hmade, htold, hremoved⟩ := h.answers answer hanswer
    exact ⟨hmade, htold, hremoved⟩
  · refine (h.recorded other job hcreated hlive).imp_right fun hrow => ?_
    by_cases hid : other = invoice
    · obtain rfl := hid
      exact hkept job hlive hrow
    · obtain ⟨row, hrow, rfl, hjob⟩ := hrow
      exact ⟨row, (hothers row hid).mpr hrow, rfl, hjob⟩
  · by_cases hid : row.xeroId = invoice
    · rcases haccurate with hunsynced | ⟨answer, hanswer, hsame⟩ | hbilled
      · exact absurd (hid ▸ hunsynced) hsynced
      · exact absurd (hsame.trans hid.symm) (hidle answer hanswer)
      · rw [hbilled row hrow hid hjob, hid]
        rfl
    · exact h.accurate row ((hothers row hid).mp hrow) hjob hsynced hidle

/-! ## Xero -/

lemma live_eq_false_of_find? (hdocument : s.documents.find? invoice = some document)
    (hdead : document.status.isValid = false) : s.live invoice = false := by
  simp [InvoiceSite.live, hdocument, hdead]

/-- **An invoice is written in Xero**, one that still may be. -/
lemma Sound.rewrite (h : Sound s) (hrewrite : s.rewrite document = some s') : Sound s' := by
  obtain ⟨old, hold, rfl⟩ := Option.map_eq_some_iff.mp hrewrite
  obtain ⟨hold, hvalid⟩ := Option.filter_eq_some_iff.mp hold
  have hfind : ∀ other, other ≠ document.id →
      (s.documents.put document).find? other = s.documents.find? other := fun other hne => Table.find?_put_of_ne hne
  have hlive : ∀ other, (s.rewritten document).live other = true → s.live other = true := by
    intro other hlive
    by_cases hid : other = document.id
    · simp [InvoiceSite.live, hid, hold, hvalid]
    · rw [← hlive]
      simp [InvoiceSite.live, InvoiceSite.rewritten, hfind other hid]
  refine ⟨h.linked, h.single, fun made hmade => ?_, fun answer hanswer => ?_, fun other job hcreated hlives => ?_,
    fun row hrow hjob hsynced hidle => ?_⟩
  · by_cases hid : made.1 = document.id
    · change ((s.documents.put document).find? made.1).isSome = true
      rw [hid, Table.find?_put_self hold]
      rfl
    · change ((s.documents.put document).find? made.1).isSome = true
      rw [hfind made.1 hid]
      exact h.documented made hmade
  · obtain ⟨hmade, htold, hremoved⟩ := h.answers answer hanswer
    refine ⟨hmade, htold, fun invoice void hsent => ?_⟩
    obtain ⟨hsame, final, hfinal, hdead⟩ := hremoved invoice void hsent
    refine ⟨hsame, final, ?_, hdead⟩
    -- what is voided or deleted is not written again
    have hne : invoice ≠ document.id := by
      rintro rfl
      rw [Option.some.inj (hold.symm.trans hfinal), hdead] at hvalid
      cases hvalid
    exact (hfind invoice hne).trans hfinal
  · exact h.recorded other job hcreated (hlive other hlives)
  · have hne : row.xeroId ≠ document.id := fun hid => hsynced (hid ▸ List.mem_cons_self)
    rw [h.accurate row hrow hjob (fun hin => hsynced (List.mem_cons_of_mem _ hin)) hidle]
    simp [InvoiceSite.billedInXero, InvoiceSite.rewritten, hfind row.xeroId hne]

/-- **An invoice is made in Xero.** -/
lemma Sound.make (h : Sound s) (hmake : s.make document = some s') : Sound s' := by
  obtain ⟨documents, hinsert, rfl⟩ := Option.map_eq_some_iff.mp hmake
  have hfresh : s.documents.find? document.id = none := Table.find?_of_insert? hinsert
  have hfind : ∀ other, other ≠ document.id → documents.find? other = s.documents.find? other := fun other hne =>
    Table.find?_insert?_of_ne hinsert hne
  have hknown : ∀ other job, (other, job) ∈ s.created → other ≠ document.id := by
    rintro other job hcreated rfl
    have hdocumented := h.documented _ hcreated
    rw [hfresh] at hdocumented
    cases hdocumented
  refine ⟨h.linked, h.single, fun made hmade => Table.isSome_find?_insert? hinsert (h.documented made hmade),
    fun answer hanswer => ?_, fun other job hcreated hlives => ?_, fun row hrow hjob hsynced hidle => ?_⟩
  · obtain ⟨hmade, htold, hremoved⟩ := h.answers answer hanswer
    refine ⟨hmade, htold, fun invoice void hsent => ?_⟩
    obtain ⟨hsame, final, hfinal, hdead⟩ := hremoved invoice void hsent
    refine ⟨hsame, final, (hfind invoice ?_).trans hfinal, hdead⟩
    rintro rfl
    rw [hfresh] at hfinal
    cases hfinal
  · refine h.recorded other job hcreated ?_
    simpa [InvoiceSite.live, hfind other (hknown other job hcreated)] using hlives
  · have hne : row.xeroId ≠ document.id := fun hid => hsynced (hid ▸ List.mem_cons_self)
    rw [h.accurate row hrow hjob (fun hin => hsynced (List.mem_cons_of_mem _ hin)) hidle]
    simp [InvoiceSite.billedInXero, hfind row.xeroId hne]

end Keeps

/-! ## Answers -/

section Answers

variable {s s' : InvoiceSite} {answer : Answer} {document : InvoiceInXero} {invoice job : ℕ}

/-- **Xero's answer comes in.** -/
lemma Sound.withAnswer (h : Sound s) (hsound : AnswerSound s answer) (hanswer : s.withAnswer answer = some s') :
    Sound s' := by
  obtain ⟨answers, hinsert, rfl⟩ := Option.map_eq_some_iff.mp hanswer
  have hmem : ∀ other, other ∈ answers.rows ↔ other ∈ s.answers.rows ∨ other = answer := fun other =>
    Table.mem_insert? hinsert
  refine ⟨h.linked, h.single, h.documented, fun other hother => ?_, fun invoice job hcreated hlive => ?_,
    fun row hrow hjob hsynced hidle => ?_⟩
  · have hsound' : AnswerSound s other := by
      rcases (hmem other).mp hother with hother | rfl
      · exact h.answers other hother
      · exact hsound
    exact ⟨hsound'.made, hsound'.told, hsound'.removed⟩
  · refine (h.recorded invoice job hcreated hlive).imp_left ?_
    rintro ⟨other, hother, hcreates⟩
    exact ⟨other, (hmem other).mpr (.inl hother), hcreates⟩
  · exact h.accurate row hrow hjob hsynced fun other hother => hidle other ((hmem other).mpr (.inl hother))

/-- **Xero's answer to a create comes in** with its new invoice. -/
lemma Sound.accept {request company : ℕ} {result : InvoiceCalculationResult} {told : DocumentResult} (h : Sound s)
    (hdocument : (s.documents.find? document.id).isSome = true) (hfresh : ∀ job, (document.id, job) ∉ s.created)
    (htells : told.tellsOf document = true)
    (hanswer : { s with created := (document.id, job) :: s.created }.withAnswer
      ⟨request, .creation job company result, document.id, told⟩ = some s') : Sound s' := by
  obtain ⟨answers, hinsert, rfl⟩ := Option.map_eq_some_iff.mp hanswer
  have hmem : ∀ other, other ∈ answers.rows ↔ other ∈ s.answers.rows ∨
      other = ⟨request, .creation job company result, document.id, told⟩ := fun other => Table.mem_insert? hinsert
  refine ⟨fun row hrow other hjob => List.mem_cons_of_mem _ (h.linked row hrow other hjob),
    List.nodup_cons.mpr ⟨fun hin => ?_, h.single⟩, fun made hmade => ?_, fun other hother => ?_,
    fun invoice other hcreated hlive => ?_, fun row hrow hjob hsynced hidle => ?_⟩
  · obtain ⟨⟨other, job'⟩, hcreated, rfl⟩ := List.mem_map.mp hin
    exact hfresh job' hcreated
  · rcases List.mem_cons.mp hmade with rfl | hmade
    · exact hdocument
    · exact h.documented made hmade
  · rcases (hmem other).mp hother with hother | rfl
    · obtain ⟨hmade, htold, hremoved⟩ := h.answers other hother
      exact ⟨fun job company result hsent => List.mem_cons_of_mem _ (hmade job company result hsent), htold, hremoved⟩
    · refine ⟨?_, fun _ => ⟨document, rfl, htells⟩, fun _ _ => nofun⟩
      rintro job' company' result' ⟨⟩
      exact List.mem_cons_self
  · rcases List.mem_cons.mp hcreated with heq | hcreated
    · cases heq
      exact .inl ⟨_, (hmem _).mpr (.inr rfl), rfl, rfl⟩
    · refine (h.recorded invoice other hcreated hlive).imp_left ?_
      rintro ⟨answer, hanswer, hcreates⟩
      exact ⟨answer, (hmem answer).mpr (.inl hanswer), hcreates⟩
  · exact h.accurate row hrow hjob hsynced fun other hother => hidle other ((hmem other).mpr (.inl hother))

/-- **The local steps of an answer are over**: a create's invoice has its row, if it still lives in Xero. -/
lemma Sound.ended (h : Sound s) (hanswer : answer ∈ s.answers.rows)
    (hrow : ∀ job, answer.sent.creates = true → (answer.invoice, job) ∈ s.created →
      s.live answer.invoice = true → s.RowOf answer.invoice job) : Sound (s.ended answer) := by
  have hold : ∀ other ∈ (s.answers.erase answer.id).rows, other ∈ s.answers.rows := fun other hother =>
    (Table.mem_erase.mp hother).1
  refine ⟨h.linked, h.single, h.documented, fun other hother => ?_, fun invoice job hcreated hlive => ?_,
    fun row hrow hjob hsynced hidle => ?_⟩
  · obtain ⟨hmade, htold, hremoved⟩ := h.answers other (hold other hother)
    exact ⟨hmade, htold, hremoved⟩
  · rcases h.recorded invoice job hcreated hlive with ⟨other, hother, hcreates, rfl⟩ | hrecorded
    · by_cases hid : other.id = answer.id
      · obtain rfl := Table.eq_of_key_eq hother hanswer hid
        exact .inr (hrow job hcreates hcreated hlive)
      · exact .inl ⟨other, Table.mem_erase.mpr ⟨hother, hid⟩, hcreates, rfl⟩
    · exact .inr hrecorded
  · refine h.accurate row hrow hjob (fun hin => hsynced (List.mem_cons_of_mem _ hin)) fun other hother => ?_
    by_cases hid : other.id = answer.id
    · obtain rfl := Table.eq_of_key_eq hother hanswer hid
      exact fun hsame => hsynced (hsame ▸ List.mem_cons_self)
    · exact hidle other (Table.mem_erase.mpr ⟨hother, hid⟩)

end Answers

/-! ## The sync -/

section Sync

variable {s : InvoiceSite} {document : InvoiceInXero} {company : ℕ} {turn : Turn}

lemma mem_transformInvoice {invoices : Table Invoice.xeroId} {row : Invoice}
    (hrow : row ∈ (transformInvoice invoices document company).rows) (hid : row.xeroId = document.id) :
    row.job = (invoices.find? document.id).bind Invoice.job ∧ row.billed = document.billed := by
  rcases Table.mem_upsert.mp hrow with rfl | ⟨-, hne⟩
  · exact ⟨rfl, rfl⟩
  · exact absurd hid hne

/-- **A document is written over its row**, the present one or one that is to be synced again. -/
lemma Sound.transformInvoice (h : Sound s)
    (hcurrent : document.id ∈ s.unsynced ∨ s.documents.find? document.id = some document) :
    Sound (s.withInvoices (transformInvoice s.program.invoices document company)) := by
  have hold : ∀ job, (s.program.invoices.find? document.id).bind Invoice.job = some job →
      ∃ row ∈ s.program.invoices.rows, row.xeroId = document.id ∧ row.job = some job := by
    intro job hjob
    obtain ⟨row, hfind, hjob⟩ := Option.bind_eq_some_iff.mp hjob
    exact ⟨row, Table.mem_of_find? hfind, Table.key_of_find? hfind, hjob⟩
  refine h.withInvoices document.id (fun row hne => ?_) (fun row hrow hid job hjob => ?_) (fun job _ hrow => ?_) ?_
  · refine Table.mem_upsert.trans ⟨?_, fun hrow => .inr ⟨hrow, hne⟩⟩
    rintro (rfl | ⟨hrow, -⟩)
    · exact absurd rfl hne
    · exact hrow
  · rw [(mem_transformInvoice hrow hid).1] at hjob
    obtain ⟨old, hold, hsame, hjob⟩ := hold job hjob
    exact hsame ▸ h.linked old hold job hjob
  · obtain ⟨row, hrow, hid, hjob⟩ := hrow
    refine ⟨_, Table.mem_upsert.mpr (.inl rfl), rfl, ?_⟩
    change (s.program.invoices.find? document.id).bind Invoice.job = some job
    rw [← hid, Table.find?_of_mem hrow]
    exact hjob
  · refine hcurrent.imp_right fun hfind => .inr fun row hrow hid _ => ?_
    rw [(mem_transformInvoice hrow hid).2, InvoiceSite.billedInXero, hfind]
    rfl

/-- **A turn's invoice needs no further sync**, its row as Xero has it or still to be written by a request. -/
lemma Sound.cleared (h : Sound s) (invoice : ℕ)
    (hrow : ∀ row ∈ s.program.invoices.rows, row.xeroId = invoice → row.job ≠ none →
      (∀ answer ∈ s.answers.rows, answer.invoice ≠ invoice) → row.billed = s.billedInXero invoice) :
    Sound { s with unsynced := s.unsynced.filter (· ≠ invoice) } := by
  refine ⟨h.linked, h.single, h.documented, fun answer hanswer => ?_, h.recorded, fun row hmem hjob hsynced hidle => ?_⟩
  · obtain ⟨hmade, htold, hremoved⟩ := h.answers answer hanswer
    exact ⟨hmade, htold, hremoved⟩
  · by_cases hid : row.xeroId = invoice
    · obtain rfl := hid
      exact hrow row hmem rfl hjob hidle
    · refine h.accurate row hmem hjob (fun hin => hsynced ?_) hidle
      exact List.mem_filter.mpr ⟨hin, decide_eq_true hid⟩

end Sync

/-! ## The condition -/

/-- A create whose invoice lives in Xero stores its row: its local steps do not fail, Xero's answer has all they read
and no sync has mirrored the invoice before.  And the sync skips no deleted invoice whose row is linked and still
counts, unless its removal is about to write the row. -/
def Attributes (s : InvoiceSite) : SiteStep → Prop
  | .finished request => ∀ answer ∈ s.answers.find? request, answer.sent.creates = true → s.live answer.invoice = true →
      answer.result.complete = true ∧ s.program.invoices.find? answer.invoice = none
  | .failed request => ∀ answer ∈ s.answers.find? request, answer.sent.creates = true → s.live answer.invoice = false
  | .synced turn _ => ∀ found ∈ s.turns.find? turn, found.document.status = .deleted →
      ∀ row ∈ s.program.invoices.find? found.document.id, row.job ≠ none → row.status.isValid = true →
        s.removing found.document.id = true
  | _ => True

instance (s : InvoiceSite) (step : SiteStep) : Decidable (Attributes s step) := by
  cases step <;> unfold Attributes <;> infer_instance

/-! ## One step -/

section Step

variable {s s' : InvoiceSite} {answer : Answer} {document : InvoiceInXero} {request job company : ℕ} {turn : Turn}

lemma finishCreate_stores {program : Invoicing} {result : DocumentResult} {invoices : Table Invoice.xeroId}
    (h : finishCreate program job company result = .ok invoices) :
    ∃ row, program.invoices.insert? row = some invoices ∧ row.job = some job ∧
      result.externalId = some row.xeroId := by
  simp only [finishCreate, bind_eq_ok, storedTotal, found_eq_ok] at h
  obtain ⟨-, -, _, hid, _, -, _, -, _, -, _, -, _, -, hinsert⟩ := h
  exact ⟨_, hinsert, rfl, hid⟩

lemma finishCreate_of_complete {program : Invoicing} {result : DocumentResult} (job company : ℕ)
    (htells : result.tellsOf document = true) (hcomplete : result.complete = true)
    (hfree : program.invoices.find? document.id = none) :
    ∃ invoices, finishCreate program job company result = .ok invoices := by
  simp only [DocumentResult.tellsOf, DocumentResult.complete, Bool.and_eq_true] at htells hcomplete
  obtain ⟨⟨⟨⟨⟨hsuccess, hid⟩, hsub⟩, htax⟩, htotal⟩, hdue⟩ := htells
  obtain ⟨⟨⟨⟨⟨hid', hnumber⟩, hsub'⟩, htax'⟩, htotal'⟩, hdue'⟩ := hcomplete
  have hall : ∀ {α : Type} [DecidableEq α] {o : Option α} {a : α}, o.all (· = a) = true → o.isSome = true →
      o = some a := by
    intro α _ o a hall hsome
    cases o with
    | none => cases hsome
    | some b => exact congrArg some (by simpa using hall)
  obtain ⟨number, hnumber, hnonempty⟩ := (Option.any_eq_true _ _).mp hnumber
  have hstored : ∀ {raw : Option ℚ} {c : Column 10 2}, raw = some c.val → storedTotal raw = .ok c := by
    rintro raw c rfl
    exact bind_eq_ok.mpr ⟨c.val, rfl, found_eq_ok.mpr c.store?_val⟩
  obtain ⟨invoices, hinsert⟩ := Table.exists_insert? (r := (
    { xeroId := document.id, job := some job, company, number, status := .submitted, totalExclTax := document.subTotal,
      tax := document.totalTax, totalInclTax := document.total, amountDue := document.amountDue } : Invoice)) hfree
  refine ⟨invoices, ?_⟩
  simp only [finishCreate, bind_eq_ok, found_eq_ok]
  exact ⟨(), by simp [refuseIf, hsuccess], _, hall hid hid', number,
    Option.filter_eq_some_iff.mpr ⟨hnumber, hnonempty⟩, _, hstored (hall hsub hsub'), _, hstored (hall htax htax'),
    _, hstored (hall htotal htotal'), _, hstored (hall hdue hdue'), hinsert⟩

lemma Sound.job_unique {invoice job' : ℕ} (h : Sound s) (hjob : (invoice, job) ∈ s.created)
    (hjob' : (invoice, job') ∈ s.created) : job = job' :=
  congrArg Prod.snd (List.inj_on_of_nodup_map h.single hjob hjob' rfl)

lemma Sound.finishedCreate {calculation : InvoiceCalculationResult} (h : Sound s)
    (hanswer : s.answers.find? request = some answer) (hsent : answer.sent = .creation job company calculation)
    (hC : Attributes s (.finished request)) :
    Sound (((s.recorded answer).toOption.elim s s.withInvoices).ended answer) := by
  have hmem := Table.mem_of_find? hanswer
  have hsound := h.answers answer hmem
  have hcreates : answer.sent.creates = true := by rw [hsent]; rfl
  have hcreated := hsound.made job company calculation hsent
  obtain ⟨document, hid, htells⟩ := hsound.told hcreates
  have hrecorded : s.recorded answer = finishCreate s.program job company answer.result := by
    rw [InvoiceSite.recorded, hsent]
  cases hfinish : finishCreate s.program job company answer.result with
  | error refusal =>
      rw [hrecorded, hfinish]
      refine h.ended hmem fun other _ _ hlive => ?_
      -- a complete answer would have been stored
      obtain ⟨hcomplete, hfree⟩ := hC answer hanswer hcreates hlive
      obtain ⟨invoices, hok⟩ := finishCreate_of_complete job company htells hcomplete (hid ▸ hfree)
      rw [hfinish] at hok
      cases hok
  | ok invoices =>
      rw [hrecorded, hfinish]
      obtain ⟨row, hinsert, hjob, hnamed⟩ := finishCreate_stores hfinish
      have hkey : row.xeroId = answer.invoice := by
        have hall := htells
        simp only [DocumentResult.tellsOf, Bool.and_eq_true] at hall
        have hsame := hall.1.1.1.1.2
        rw [hnamed, Option.all_some, decide_eq_true_iff] at hsame
        exact hsame.trans hid
      have hrows : ∀ other, other ∈ invoices.rows ↔ other ∈ s.program.invoices.rows ∨ other = row := fun other =>
        Table.mem_insert? hinsert
      have hfree := Table.find?_eq_none_iff.mp (Table.find?_of_insert? hinsert)
      have hwritten : Sound (s.withInvoices invoices) := by
        refine h.withInvoices answer.invoice (fun other hne => ?_) (fun other hother hsame job' hjob' => ?_)
          (fun job' _ hold => ?_) (.inr (.inl ⟨answer, hmem, rfl⟩))
        · refine (hrows other).trans (or_iff_left ?_)
          rintro rfl
          exact hne hkey
        · rcases (hrows other).mp hother with hother | rfl
          · exact absurd (hsame.trans hkey.symm) (hfree other hother)
          · obtain rfl : job = job' := Option.some.inj (hjob.symm.trans hjob')
            exact hcreated
        · obtain ⟨old, hold, hsame, -⟩ := hold
          exact absurd (hsame.trans hkey.symm) (hfree old hold)
      refine hwritten.ended hmem fun other _ hother _ => ⟨row, (hrows row).mpr (.inr rfl), hkey, ?_⟩
      rw [hjob, h.job_unique hcreated hother]

lemma Sound.finishedRemoval {invoice : ℕ} {void : Bool} (h : Sound s)
    (hanswer : s.answers.find? request = some answer) (hsent : answer.sent = .removal invoice void) :
    Sound (((s.recorded answer).toOption.elim s s.withInvoices).ended answer) := by
  have hmem := Table.mem_of_find? hanswer
  obtain ⟨hinvoice, final, hfinal, hdead⟩ := (h.answers answer hmem).removed invoice void hsent
  have hrecorded : s.recorded answer = finishDelete s.program invoice void answer.result := by
    rw [InvoiceSite.recorded, hsent]
  have hends : ∀ {t : InvoiceSite}, Sound t → t.answers = s.answers → Sound (t.ended answer) := by
    intro t ht hsame
    refine ht.ended (hsame ▸ hmem) fun job hcreates => ?_
    rw [hsent] at hcreates
    cases hcreates
  cases hfinish : finishDelete s.program invoice void answer.result with
  | error refusal =>
      rw [hrecorded, hfinish]
      exact hends h rfl
  | ok invoices =>
      rw [hrecorded, hfinish]
      refine hends (t := s.withInvoices invoices) ?_ rfl
      rcases finishDelete_eq_ok hfinish with ⟨stored, hstored, rfl⟩ | rfl
      · have hkey : stored.xeroId = invoice := Table.key_of_find? hstored
        have hrow : ∀ row, row ∈ (s.program.invoices.put { stored with status := .voided }).rows →
            row.xeroId = invoice → row.job = stored.job := by
          intro row hrow hid
          rcases Table.mem_put.mp hrow with ⟨-, hne⟩ | ⟨rfl, -⟩
          · exact absurd (hid.trans hkey.symm) hne
          · rfl
        refine h.withInvoices invoice (fun row hne => ?_) (fun row hmem hid job hjob => ?_) (fun job hlive _ => ?_)
          (.inr (.inl ⟨answer, hmem, hinvoice⟩))
        · refine Table.mem_put.trans ⟨?_, fun hrow => .inl ⟨hrow, fun hsame => hne (hsame.trans hkey)⟩⟩
          rintro (⟨hrow, -⟩ | ⟨rfl, -⟩)
          · exact hrow
          · exact absurd hkey hne
        · rw [hrow row hmem hid] at hjob
          exact hkey ▸ h.linked stored (Table.mem_of_find? hstored) job hjob
        · rw [live_eq_false_of_find? hfinal hdead] at hlive
          cases hlive
      · refine h.withInvoices invoice (fun row hne => ?_) (fun row hmem hid _ _ => ?_) (fun job hlive _ => ?_)
          (.inr (.inl ⟨answer, hmem, hinvoice⟩))
        · exact Table.mem_erase.trans (and_iff_left hne)
        · exact absurd hid (Table.mem_erase.mp hmem).2
        · rw [live_eq_false_of_find? hfinal hdead] at hlive
          cases hlive

lemma exists_answer_of_removing {invoice : ℕ} (h : Sound s) (hremoving : s.removing invoice = true) :
    ∃ answer ∈ s.answers.rows, answer.invoice = invoice := by
  obtain ⟨answer, hanswer, hremoves⟩ := List.any_eq_true.mp hremoving
  refine ⟨answer, hanswer, ?_⟩
  cases hsent : answer.sent with
  | creation job company result =>
      rw [hsent] at hremoves
      cases hremoves
  | removal removed void =>
      rw [hsent] at hremoves
      exact ((h.answers answer hanswer).removed removed void hsent).1.trans (of_decide_eq_true hremoves)

lemma mem_turned_of_current {invoice : ℕ} (hcurrent : s.documents.find? turn.document.id = some turn.document)
    (hin : invoice ∈ s.unsynced.filter (· ≠ turn.document.id)) : invoice ∈ (s.turned turn).unsynced := by
  unfold InvoiceSite.turned
  simp only [if_pos hcurrent]
  exact hin

lemma mem_turned_of_stale {invoice : ℕ} (hstale : s.documents.find? turn.document.id ≠ some turn.document)
    (hin : invoice ∈ turn.document.id :: s.unsynced) : invoice ∈ (s.turned turn).unsynced := by
  unfold InvoiceSite.turned
  simp only [if_neg hstale]
  exact hin

/-- **A turn of the sync.** -/
lemma Sound.synced {id : ℕ} (h : Sound s) (hturn : s.turns.find? id = some turn)
    (hC : Attributes s (.synced id company)) :
    Sound ((s.withInvoices (syncEntity s.program.invoices turn.document company)).turned turn) := by
  by_cases hcurrent : s.documents.find? turn.document.id = some turn.document
  · have hwritten : Sound (s.withInvoices (syncEntity s.program.invoices turn.document company)) := by
      unfold syncEntity
      split
      · exact h
      · exact h.transformInvoice (.inr hcurrent)
    refine (hwritten.cleared turn.document.id fun row hrow hid hjob hidle => ?_).congr rfl rfl rfl rfl
      fun invoice hin => ?_
    · have hbilled : s.billedInXero turn.document.id = turn.document.billed := by
        rw [InvoiceSite.billedInXero, hcurrent]
        rfl
      change row ∈ (syncEntity s.program.invoices turn.document company).rows at hrow
      change row.billed = s.billedInXero turn.document.id
      rw [hbilled]
      by_cases hdeleted : turn.document.status = .deleted
      · -- the row of a skipped invoice counts for nothing
        rw [syncEntity, if_pos hdeleted] at hrow
        have hfind : s.program.invoices.find? turn.document.id = some row := hid ▸ Table.find?_of_mem hrow
        have hstatus : row.status.isValid = false := by
          by_contra hvalid
          obtain ⟨answer, hanswer, hsame⟩ := exists_answer_of_removing h
            (hC turn hturn hdeleted row hfind hjob (by simpa using hvalid))
          exact hidle answer hanswer hsame
        rw [Invoice.billed, hstatus, InvoiceInXero.billed, hdeleted]
        rfl
      · rw [syncEntity, if_neg hdeleted] at hrow
        exact (mem_transformInvoice hrow hid).2
    · exact mem_turned_of_current hcurrent hin
  · have htouched : Sound (s.touched turn.document.id) :=
      h.congr rfl rfl rfl rfl fun _ hin => List.mem_cons_of_mem _ hin
    have hwritten : Sound ((s.touched turn.document.id).withInvoices
        (syncEntity s.program.invoices turn.document company)) := by
      unfold syncEntity
      split
      · exact htouched
      · exact htouched.transformInvoice (.inl List.mem_cons_self)
    exact hwritten.congr rfl rfl rfl rfl fun invoice hin => mem_turned_of_stale hcurrent hin

lemma Sound.webhook {invoice : ℕ} (h : Sound s) (hdocument : s.documents.find? invoice = some document) :
    Sound (s.withInvoices (syncSingleInvoice s.program.invoices document)) := by
  obtain rfl : document.id = invoice := Table.key_of_find? hdocument
  unfold syncSingleInvoice
  split
  · exact h
  · exact h.transformInvoice (.inr hdocument)

lemma send_invoices {program program' : Invoicing} {called : Except Refusal Sent}
    (hsend : program.send request called = some program') : program'.invoices = program.invoices := by
  cases called with
  | error refusal => rw [Option.some.inj hsend]
  | ok sent =>
      obtain ⟨inFlight, -, rfl⟩ := Option.map_eq_some_iff.mp hsend
      rfl

lemma Sound.createAccepted {after : InvoiceSite} {calculation : InvoiceCalculationResult} {result : DocumentResult}
    (h : Sound s) (hmake : s.make document = some after) (htells : result.tellsOf document = true)
    (hanswer : { after with created := (document.id, job) :: after.created }.withAnswer
      ⟨request, .creation job company calculation, document.id, result⟩ = some s') : Sound s' := by
  obtain ⟨documents, hinsert, rfl⟩ := Option.map_eq_some_iff.mp hmake
  refine (h.make hmake).accept ?_ (fun other hcreated => ?_) htells hanswer
  · exact (Table.find?_insert?_self hinsert).symm ▸ rfl
  · have hdocumented := h.documented _ hcreated
    rw [Table.find?_of_insert? hinsert] at hdocumented
    cases hdocumented

lemma Sound.removalAccepted {after : InvoiceSite} {invoice : ℕ} {void : Bool} {old : InvoiceInXero}
    {result : DocumentResult} (h : Sound s) (hold : s.documents.find? invoice = some old)
    (hrewrite : s.rewrite { old with status := if void then .voided else .deleted } = some after)
    (hanswer : after.withAnswer ⟨request, .removal invoice void, invoice, result⟩ = some s') : Sound s' := by
  refine (h.rewrite hrewrite).withAnswer ⟨fun _ _ _ hsent => (by cases hsent), fun hcreates => (by cases hcreates), ?_⟩ hanswer
  rintro _ _ ⟨⟩
  obtain ⟨_, _, rfl⟩ := Option.map_eq_some_iff.mp hrewrite
  obtain rfl : old.id = invoice := Table.key_of_find? hold
  refine ⟨rfl, { old with status := if void then .voided else .deleted }, Table.find?_put_self hold, ?_⟩
  cases void <;> rfl

/-- **Every step keeps what holds.** -/
lemma Sound.step {step : SiteStep} (h : Sound s) (hC : Attributes s step) (hstep : invoiceSite s step = some s') :
    Sound s' := by
  cases step with
  | createCalled request job mode percent amount | deleteCalled request job invoice voidApproved =>
      obtain ⟨program, hsend, rfl⟩ := Option.map_eq_some_iff.mp hstep
      exact h.congr (send_invoices hsend) rfl rfl rfl fun _ hin => hin
  | createAccepted request document result =>
      obtain ⟨row, -, hrest⟩ := Option.bind_eq_some_iff.mp hstep
      cases hsent : row.sent with
      | removal invoice void =>
          rw [hsent] at hrest
          cases hrest
      | creation job company calculation =>
          simp only [hsent] at hrest
          obtain ⟨⟨htells, -⟩, hrest⟩ := Option.ite_none_right_eq_some.mp hrest
          obtain ⟨after, hmake, hanswer⟩ := Option.bind_eq_some_iff.mp hrest
          exact h.createAccepted hmake htells hanswer
  | removalAccepted request result =>
      obtain ⟨row, -, hrest⟩ := Option.bind_eq_some_iff.mp hstep
      cases hsent : row.sent with
      | creation job company calculation =>
          rw [hsent] at hrest
          cases hrest
      | removal invoice void =>
          simp only [hsent] at hrest
          obtain ⟨-, hrest⟩ := Option.ite_none_right_eq_some.mp hrest
          obtain ⟨old, hold, hrest⟩ := Option.bind_eq_some_iff.mp hrest
          obtain ⟨after, hrewrite, hanswer⟩ := Option.bind_eq_some_iff.mp hrest
          exact h.removalAccepted hold hrewrite hanswer
  | refused request =>
      obtain ⟨row, -, rfl⟩ := Option.map_eq_some_iff.mp hstep
      exact h.congr rfl rfl rfl rfl fun _ hin => hin
  | finished request =>
      obtain ⟨answer, hanswer, rfl⟩ := Option.map_eq_some_iff.mp hstep
      cases hsent : answer.sent with
      | creation job company result => exact h.finishedCreate hanswer hsent hC
      | removal invoice void => exact h.finishedRemoval hanswer hsent
  | failed request =>
      obtain ⟨answer, hanswer, rfl⟩ := Option.map_eq_some_iff.mp hstep
      refine h.ended (Table.mem_of_find? hanswer) fun job hcreates _ hlive => ?_
      rw [hC answer hanswer hcreates] at hlive
      cases hlive
  | invoiceFetched turn invoice =>
      obtain ⟨document, -, hrest⟩ := Option.bind_eq_some_iff.mp hstep
      obtain ⟨turns, -, hend⟩ := Option.bind_eq_some_iff.mp hrest
      obtain rfl := Option.some.inj hend
      exact h.congr rfl rfl rfl rfl fun _ hin => hin
  | synced turn company =>
      obtain ⟨found, hfound, rfl⟩ := Option.map_eq_some_iff.mp hstep
      exact h.synced hfound hC
  | syncFailed turn =>
      obtain rfl := Option.some.inj hstep
      exact h.congr rfl rfl rfl rfl fun _ hin => hin
  | webhook invoice =>
      obtain ⟨document, hdocument, rfl⟩ := Option.map_eq_some_iff.mp hstep
      exact h.webhook hdocument
  | madeInXero document => exact h.make hstep
  | changedInXero document => exact h.rewrite hstep
  | edited jobs companies theme =>
      obtain rfl := Option.some.inj hstep
      exact h.congr rfl rfl rfl rfl fun _ hin => hin

end Step

/-! ## Whole runs -/

/-- Every invoice created for the job is settled: no local step of it is outstanding, and the sync has seen Xero and
the row as they are. -/
structure InvoiceSite.Settled (s : InvoiceSite) (job : ℕ) : Prop where
  idle : ∀ invoice, (invoice, job) ∈ s.created → ∀ answer ∈ s.answers.rows, answer.invoice ≠ invoice
  synced : ∀ invoice, (invoice, job) ∈ s.created → invoice ∉ s.unsynced

section Totals

variable {s t : InvoiceSite} {job : ℕ}

lemma priorTotal_eq (invoices : Table Invoice.xeroId) (job : ℕ) :
    getPriorValidInvoiceTotal invoices job =
      ((invoices.rows.filter fun row => row.job = some job).map Invoice.billed).sum := by
  have hrows : (invoices.rows.filter fun row => row.job = some job).map Invoice.billed =
      (invoices.rows.filter fun row => row.job = some job).map (Invoice.validFor job) := by
    refine List.map_congr_left fun row hrow => ?_
    have hjob : row.job = some job := by simpa using List.of_mem_filter hrow
    simp [Invoice.billed, Invoice.validFor, hjob]
  rw [hrows, sum_filter_of_zero fun row _ hother => ?_]
  · rfl
  · have hjob : row.job ≠ some job := by simpa using hother
    exact if_neg fun hboth => hjob hboth.1

/-- **Settled, the totals agree.** -/
lemma Sound.totals (h : Sound s) (hsettled : s.Settled job) :
    getPriorValidInvoiceTotal s.program.invoices job = s.liveTotal job := by
  have hrow : ∀ row ∈ s.program.invoices.rows.filter fun row => row.job = some job,
      row ∈ s.program.invoices.rows ∧ row.job = some job := by
    intro row hrow
    exact ⟨List.mem_of_mem_filter hrow, by simpa using List.of_mem_filter hrow⟩
  have hcreated : ∀ invoice, invoice ∈ (s.created.filter fun made => made.2 = job).map Prod.fst ↔
      (invoice, job) ∈ s.created := by
    intro invoice
    constructor
    · intro hin
      obtain ⟨⟨other, job'⟩, hmade, rfl⟩ := List.mem_map.mp hin
      obtain rfl : job' = job := by simpa using List.of_mem_filter hmade
      exact List.mem_of_mem_filter hmade
    · intro hin
      exact List.mem_map.mpr ⟨(invoice, job), List.mem_filter.mpr ⟨hin, decide_eq_true rfl⟩, rfl⟩
  calc getPriorValidInvoiceTotal s.program.invoices job
      = ((s.program.invoices.rows.filter fun row => row.job = some job).map Invoice.billed).sum := priorTotal_eq _ _
    _ = (((s.program.invoices.rows.filter fun row => row.job = some job).map Invoice.xeroId).map
          s.billedInXero).sum := by
        rw [List.map_map]
        congr 1
        refine List.map_congr_left fun row hmem => ?_
        obtain ⟨hin, hjob⟩ := hrow row hmem
        have hmade := h.linked row hin job hjob
        exact h.accurate row hin (by rw [hjob]; exact Option.some_ne_none job) (hsettled.synced _ hmade)
          (hsettled.idle _ hmade)
    _ = (((s.created.filter fun made => made.2 = job).map Prod.fst).map s.billedInXero).sum := by
        refine sum_of_subset (s.program.invoices.nodup.sublist (List.filter_sublist.map _))
          (h.single.sublist (List.filter_sublist.map _)) (fun invoice hin => ?_) fun invoice hin hnone => ?_
        · obtain ⟨row, hmem, rfl⟩ := List.mem_map.mp hin
          exact (hcreated _).mpr (h.linked row (hrow row hmem).1 job (hrow row hmem).2)
        · have hmade := (hcreated invoice).mp hin
          by_contra hbilled
          have hlive : s.live invoice = true := by
            unfold InvoiceSite.billedInXero InvoiceInXero.billed at hbilled
            unfold InvoiceSite.live
            cases hdocument : s.documents.find? invoice with
            | none => simp [hdocument] at hbilled
            | some document => simp_all
          rcases h.recorded invoice job hmade hlive with ⟨answer, hanswer, -, hsame⟩ | ⟨row, hmem, hid, hjob⟩
          · exact hsettled.idle invoice hmade answer hanswer hsame
          · exact hnone (List.mem_map.mpr ⟨row, List.mem_filter.mpr ⟨hmem, decide_eq_true hjob⟩, hid⟩)
    _ = s.liveTotal job := by rw [List.map_map]; rfl

/-- The program and Xero before any request: a row with a job is one the program created, every one it created and
Xero still has is the row of its job, and what no sync is to see agrees. -/
structure InvoiceSite.Ready (s : InvoiceSite) : Prop where
  linked : ∀ row ∈ s.program.invoices.rows, ∀ job, row.job = some job → (row.xeroId, job) ∈ s.created
  single : (s.created.map Prod.fst).Nodup
  documented : ∀ made ∈ s.created, (s.documents.find? made.1).isSome = true
  idle : s.answers.rows = []
  recorded : ∀ made ∈ s.created, s.live made.1 = true → s.RowOf made.1 made.2
  accurate : ∀ row ∈ s.program.invoices.rows, row.job ≠ none → row.xeroId ∉ s.unsynced →
    row.billed = s.billedInXero row.xeroId

lemma InvoiceSite.Ready.sound (h : s.Ready) : Sound s where
  linked := h.linked
  single := h.single
  documented := h.documented
  answers := by simp [h.idle]
  recorded invoice job hcreated hlive := .inr (h.recorded (invoice, job) hcreated hlive)
  accurate row hrow hjob hsynced _ := h.accurate row hrow hjob hsynced

/-- **An invoice in Xero counts against its job**: over every order of the requests, of the failures of their local
steps, of syncs and of what is done in Xero, where a create whose invoice lives stores its row and the sync skips no
deleted invoice that still counts here, the job's total is what lives in Xero of what was created for it as soon as
the sync has seen it all. -/
theorem prior_total_is_live_total {schedule : List SiteStep} (hs : s.Ready)
    (hC : invoiceSite.AllMeet Attributes s schedule) (hrun : invoiceSite.run s schedule = some t)
    (hsettled : t.Settled job) : getPriorValidInvoiceTotal t.program.invoices job = t.liveTotal job :=
  (Machine.run_keeps_of_meet (I := Sound) (fun _ _ _ h hC hstep => h.step hC hstep) hs.sound hC hrun).totals hsettled

end Totals

/-- An invoice of Xero's over an amount without tax, as it has just been made. -/
def gateInXero (id : ℕ) (amount : Column 10 2) : InvoiceInXero where
  id
  number := "INV-0001"
  status := .submitted
  subTotal := amount
  totalTax := .zero
  total := amount
  amountDue := amount

/-- Xero's answer to the create of such an invoice. -/
def gateMade (id : ℕ) (amount : Column 10 2) : DocumentResult where
  success := true
  externalId := some id
  number := some "INV-0001"
  documentStatus := none
  rawResponse := ⟨some amount.val, some 0, some amount.val, some amount.val⟩
  error := none
  statusCode := none

/-- Xero's answer to a deletion. -/
def gateDeleted (id : ℕ) : DocumentResult where
  success := true
  externalId := some id
  number := none
  documentStatus := some .deleted
  rawResponse := ⟨none, none, none, none⟩
  error := none
  statusCode := none

/-- The job's program and an empty Xero. -/
def gateSite : InvoiceSite where
  program := gateStart
  documents := .empty
  created := []
  answers := .empty
  turns := .empty
  unsynced := []

lemma gateSite_ready : gateSite.Ready where
  linked _ hrow := absurd hrow List.not_mem_nil
  single := List.nodup_nil
  documented _ hmade := absurd hmade List.not_mem_nil
  idle := rfl
  recorded _ hmade := absurd hmade List.not_mem_nil
  accurate _ hrow := absurd hrow List.not_mem_nil

def half : Column 10 2 := ⟨500, by decide +kernel⟩

lemma fits_thousand : Fits 10 2 1000 := by decide +kernel

def whole : Column 10 2 := ⟨1000, fits_thousand⟩

/-- The two halves of the quote, the first of them deleted again. -/
def halves : List SiteStep :=
  [.createCalled 1 7 .invoicePercent (some 50) none, .createAccepted 1 (gateInXero 500 half) (gateMade 500 half),
    .finished 1, .invoiceFetched 9 500, .synced 9 1, .createCalled 2 7 .invoiceFull none none,
    .createAccepted 2 (gateInXero 501 half) (gateMade 501 half), .finished 2, .deleteCalled 3 7 500 false,
    .removalAccepted 3 (gateDeleted 500), .finished 3, .invoiceFetched 9 500, .synced 9 1, .invoiceFetched 9 501,
    .synced 9 1]

/-- The second half is all that lives, here and in Xero. -/
theorem prior_total_is_live_total_halves :
    ∃ t, invoiceSite.run gateSite halves = some t ∧
      getPriorValidInvoiceTotal t.program.invoices 7 = t.liveTotal 7 ∧ t.liveTotal 7 = 500 := by
  have hrun : (invoiceSite.run gateSite halves).any (fun t =>
      decide (t.answers.rows = []) && decide (t.unsynced = []) && decide (t.liveTotal 7 = 500)) = true := by
    decide +kernel
  obtain ⟨t, ht, hend⟩ := (Option.any_eq_true _ _).mp hrun
  simp only [Bool.and_eq_true, decide_eq_true_iff] at hend
  obtain ⟨⟨hidle, hsynced⟩, hlive⟩ := hend
  have hC : invoiceSite.AllMeet Attributes gateSite halves := by decide +kernel
  exact ⟨t, ht, prior_total_is_live_total gateSite_ready hC ht ⟨by simp [hidle], by simp [hsynced]⟩, hlive⟩

/-- The sync mirrors an invoice over the whole quote before its row is stored; the create fails and is retried. -/
def retried : List SiteStep :=
  [.createCalled 1 7 .invoiceFull none none, .createAccepted 1 (gateInXero 500 whole) (gateMade 500 whole),
    .invoiceFetched 9 500, .synced 9 1, .finished 1, .invoiceFetched 9 500, .synced 9 1,
    .createCalled 2 7 .invoiceFull none none, .createAccepted 2 (gateInXero 501 whole) (gateMade 501 whole),
    .finished 2, .invoiceFetched 9 501, .synced 9 1]

/-- **The mirrored row has no job, and the create cannot store its own**: the retry bills the quote of 1000 again, and
of the 2000 that live in Xero only 1000 count. -/
theorem mirrored_before_the_row :
    ¬ ∀ s t schedule job, s.Ready → invoiceSite.run s schedule = some t → t.Settled job →
      getPriorValidInvoiceTotal t.program.invoices job = t.liveTotal job := by
  intro hall
  have hrun : (invoiceSite.run gateSite retried).any (fun t =>
      decide (t.answers.rows = []) && decide (t.unsynced = []) && decide (t.liveTotal 7 = 2000) &&
        decide (getPriorValidInvoiceTotal t.program.invoices 7 = 1000)) = true := by decide +kernel
  obtain ⟨t, ht, hend⟩ := (Option.any_eq_true _ _).mp hrun
  simp only [Bool.and_eq_true, decide_eq_true_iff] at hend
  obtain ⟨⟨⟨hidle, hsynced⟩, hlive⟩, hprior⟩ := hend
  have heq := hall gateSite t retried 7 gateSite_ready ht ⟨by simp [hidle], by simp [hsynced]⟩
  rw [hlive, hprior] at heq
  norm_num at heq

end Docketworks.Accounting
