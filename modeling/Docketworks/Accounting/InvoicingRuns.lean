import Docketworks.Accounting.Invoicing

/-!
# A quote is not invoiced twice

The valid invoices of one fixed-price job, over every order in which requests are served.

* `AccountingProvider.Bills` — what Xero makes of a unit amount: cents, halves up, and no less for more.
* `NothingInvoicedSince` — when a new invoice is stored, the job's valid invoices come to no more than when
  its amount was calculated.
* `invoiced_within_quote_after_every_run` — while that holds at every storing, the valid invoices of the job
  stay within its quote, if the quote itself does not gain by rounding to cents.
* `two_creations_invoice_the_quote_twice` — two requests served side by side both bill the whole quote.
-/

namespace Docketworks.Accounting

open Library

/-- The line an invoice is made with has the quantity 1; Xero rounds its amount to the cent, halves up,
for every amount of up to eight digits and thousandths of a cent, and does not bill less for more. -/
structure AccountingProvider.Bills (xero : AccountingProvider) (subTotal : ℚ → ℚ) : Prop where
  answers : ∀ request amount total, (xero.createInvoice request amount).rawResponse.subTotal = some total →
    total = subTotal amount
  mono : Monotone subTotal
  rounds : ∀ amount, IsDecimal 5 amount → 0 ≤ amount → amount < 10 ^ 8 →
    subTotal amount = roundHalfAway 2 amount

/-- The job's valid invoices come to no more than when the creation to be stored was calculated. -/
def NothingInvoicedSince (job : ℕ) (s : Invoicing) (event : InvoicingEvent) : Prop :=
  match event with
  | .answered request =>
      match (s.inFlight.find? request).map Request.sent with
      | some (.creation owner _ calculated) =>
          owner = job → getPriorValidInvoiceTotal s.invoices job ≤ calculated.priorInvoicedTotal
      | _ => True
  | _ => True

instance (job : ℕ) (s : Invoicing) (event : InvoicingEvent) :
    Decidable (NothingInvoicedSince job s event) := by
  unfold NothingInvoicedSince
  split
  · split <;> infer_instance
  · infer_instance

/-- The job is stored with its quote, its invoices are for nothing less than zero and within the quote,
and every creation of it on its way was calculated to fit. -/
structure Invoicing.Quoted (job : Job) (s : Invoicing) : Prop where
  stored : s.jobs.find? job.id = some job
  nonneg : ∀ invoice ∈ s.invoices.rows, invoice.job = some job.id → 0 ≤ invoice.totalExclTax.val
  within : getPriorValidInvoiceTotal s.invoices job.id ≤ totalRevenue job.latestQuote
  fits : ∀ row ∈ s.inFlight.rows, ∀ company result, row.sent = .creation job.id company result →
    0 < result.calculatedAmount ∧
      result.calculatedAmount ≤ totalRevenue job.latestQuote - result.priorInvoicedTotal

variable {xero : AccountingProvider} {subTotal : ℚ → ℚ} {s s' : Invoicing} {job : Job} {sent : Sent}
  {row : Request} {id company : ℕ} {invoices' : Table Invoice.xeroId} {invoice : Invoice}
  {amount sum : ℚ}

/-! ## What the requests do -/

lemma found_eq_ok {α : Type} {row : Option α} {a : α} {missing : Refusal} :
    found row missing = .ok a ↔ row = some a := by
  cases row <;> simp [found]

lemma xeroCreateInvoice_eq_ok {mode : InvoiceMode} {percent amount : Option ℚ}
    (h : xeroCreateInvoice s id mode percent amount = .ok sent) :
    ∃ job company result, s.jobs.find? id = some job ∧
      calculateInvoiceAmount s.invoices job mode percent amount = .ok result ∧
      sent = .creation job.id company result := by
  simp only [xeroCreateInvoice, bind_eq_ok, found_eq_ok] at h
  obtain ⟨job, hjob, result, hresult, company, -, -, -, -, -, -, -, hsent⟩ := h
  exact ⟨job, company.id, result, hjob, hresult, (Except.ok.inj hsent).symm⟩

lemma xeroDeleteInvoice_eq_ok {invoice : ℕ} {voidApproved : Bool}
    (h : xeroDeleteInvoice s id invoice voidApproved = .ok sent) :
    ∃ invoice void, sent = .removal invoice void := by
  simp only [xeroDeleteInvoice, bind_eq_ok] at h
  obtain ⟨-, -, invoice, -, -, -, -, -, -, -, -, -, -, -, hsent⟩ := h
  exact ⟨_, _, (Except.ok.inj hsent).symm⟩

lemma finishCreate_eq_ok {result : DocumentResult}
    (h : finishCreate s id company result = .ok invoices') :
    ∃ invoice total, s.invoices.insert? invoice = some invoices' ∧ invoice.job = some id ∧
      invoice.status = .submitted ∧ result.rawResponse.subTotal = some total ∧
      Column.store? total = some invoice.totalExclTax := by
  simp only [finishCreate, bind_eq_ok, storedTotal, found_eq_ok] at h
  obtain ⟨-, -, _, -, _, -, _, ⟨total, htotal, hstore⟩, _, -, _, -, _, -, hinsert⟩ := h
  exact ⟨_, total, hinsert, rfl, rfl, htotal, hstore⟩

lemma finishDelete_eq_ok {number : ℕ} {void : Bool} {result : DocumentResult}
    (h : finishDelete s number void result = .ok invoices') :
    (∃ stored, s.invoices.find? number = some stored ∧
      invoices' = s.invoices.put { stored with status := .voided }) ∨
    invoices' = s.invoices.erase number := by
  simp only [finishDelete, bind_eq_ok] at h
  obtain ⟨-, -, -, -, h⟩ := h
  split at h
  · simp only [bind_eq_ok, found_eq_ok] at h
    obtain ⟨stored, hstored, hput⟩ := h
    exact .inl ⟨stored, hstored, (Except.ok.inj hput).symm⟩
  · exact .inr (Except.ok.inj h).symm

/-! ## What an invoice comes to -/

lemma validFor_nonneg (h : invoice.job = some id → 0 ≤ invoice.totalExclTax.val) :
    0 ≤ invoice.validFor id := by
  unfold Invoice.validFor
  split
  · rename_i hvalid
    exact h hvalid.1
  · rfl

lemma Invoicing.Quoted.prior_nonneg (h : s.Quoted job) :
    0 ≤ getPriorValidInvoiceTotal s.invoices job.id := by
  refine List.sum_nonneg fun q hq => ?_
  obtain ⟨invoice, hmem, rfl⟩ := List.mem_map.mp hq
  exact validFor_nonneg (h.nonneg invoice hmem)

/-- **One invoice.**  An amount that fits what is left is stored as one that fits, and is not negative. -/
lemma stored_fits (hxero : xero.Bills subTotal) {limit : ℚ} {c : Column 10 2} {request : ℕ} {total : ℚ}
    (hlimit : IsDecimal 5 limit) (hround : roundHalfAway 2 limit ≤ limit) (hsum : IsDecimal 2 sum)
    (hsum0 : 0 ≤ sum) (hpos : 0 < amount) (hle : amount ≤ limit - sum)
    (htotal : (xero.createInvoice request amount).rawResponse.subTotal = some total)
    (hstore : Column.store? total = some c) : 0 ≤ c.val ∧ c.val ≤ limit - sum := by
  have hrest : IsDecimal 5 (limit - sum) := hlimit.sub (hsum.mono (by norm_num))
  have hzero : subTotal 0 = 0 := by
    rw [hxero.rounds 0 isDecimal_zero le_rfl (by norm_num), roundHalfAway_of_isDecimal isDecimal_zero]
  have hbilled : 0 ≤ subTotal amount := hzero ▸ hxero.mono hpos.le
  rw [Column.val_of_store? hstore, hxero.answers _ _ _ htotal]
  refine ⟨roundHalfAway_nonneg hbilled, ?_⟩
  by_cases hlarge : limit - sum < 10 ^ 8
  · have hdown : roundHalfAway 2 (limit - sum) ≤ limit - sum :=
      roundHalfAway_sub_le hround hsum hsum0 (by linarith)
    calc
      roundHalfAway 2 (subTotal amount) ≤ roundHalfAway 2 (subTotal (limit - sum)) :=
        monotone_roundHalfAway 2 (hxero.mono hle)
      _ = roundHalfAway 2 (limit - sum) := by
        rw [hxero.rounds _ hrest (by linarith) hlarge, roundHalfAway_of_isDecimal isDecimal_roundHalfAway]
      _ ≤ limit - sum := hdown
  · -- the column has no room for more than is left
    have hroom := c.val_lt
    rw [Column.val_of_store? hstore, hxero.answers _ _ _ htotal] at hroom
    exact hroom.le.trans (not_lt.mp hlarge)

/-! ## One request -/

section Steps

variable (hxero : xero.Bills subTotal) (hfixed : job.pricingMethodology = .fixedPrice)
  (hround : roundHalfAway 2 (totalRevenue job.latestQuote) ≤ totalRevenue job.latestQuote)

lemma Invoicing.Quoted.send (h : s.Quoted job) {request : ℕ} {called : Except Refusal Sent}
    (hstep : s.send request called = some s')
    (hfits : ∀ company result, called = .ok (.creation job.id company result) →
      0 < result.calculatedAmount ∧
        result.calculatedAmount ≤ totalRevenue job.latestQuote - result.priorInvoicedTotal) :
    s'.Quoted job := by
  unfold Invoicing.send at hstep
  split at hstep
  · exact Option.some.inj hstep ▸ h
  · rw [Option.map_eq_some_iff] at hstep
    obtain ⟨inFlight, hinsert, rfl⟩ := hstep
    refine { stored := h.stored, nonneg := h.nonneg, within := h.within, fits := ?_ }
    intro row hrow company result hsent
    rcases (Table.mem_insert? hinsert).mp hrow with hold | rfl
    · exact h.fits row hold company result hsent
    · exact hfits company result (by rw [← hsent])

include hxero hround in
lemma Invoicing.Quoted.finish (h : s.Quoted job) {request : ℕ}
    (hrow : s.inFlight.find? request = some row)
    (hsince : NothingInvoicedSince job.id s (.answered request))
    (hfinish : s.finish xero row = .ok invoices') :
    (∀ invoice ∈ invoices'.rows, invoice.job = some job.id → 0 ≤ invoice.totalExclTax.val) ∧
      getPriorValidInvoiceTotal invoices' job.id ≤ totalRevenue job.latestQuote := by
  unfold Invoicing.finish at hfinish
  split at hfinish
  · rename_i owner company calculated hsent
    obtain ⟨invoice, total, hinsert, hjob, -, htotal, hstore⟩ := finishCreate_eq_ok hfinish
    have hsum := Table.sum_insert? hinsert (Invoice.validFor job.id)
    by_cases howner : owner = job.id
    · subst howner
      simp only [NothingInvoicedSince, hrow, Option.map_some, hsent, true_implies] at hsince
      obtain ⟨hpos, hle⟩ := h.fits row (Table.mem_of_find? hrow) company calculated hsent
      have hleft : calculated.calculatedAmount ≤
          totalRevenue job.latestQuote - getPriorValidInvoiceTotal s.invoices job.id := by linarith
      obtain ⟨hc0, hc⟩ := stored_fits hxero (isDecimal_totalRevenue _) hround
        (isDecimal_getPriorValidInvoiceTotal _ _) h.prior_nonneg hpos hleft htotal hstore
      refine ⟨fun other hother hown => ?_, ?_⟩
      · rcases (Table.mem_insert? hinsert).mp hother with hold | rfl
        · exact h.nonneg other hold hown
        · exact hc0
      · have hcounted : invoice.validFor job.id ≤ invoice.totalExclTax.val := by
          unfold Invoice.validFor
          split
          · exact le_rfl
          · exact hc0
        unfold getPriorValidInvoiceTotal at hc ⊢
        linarith
    · have hother : ¬invoice.job = some job.id := by
        rw [hjob]
        exact fun heq => howner (Option.some.inj heq)
      refine ⟨fun other hmem hown => ?_, ?_⟩
      · rcases (Table.mem_insert? hinsert).mp hmem with hold | rfl
        · exact h.nonneg other hold hown
        · exact absurd hown hother
      · have hcounted : invoice.validFor job.id = 0 := by simp [Invoice.validFor, hother]
        unfold getPriorValidInvoiceTotal
        rw [hsum, hcounted, add_zero]
        exact h.within
  · rename_i number void hsent
    rcases finishDelete_eq_ok hfinish with ⟨stored, hstored, rfl⟩ | rfl
    · have hmem := Table.mem_of_find? hstored
      have hkey := Table.key_of_find? hstored
      refine ⟨fun other hother hown => ?_, ?_⟩
      · rcases Table.mem_put.mp hother with ⟨hold, -⟩ | ⟨rfl, -⟩
        · exact h.nonneg other hold hown
        · exact h.nonneg stored hmem hown
      · have hsum := @Table.sum_put _ _ _ _ _ { stored with status := .voided } stored _ _
          (by rw [← hstored, ← hkey]) (Invoice.validFor job.id)
        have hvoided : Invoice.validFor job.id { stored with status := .voided } = 0 := by
          simp [Invoice.validFor, InvoiceStatus.isValid]
        have hwas := validFor_nonneg (h.nonneg stored hmem)
        have hwithin := h.within
        unfold getPriorValidInvoiceTotal at hwithin ⊢
        rw [hsum, hvoided]
        linarith
    · refine ⟨fun other hother hown => h.nonneg other (Table.mem_erase.mp hother).1 hown, ?_⟩
      have hwithin := h.within
      cases hstored : s.invoices.find? number with
      | none => rwa [Table.erase_of_find?_none hstored]
      | some stored =>
          have hsum := Table.sum_erase hstored (Invoice.validFor job.id)
          have hwas := validFor_nonneg (h.nonneg stored (Table.mem_of_find? hstored))
          unfold getPriorValidInvoiceTotal at hwithin ⊢
          linarith

include hxero hfixed hround in
theorem step_keeps_quoted (event : InvoicingEvent) (h : s.Quoted job)
    (hsince : NothingInvoicedSince job.id s event) (hstep : invoicing xero s event = some s') :
    s'.Quoted job := by
  cases event with
  | createCalled request number mode percent amount =>
      refine h.send hstep fun company result hcalled => ?_
      obtain ⟨stored, _, _, hstored, hcalc, hsent⟩ := xeroCreateInvoice_eq_ok hcalled
      obtain ⟨hid, -, rfl⟩ := Sent.creation.inj hsent
      have hquote : 0 ≤ totalRevenue job.latestQuote := h.prior_nonneg.trans h.within
      -- the job calculated is the one stored under the id it is sent with
      have hjob : stored = job := by
        have hfound := Table.find?_of_mem (Table.mem_of_find? hstored)
        rw [← hid, h.stored] at hfound
        exact (Option.some.inj hfound).symm
      subst hjob
      exact calculateFixedPrice_fits hfixed hquote hcalc
  | deleteCalled request number invoice voidApproved =>
      refine h.send hstep fun company result hcalled => ?_
      obtain ⟨_, _, hsent⟩ := xeroDeleteInvoice_eq_ok hcalled
      cases hsent
  | answered request =>
      simp only [invoicing, Option.map_eq_some_iff] at hstep
      obtain ⟨row, hrow, rfl⟩ := hstep
      have hfits : ∀ other ∈ (s.inFlight.erase request).rows, ∀ company result,
          other.sent = .creation job.id company result → 0 < result.calculatedAmount ∧
            result.calculatedAmount ≤ totalRevenue job.latestQuote - result.priorInvoicedTotal :=
        fun other hother => h.fits other (Table.mem_erase.mp hother).1
      cases hfinish : s.finish xero row with
      | error refusal => exact ⟨h.stored, h.nonneg, h.within, hfits⟩
      | ok invoices' =>
          obtain ⟨hnonneg, hwithin⟩ := h.finish hxero hround hrow hsince hfinish
          exact ⟨h.stored, hnonneg, hwithin, hfits⟩

end Steps

/-! ## Every run -/

/-- **A fixed-price job within its quote stays within it.**  No creation of it is on its way at the start;
then creations in any mode, voids and deletions are served in any order. -/
theorem invoiced_within_quote_after_every_run {xero : AccountingProvider} {subTotal : ℚ → ℚ}
    (hxero : xero.Bills subTotal) {s t : Invoicing} {job : Job} {events : List InvoicingEvent}
    (hjob : s.jobs.find? job.id = some job) (hfixed : job.pricingMethodology = .fixedPrice)
    (hcents : roundHalfAway 2 (totalRevenue job.latestQuote) ≤ totalRevenue job.latestQuote)
    (hidle : ∀ row ∈ s.inFlight.rows, ∀ company result, row.sent ≠ .creation job.id company result)
    (hnonneg : ∀ invoice ∈ s.invoices.rows, invoice.job = some job.id → 0 ≤ invoice.totalExclTax.val)
    (hwithin : getPriorValidInvoiceTotal s.invoices job.id ≤ totalRevenue job.latestQuote)
    (hsince : (invoicing xero).AllMeet (NothingInvoicedSince job.id) s events)
    (hrun : (invoicing xero).run s events = some t) :
    getPriorValidInvoiceTotal t.invoices job.id ≤ totalRevenue job.latestQuote := by
  have hstart : s.Quoted job :=
    ⟨hjob, hnonneg, hwithin, fun row hrow company result hsent =>
      absurd hsent (hidle row hrow company result)⟩
  exact (Machine.run_keeps_of_meet
    (fun _ event _ h hmeet hstep => step_keeps_quoted hxero hfixed hcents event h hmeet hstep)
    hstart hsince hrun).within

/-! ## The quote billed twice -/

/-- A Xero that bills amounts to the cent, without tax, and takes every removal. -/
def plainXero : AccountingProvider where
  createInvoice request amount :=
    let total := roundHalfAway 2 amount
    { success := true, externalId := some request, number := some "INV-0001", documentStatus := none,
      rawResponse :=
        { subTotal := some total, totalTax := some 0, total := some total, amountDue := some total },
      error := none, statusCode := none }
  deleteInvoice _ invoice void :=
    { success := true, externalId := some invoice, number := none,
      documentStatus := some (if void then .voided else .deleted),
      rawResponse := { subTotal := none, totalTax := none, total := none, amountDue := none },
      error := none, statusCode := none }

lemma plainXero_bills : plainXero.Bills (roundHalfAway 2) where
  answers _ _ _ h := (Option.some.inj h).symm
  mono := monotone_roundHalfAway 2
  rounds _ _ _ _ := rfl

/-- A fixed-price job quoted at 1000. -/
def gateJob : Job where
  id := 7
  company := some 1
  pricingMethodology := .fixedPrice
  priceCap := none
  latestQuote := [⟨⟨1, by decide +kernel⟩, ⟨1000, by decide +kernel⟩⟩]
  latestActual := []
  paid := false

/-- The job's company is in Xero, nothing is invoiced and no request is on its way. -/
def gateStart : Invoicing where
  jobs := ⟨[gateJob], by decide⟩
  companies := ⟨[⟨1, "Gates Ltd", some "c-1"⟩], by decide⟩
  invoices := Table.empty
  salesBrandingThemeId := some "theme"
  inFlight := Table.empty

def sideBySide : List InvoicingEvent :=
  [.createCalled 1 7 .invoiceFull none none, .createCalled 2 7 .invoiceFull none none, .answered 1,
    .answered 2]

def halfDeleted : List InvoicingEvent :=
  [.createCalled 1 7 .invoicePercent (some 50) none, .answered 1,
    .createCalled 2 7 .invoiceFull none none, .deleteCalled 3 7 1 false, .answered 3, .answered 2]

/-- **Two requests side by side.**  Both are calculated before either is stored, so each bills the whole
quote. -/
theorem two_creations_invoice_the_quote_twice :
    ∃ t, (invoicing plainXero).run gateStart sideBySide = some t ∧
      ¬getPriorValidInvoiceTotal t.invoices gateJob.id ≤ totalRevenue gateJob.latestQuote := by
  have hrun : (((invoicing plainXero).run gateStart sideBySide).any fun t =>
      decide (¬getPriorValidInvoiceTotal t.invoices gateJob.id ≤ totalRevenue gateJob.latestQuote)) =
      true := by decide +kernel
  obtain ⟨t, ht, hpast⟩ := (Option.any_eq_true _ _).mp hrun
  exact ⟨t, ht, of_decide_eq_true hpast⟩

/-- The rest of a quote is billed within it, whatever became of the first half. -/
theorem half_deleted_invoiced_within_quote :
    ∃ t, (invoicing plainXero).run gateStart halfDeleted = some t ∧
      getPriorValidInvoiceTotal t.invoices gateJob.id ≤ totalRevenue gateJob.latestQuote := by
  obtain ⟨t, ht⟩ := Option.isSome_iff_exists.mp
    (show ((invoicing plainXero).run gateStart halfDeleted).isSome = true by decide +kernel)
  refine ⟨t, ht, invoiced_within_quote_after_every_run plainXero_bills (by decide +kernel) rfl
    (by decide +kernel) (fun row hrow => absurd hrow List.not_mem_nil)
    (fun invoice hmem => absurd hmem List.not_mem_nil) (by decide +kernel) (by decide +kernel) ht⟩

end Docketworks.Accounting
