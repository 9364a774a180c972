import Docketworks.Accounting.InvoicingRuns

/-!
# Invoicing what remains of a job

The customer balance of the Finish Job screen (`apps/accounting/services/finish_job_summary.py`), the
`fully_invoiced` flag (`recalculate_job_invoicing_state` of `apps/job/services/job_service.py`), and the
invoice that bills the remainder.

* `buildFinishJobSummary` — every figure of the screen; the value of the job is rounded to the cent here.
* `recalculatedFullyInvoiced` — the flag, from the value as it is.
* `RemainderSettles` — the invoice of the remainder bills the figure shown and settles the job.
* `remainder_settles_iff` — that is so exactly if the job is worth a number of cents, or is invoiced up to
  its value already.
* `remainder_leaves_a_fraction` — a job of a third of an hour that is settled on the screen and owes by
  its flag.
-/

namespace Docketworks.Accounting

open Library

/-! ## The screen -/

structure FinishJobSummary where
  jobValueExclGst : ℚ
  validInvoicedExclGst : ℚ
  outstandingInvoicedInclGst : ℚ
  remainingToInvoiceExclGst : ℚ
  remainingGst : ℚ
  remainingToInvoiceInclGst : ℚ
  totalToPayInclGst : ℚ
  overInvoicedExclGst : ℚ
deriving DecidableEq

/-- What Xero still expects to be paid on an invoice, if it is a valid one of the job `id`. -/
def Invoice.dueFor (id : ℕ) (invoice : Invoice) : ℚ :=
  if invoice.job = some id ∧ invoice.status.isValid then invoice.amountDue.val else 0

def getOutstandingInvoicedInclTax (invoices : Table Invoice.xeroId) (job : ℕ) : ℚ :=
  invoices.sum (Invoice.dueFor job)

/-- `build_finish_job_summary`, at the tax rate of the company. -/
def buildFinishJobSummary (gstRate : Column 5 4) (invoices : Table Invoice.xeroId) (job : Job) :
    FinishJobSummary :=
  let jobValue := roundHalfAway 2 (getJobInvoicingBasis job).targetTotal
  let invoiced := getPriorValidInvoiceTotal invoices job.id
  let outstanding := getOutstandingInvoicedInclTax invoices job.id
  let remainingExcl := max (jobValue - invoiced) 0
  let overInvoiced := max (invoiced - jobValue) 0
  let remainingGst := roundHalfAway 2 (remainingExcl * gstRate.val)
  let remainingIncl := remainingExcl + remainingGst
  { jobValueExclGst := jobValue
    validInvoicedExclGst := invoiced
    outstandingInvoicedInclGst := outstanding
    remainingToInvoiceExclGst := remainingExcl
    remainingGst := remainingGst
    remainingToInvoiceInclGst := remainingIncl
    totalToPayInclGst := outstanding + remainingIncl
    overInvoicedExclGst := overInvoiced }

/-! ## The flag -/

/-- A valid invoice of the job. -/
def Invoice.countsFor (id : ℕ) (invoice : Invoice) : Bool :=
  decide (invoice.job = some id) && invoice.status.isValid

/-- What `recalculate_job_invoicing_state` stores. -/
def recalculatedFullyInvoiced (invoices : Table Invoice.xeroId) (job : Job) : Bool :=
  invoices.rows.any (Invoice.countsFor job.id) &&
    decide ((getJobInvoicingBasis job).targetTotal ≤ getPriorValidInvoiceTotal invoices job.id)

/-! ## The remainder -/

def remainderMode (job : Job) : InvoiceMode :=
  match job.pricingMethodology with
  | .fixedPrice => .invoiceFull
  | .timeMaterials => .invoiceCostsToDate

/-- The job is settled: the screen shows nothing left and nothing too much, the flag is set, and no
remainder can be billed. -/
structure Settled (gstRate : Column 5 4) (invoices : Table Invoice.xeroId) (job : Job) : Prop where
  nothingRemains : (buildFinishJobSummary gstRate invoices job).remainingToInvoiceExclGst = 0
  nothingOver : (buildFinishJobSummary gstRate invoices job).overInvoicedExclGst = 0
  flagged : recalculatedFullyInvoiced invoices job = true
  refused : ∀ percent amount, ∃ refusal,
    calculateInvoiceAmount invoices job (remainderMode job) percent amount = .error refusal

/-- Invoicing the remainder bills the figure on the screen, is refused where that is zero, and settles the
job once Xero's answer, the amount to the cent, is stored. -/
structure RemainderSettles (gstRate : Column 5 4) (s : Invoicing) (job : Job) : Prop where
  billsFigure : 0 < (buildFinishJobSummary gstRate s.invoices job).remainingToInvoiceExclGst →
    ∀ percent amount, ∃ result,
      calculateInvoiceAmount s.invoices job (remainderMode job) percent amount = .ok result ∧
      result.calculatedAmount = (buildFinishJobSummary gstRate s.invoices job).remainingToInvoiceExclGst
  refusesZero : (buildFinishJobSummary gstRate s.invoices job).remainingToInvoiceExclGst = 0 →
    ∀ percent amount, ∃ refusal,
      calculateInvoiceAmount s.invoices job (remainderMode job) percent amount = .error refusal
  settles : ∀ percent amount result company document invoices',
    calculateInvoiceAmount s.invoices job (remainderMode job) percent amount = .ok result →
    document.rawResponse.subTotal = some (roundHalfAway 2 result.calculatedAmount) →
    finishCreate s job.id company document = .ok invoices' → Settled gstRate invoices' job

section Figures

variable {gstRate : Column 5 4} {s : Invoicing} {job : Job} {invoices invoices' : Table Invoice.xeroId}
  {percent amount : Option ℚ} {result : InvoiceCalculationResult} {b p : ℚ}

lemma calculate_remainder (invoices : Table Invoice.xeroId) (job : Job) (percent amount : Option ℚ) :
    calculateInvoiceAmount invoices job (remainderMode job) percent amount =
      calculated (getJobInvoicingBasis job) (remainderMode job)
        (getPriorValidInvoiceTotal invoices job.id) percent amount
        (.ok ((getJobInvoicingBasis job).targetTotal - getPriorValidInvoiceTotal invoices job.id)) := by
  unfold calculateInvoiceAmount remainderMode
  cases job.pricingMethodology <;> rfl

lemma remainder_eq_ok
    (h : calculateInvoiceAmount invoices job (remainderMode job) percent amount = .ok result) :
    getPriorValidInvoiceTotal invoices job.id < (getJobInvoicingBasis job).targetTotal ∧
      result.calculatedAmount =
        (getJobInvoicingBasis job).targetTotal - getPriorValidInvoiceTotal invoices job.id := by
  rw [calculate_remainder] at h
  obtain ⟨hraw, hpos, -, -⟩ := calculated_eq_ok h
  have hamount := (Except.ok.inj hraw).symm
  rw [hamount] at hpos
  exact ⟨sub_pos.mp hpos, hamount⟩

lemma remainder_accepted
    (h : getPriorValidInvoiceTotal invoices job.id < (getJobInvoicingBasis job).targetTotal) :
    ∃ result, calculateInvoiceAmount invoices job (remainderMode job) percent amount = .ok result := by
  rw [calculate_remainder]
  simp only [calculated, bind_eq_ok, validatePositive_eq_ok, pure_eq_ok]
  exact ⟨_, _, rfl, _, ⟨sub_pos.mpr h, rfl⟩, rfl⟩

lemma remainder_refused
    (h : (getJobInvoicingBasis job).targetTotal ≤ getPriorValidInvoiceTotal invoices job.id) :
    ∃ refusal, calculateInvoiceAmount invoices job (remainderMode job) percent amount =
      .error refusal := by
  cases hanswer : calculateInvoiceAmount invoices job (remainderMode job) percent amount with
  | ok result => exact absurd (remainder_eq_ok hanswer).1 (not_lt.mpr h)
  | error refusal => exact ⟨refusal, rfl⟩

lemma round_le_of_le (hp : IsDecimal 2 p) (h : b ≤ p) : roundHalfAway 2 b ≤ p :=
  (monotone_roundHalfAway 2 h).trans_eq (roundHalfAway_of_isDecimal hp)

lemma prior_finishCreate {company : ℕ} {document : DocumentResult}
    (hcents : IsDecimal 2 (getJobInvoicingBasis job).targetTotal)
    (hanswer : calculateInvoiceAmount s.invoices job (remainderMode job) percent amount = .ok result)
    (htotal : document.rawResponse.subTotal = some (roundHalfAway 2 result.calculatedAmount))
    (hfinish : finishCreate s job.id company document = .ok invoices') :
    invoices'.rows.any (Invoice.countsFor job.id) = true ∧
      getPriorValidInvoiceTotal invoices' job.id = (getJobInvoicingBasis job).targetTotal := by
  obtain ⟨invoice, total, hinsert, hjob, hstatus, hsubTotal, hstore⟩ := finishCreate_eq_ok hfinish
  have hamount := (remainder_eq_ok hanswer).2
  have hrest : IsDecimal 2 result.calculatedAmount := by
    rw [hamount]
    exact hcents.sub (isDecimal_getPriorValidInvoiceTotal _ _)
  have hbilled : invoice.totalExclTax.val = result.calculatedAmount := by
    rw [Column.val_of_store? hstore, ← Option.some.inj (htotal.symm.trans hsubTotal),
      roundHalfAway_of_isDecimal isDecimal_roundHalfAway, roundHalfAway_of_isDecimal hrest]
  have hcounts : invoice.countsFor job.id = true := by
    simp [Invoice.countsFor, hjob, hstatus, InvoiceStatus.isValid]
  have hvalid : invoice.validFor job.id = invoice.totalExclTax.val := by
    simp [Invoice.validFor, hjob, hstatus, InvoiceStatus.isValid]
  refine ⟨List.any_eq_true.mpr ⟨invoice, (Table.mem_insert? hinsert).mpr (.inr rfl), hcounts⟩, ?_⟩
  have hsum := Table.sum_insert? hinsert (Invoice.validFor job.id)
  rw [hvalid, hbilled, hamount] at hsum
  unfold getPriorValidInvoiceTotal at hsum ⊢
  rw [hsum]
  ring

end Figures

/-! ## Exactly when the remainder settles the job -/

/-- **Cents settle a job.**  The invoice of the remainder bills the figure shown and settles the job exactly
if the job is worth a whole number of cents, or is invoiced up to its value already. -/
theorem remainder_settles_iff (gstRate : Column 5 4) (s : Invoicing) (job : Job) :
    RemainderSettles gstRate s job ↔
      IsDecimal 2 (getJobInvoicingBasis job).targetTotal ∨
        (getJobInvoicingBasis job).targetTotal ≤ getPriorValidInvoiceTotal s.invoices job.id := by
  have hprior := isDecimal_getPriorValidInvoiceTotal s.invoices job.id
  constructor
  · intro h
    by_contra hneither
    obtain ⟨hfraction, hleft⟩ := not_or.mp hneither
    obtain ⟨result, haccepted⟩ : ∃ result,
        calculateInvoiceAmount s.invoices job (remainderMode job) none none = .ok result :=
      remainder_accepted (not_le.mp hleft)
    -- what is billed is the exact difference, what is shown the rounded one
    by_cases hshown : 0 < (buildFinishJobSummary gstRate s.invoices job).remainingToInvoiceExclGst
    · obtain ⟨billed, hbilled, hfigure⟩ := h.billsFigure hshown none none
      rw [(remainder_eq_ok hbilled).2] at hfigure
      have hround : (buildFinishJobSummary gstRate s.invoices job).remainingToInvoiceExclGst =
          roundHalfAway 2 (getJobInvoicingBasis job).targetTotal -
            getPriorValidInvoiceTotal s.invoices job.id :=
        max_eq_left (lt_max_iff.mp hshown |>.resolve_right (lt_irrefl 0)).le
      rw [hround, sub_left_inj] at hfigure
      exact hfraction (hfigure ▸ isDecimal_roundHalfAway)
    · have hzero : (buildFinishJobSummary gstRate s.invoices job).remainingToInvoiceExclGst = 0 :=
        le_antisymm (not_lt.mp hshown) (le_max_right _ _)
      obtain ⟨refusal, hrefused⟩ := h.refusesZero hzero none none
      rw [haccepted] at hrefused
      cases hrefused
  · rintro (hcents | hinvoiced)
    · have hshown : (buildFinishJobSummary gstRate s.invoices job).remainingToInvoiceExclGst =
          max ((getJobInvoicingBasis job).targetTotal -
            getPriorValidInvoiceTotal s.invoices job.id) 0 := by
        simp only [buildFinishJobSummary, roundHalfAway_of_isDecimal hcents]
      refine
        { billsFigure := fun hpos percent amount => ?_
          refusesZero := fun hzero percent amount => ?_
          settles := ?_ }
      · rw [hshown] at hpos ⊢
        have hleft := lt_max_iff.mp hpos |>.resolve_right (lt_irrefl 0)
        obtain ⟨result, haccepted⟩ := remainder_accepted (sub_pos.mp hleft)
        exact ⟨result, haccepted, by rw [(remainder_eq_ok haccepted).2, max_eq_left hleft.le]⟩
      · rw [hshown] at hzero
        exact remainder_refused (sub_nonpos.mp (max_eq_right_iff.mp hzero))
      · intro percent amount result company document invoices' hanswer htotal hfinish
        obtain ⟨hcounts, hsum⟩ := prior_finishCreate hcents hanswer htotal hfinish
        exact
          { nothingRemains := by
              simp only [buildFinishJobSummary, roundHalfAway_of_isDecimal hcents, hsum, sub_self, max_self]
            nothingOver := by
              simp only [buildFinishJobSummary, roundHalfAway_of_isDecimal hcents, hsum, sub_self, max_self]
            flagged := by simp [recalculatedFullyInvoiced, hcounts, hsum]
            refused := fun percent amount => remainder_refused hsum.ge }
    · have hshown : (buildFinishJobSummary gstRate s.invoices job).remainingToInvoiceExclGst = 0 :=
        max_eq_right (sub_nonpos.mpr (round_le_of_le hprior hinvoiced))
      refine
        { billsFigure := fun hpos => absurd hshown hpos.ne'
          refusesZero := fun _ percent amount => remainder_refused hinvoiced
          settles := ?_ }
      intro percent amount result company document invoices' hanswer
      exact absurd (remainder_eq_ok hanswer).1 (not_lt.mpr hinvoiced)

/-! ## A third of an hour -/

def thirdOfAnHour : Job where
  id := 8
  company := some 1
  pricingMethodology := .timeMaterials
  priceCap := none
  latestQuote := []
  latestActual := [⟨⟨333 / 1000, by decide +kernel⟩, ⟨10004 / 100, by decide +kernel⟩⟩]
  paid := false

def fifteenPercent : Column 5 4 := ⟨15 / 100, by decide +kernel⟩

/-- The screen shows 33.31 to invoice, and the mode that bills the remainder asks Xero for 33.31332. -/
theorem remainder_leaves_a_fraction :
    (buildFinishJobSummary fifteenPercent gateStart.invoices thirdOfAnHour).remainingToInvoiceExclGst =
        3331 / 100 ∧
      (calculateInvoiceAmount gateStart.invoices thirdOfAnHour (remainderMode thirdOfAnHour) none
        none).toOption.map InvoiceCalculationResult.calculatedAmount = some (3331332 / 100000) ∧
      ¬RemainderSettles fifteenPercent gateStart thirdOfAnHour := by
  have hshown : (buildFinishJobSummary fifteenPercent gateStart.invoices
      thirdOfAnHour).remainingToInvoiceExclGst = 3331 / 100 := by decide +kernel
  have hbilled : (calculateInvoiceAmount gateStart.invoices thirdOfAnHour (remainderMode thirdOfAnHour)
      none none).toOption.map InvoiceCalculationResult.calculatedAmount =
      some (3331332 / 100000) := by decide +kernel
  refine ⟨hshown, hbilled, fun h => ?_⟩
  obtain ⟨result, hresult, hfigure⟩ := h.billsFigure (by rw [hshown]; norm_num) none none
  rw [hresult] at hbilled
  have hamount : result.calculatedAmount = 3331332 / 100000 := Option.some.inj hbilled
  rw [hfigure, hshown] at hamount
  norm_num at hamount

end Docketworks.Accounting
