import Docketworks.Core.Errors
import Docketworks.Library.Column
import Docketworks.Library.Table

/-!
# What an invoice bills

`apps/accounting/services/invoice_calculation.py`: the value of a job, what has been invoiced of it, and
the amount each mode would bill.

* `getJobInvoicingBasis` — a fixed-price job is worth its quote; other work its actual revenue, limited by
  a price cap.
* `getPriorValidInvoiceTotal` — the invoices of the job that are neither voided nor deleted.
* `calculateInvoiceAmount` — the amount in a mode, or the refusal the dialog shows.
* `calculateFixedPrice_fits` — on a fixed-price job no mode goes past what the quote has left.

**Design.**  `Decimal` arithmetic is exact here.  A percentage of more than 28 digits would be rounded by
the source; nothing below depends on a digit of it.
-/

namespace Docketworks.Accounting

open Library

/-! ## Jobs and invoices -/

inductive PricingMethodology where
  | timeMaterials
  | fixedPrice
deriving DecidableEq, Repr

/-- The figures of a cost line that make up its revenue. -/
structure PricedLine where
  quantity : Column 10 3
  unitRev : Column 10 2
deriving DecidableEq

def PricedLine.totalRev (line : PricedLine) : ℚ := line.quantity.val * line.unitRev.val

def totalRevenue (lines : List PricedLine) : ℚ := (lines.map PricedLine.totalRev).sum

/-- The columns of a job its invoicing reads, with the lines of its latest quote and actual. -/
structure Job where
  id : ℕ
  company : Option ℕ
  pricingMethodology : PricingMethodology
  priceCap : Option (Column 10 2)
  latestQuote : List PricedLine
  latestActual : List PricedLine
  paid : Bool
deriving DecidableEq

inductive InvoiceStatus where
  | draft
  | submitted
  | authorised
  | deleted
  | voided
  | paid
deriving DecidableEq, Repr

/-- `INVOICE_VALID_STATUSES` lists every other status. -/
def InvoiceStatus.isValid : InvoiceStatus → Bool
  | .voided | .deleted => false
  | .draft | .submitted | .authorised | .paid => true

/-- The columns of an invoice this code reads and writes; `xeroId` is unique. -/
structure Invoice where
  xeroId : ℕ
  job : Option ℕ
  company : ℕ
  number : String
  status : InvoiceStatus
  totalExclTax : Column 10 2
  tax : Column 10 2
  totalInclTax : Column 10 2
  amountDue : Column 10 2
deriving DecidableEq

/-! ## The calculation -/

/-- `XeroInvoiceCreateIn.mode`. -/
inductive InvoiceMode where
  | invoiceFull
  | invoiceCostsToDate
  | invoicePercent
  | invoiceAmount
deriving DecidableEq, Repr

/-- Which cost set says what a job is worth. -/
inductive TargetBasis where
  | quote
  | actualRevenue
deriving DecidableEq, Repr

structure JobInvoicingBasis where
  basis : TargetBasis
  targetTotal : ℚ
deriving DecidableEq

structure InvoiceCalculationResult where
  mode : InvoiceMode
  targetBasis : TargetBasis
  targetTotal : ℚ
  priorInvoicedTotal : ℚ
  requestedPercent : Option ℚ
  requestedAmount : Option ℚ
  calculatedAmount : ℚ
deriving DecidableEq

def getJobInvoicingBasis (job : Job) : JobInvoicingBasis :=
  match job.pricingMethodology with
  | .fixedPrice => { basis := .quote, targetTotal := totalRevenue job.latestQuote }
  | .timeMaterials =>
      let actualRevenue := totalRevenue job.latestActual
      match job.priceCap with
      | none => { basis := .actualRevenue, targetTotal := actualRevenue }
      | some cap => { basis := .actualRevenue, targetTotal := min actualRevenue cap.val }

/-- What an invoice counts towards the job `id`. -/
def Invoice.validFor (id : ℕ) (invoice : Invoice) : ℚ :=
  if invoice.job = some id ∧ invoice.status.isValid then invoice.totalExclTax.val else 0

def getPriorValidInvoiceTotal (invoices : Table Invoice.xeroId) (job : ℕ) : ℚ :=
  invoices.sum (Invoice.validFor job)

def validatePositive (amount : ℚ) : Except Refusal ℚ :=
  if amount ≤ 0 then
    .error (.value "Calculated invoice amount ($%(amount)s) must be positive. The job may already be fully invoiced.")
  else .ok amount

/-- The amount of a mode on a fixed-price job, before it is checked to be positive. -/
def fixedPriceAmount (targetTotal priorInvoiced : ℚ) (mode : InvoiceMode)
    (percent amount : Option ℚ) : Except Refusal ℚ :=
  match mode with
  | .invoiceFull => .ok (targetTotal - priorInvoiced)
  | .invoicePercent =>
      match percent with
      | none => .error (.value "percent is required for invoice_percent mode.")
      | some pct =>
          if 100 < pct then .error (.value "percent must be 100 or less, got %(percent)s.")
          else .ok (targetTotal * pct / 100 - priorInvoiced)
  | .invoiceAmount =>
      match amount with
      | none => .error (.value "amount is required for invoice_amount mode.")
      | some calculated =>
          if targetTotal - priorInvoiced < calculated then
            .error (.value "Invoice amount $%(amount)s exceeds remaining quote balance of $%(remaining)s.")
          else .ok calculated
  | .invoiceCostsToDate => .error (.value "Invalid mode '%(mode)s' for fixed-price job.")

def timeMaterialsAmount (targetTotal priorInvoiced : ℚ) (mode : InvoiceMode)
    (amount : Option ℚ) : Except Refusal ℚ :=
  match mode with
  | .invoiceCostsToDate => .ok (targetTotal - priorInvoiced)
  | .invoiceAmount =>
      match amount with
      | none => .error (.value "amount is required for invoice_amount mode.")
      | some calculated => .ok calculated
  | .invoicePercent => .error (.value "invoice_percent is not supported for T&M jobs.")
  | .invoiceFull =>
      .error (.value "invoice_full is not supported for T&M jobs. Use invoice_costs_to_date instead.")

/-- The result of either handler: its amount, checked, with what it was derived from. -/
def calculated (basis : JobInvoicingBasis) (mode : InvoiceMode) (priorInvoiced : ℚ)
    (percent amount : Option ℚ) (raw : Except Refusal ℚ) :
    Except Refusal InvoiceCalculationResult := do
  let amountToBill ← raw
  let calculatedAmount ← validatePositive amountToBill
  pure
    { mode, calculatedAmount
      targetBasis := basis.basis
      targetTotal := basis.targetTotal
      priorInvoicedTotal := priorInvoiced
      requestedPercent := percent
      requestedAmount := amount }

def calculateFixedPrice (basis : JobInvoicingBasis) (mode : InvoiceMode) (priorInvoiced : ℚ)
    (percent amount : Option ℚ) : Except Refusal InvoiceCalculationResult :=
  calculated basis mode priorInvoiced percent amount
    (fixedPriceAmount basis.targetTotal priorInvoiced mode percent amount)

def calculateTimeMaterials (basis : JobInvoicingBasis) (mode : InvoiceMode) (priorInvoiced : ℚ)
    (percent amount : Option ℚ) : Except Refusal InvoiceCalculationResult :=
  calculated basis mode priorInvoiced percent amount
    (timeMaterialsAmount basis.targetTotal priorInvoiced mode amount)

def calculateInvoiceAmount (invoices : Table Invoice.xeroId) (job : Job) (mode : InvoiceMode)
    (percent amount : Option ℚ) : Except Refusal InvoiceCalculationResult :=
  let priorInvoiced := getPriorValidInvoiceTotal invoices job.id
  let basis := getJobInvoicingBasis job
  match job.pricingMethodology with
  | .fixedPrice => calculateFixedPrice basis mode priorInvoiced percent amount
  | .timeMaterials => calculateTimeMaterials basis mode priorInvoiced percent amount

/-! ## What a calculation answers -/

variable {invoices : Table Invoice.xeroId} {job : Job} {basis : JobInvoicingBasis} {mode : InvoiceMode}
  {percent amount : Option ℚ} {raw : Except Refusal ℚ} {prior target q : ℚ}
  {result : InvoiceCalculationResult}

lemma validatePositive_eq_ok : validatePositive q = .ok target ↔ 0 < q ∧ q = target := by
  unfold validatePositive
  by_cases hq : q ≤ 0
  · simp [hq]
  · simp [hq, not_le.mp hq]

lemma calculated_eq_ok (h : calculated basis mode prior percent amount raw = .ok result) :
    raw = .ok result.calculatedAmount ∧ 0 < result.calculatedAmount ∧
      result.targetTotal = basis.targetTotal ∧ result.priorInvoicedTotal = prior := by
  simp only [calculated, bind_eq_ok, validatePositive_eq_ok, pure_eq_ok] at h
  obtain ⟨_, hraw, _, ⟨hpos, rfl⟩, rfl⟩ := h
  exact ⟨hraw, hpos, rfl, rfl⟩

lemma fixedPriceAmount_le (htarget : 0 ≤ target)
    (h : fixedPriceAmount target prior mode percent amount = .ok q) : q ≤ target - prior := by
  unfold fixedPriceAmount at h
  cases mode with
  | invoiceFull => exact (Except.ok.inj h).symm.le
  | invoiceCostsToDate => cases h
  | invoicePercent =>
      rcases percent with _ | pct
      · cases h
      · simp only at h
        split at h
        · cases h
        · rename_i hpct
          have hshare : target * pct / 100 ≤ target := by
            rw [div_le_iff₀ (by norm_num)]
            exact mul_le_mul_of_nonneg_left (not_lt.mp hpct) htarget
          rw [← Except.ok.inj h]
          linarith
  | invoiceAmount =>
      rcases amount with _ | calculated
      · cases h
      · simp only at h
        split at h
        · cases h
        · rename_i hle
          rw [← Except.ok.inj h]
          exact not_lt.mp hle

/-- **The balance check.**  On a fixed-price job the amount is positive, and no more than the quote has
left beside what had been invoiced when it was calculated. -/
theorem calculateFixedPrice_fits (hfixed : job.pricingMethodology = .fixedPrice)
    (hquote : 0 ≤ totalRevenue job.latestQuote)
    (h : calculateInvoiceAmount invoices job mode percent amount = .ok result) :
    0 < result.calculatedAmount ∧
      result.calculatedAmount ≤ totalRevenue job.latestQuote - result.priorInvoicedTotal := by
  simp only [calculateInvoiceAmount, getJobInvoicingBasis, hfixed] at h
  obtain ⟨hraw, hpos, -, hprior⟩ := calculated_eq_ok h
  rw [hprior]
  exact ⟨hpos, fixedPriceAmount_le hquote hraw⟩

/-! ## Digits -/

lemma isDecimal_totalRevenue (lines : List PricedLine) : IsDecimal 5 (totalRevenue lines) := by
  refine IsDecimal.list_sum fun q hq => ?_
  obtain ⟨line, -, rfl⟩ := List.mem_map.mp hq
  exact line.quantity.isDecimal.mul line.unitRev.isDecimal

lemma isDecimal_validFor (id : ℕ) (invoice : Invoice) : IsDecimal 2 (invoice.validFor id) := by
  unfold Invoice.validFor
  split
  · exact invoice.totalExclTax.isDecimal
  · exact isDecimal_zero

lemma isDecimal_getPriorValidInvoiceTotal (invoices : Table Invoice.xeroId) (id : ℕ) :
    IsDecimal 2 (getPriorValidInvoiceTotal invoices id) := by
  refine IsDecimal.list_sum fun q hq => ?_
  obtain ⟨invoice, -, rfl⟩ := List.mem_map.mp hq
  exact isDecimal_validFor id invoice

end Docketworks.Accounting
