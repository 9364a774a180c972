import Docketworks.Accounting.InvoiceCalculation
import Docketworks.Library.Machine

/-!
# Creating and removing invoices

The endpoints `xero_create_invoice` and `xero_delete_invoice` of `apps/xero/api.py` with
`XeroInvoiceManager` of `apps/xero/documents/invoice.py`.  A request is in two parts, before and after its
one write to Xero, and any other request may be served between them.

* `xeroCreateInvoice` — calculate the amount and check what can be checked before Xero.
* `finishCreate` — store the invoice Xero has made.
* `xeroDeleteInvoice`, `localRefusal`, `finishDelete` — the same for a deletion or a void.
* `invoicing` — all requests in any order; a refused one leaves the state as it is.

Xero is a parameter: what it answers to each request.  The history note, the workshop PDF, the job event
and the job's own `fully_invoiced` are written after the invoice and read by nothing here.
-/

namespace Docketworks.Accounting

open Library

/-! ## Xero -/

/-- The totals of a document, as Xero's answer carries them. -/
structure RawTotals where
  subTotal : Option ℚ
  totalTax : Option ℚ
  total : Option ℚ
  amountDue : Option ℚ
deriving DecidableEq

structure DocumentResult where
  success : Bool
  externalId : Option ℕ
  number : Option String
  documentStatus : Option InvoiceStatus
  rawResponse : RawTotals
  error : Option String
  statusCode : Option ℕ
deriving DecidableEq

/-- `AccountingProvider`: what Xero answers to the write of each request. -/
structure AccountingProvider where
  /-- An invoice with one line of quantity 1 at this unit amount. -/
  createInvoice : ℕ → ℚ → DocumentResult
  /-- Set the invoice of this id to `DELETED`, or to `VOIDED`. -/
  deleteInvoice : ℕ → ℕ → Bool → DocumentResult

/-! ## The state -/

/-- The columns of a company this code reads. -/
structure Company where
  id : ℕ
  name : String
  xeroContactId : Option String
deriving DecidableEq

/-- A request that waits for Xero's answer. -/
inductive Sent where
  | creation (job company : ℕ) (calculated : InvoiceCalculationResult)
  | removal (invoice : ℕ) (void : Bool)
deriving DecidableEq

structure Request where
  id : ℕ
  sent : Sent
deriving DecidableEq

/-- The tables, the one setting that is read, and the requests in flight. -/
structure Invoicing where
  jobs : Table Job.id
  companies : Table Company.id
  invoices : Table Invoice.xeroId
  /-- `CompanyDefaults.xero_sales_branding_theme_id`. -/
  salesBrandingThemeId : Option String
  inFlight : Table Request.id

variable (s : Invoicing)

/-! ## Creating -/

/-- A row the request needs. -/
def found {α : Type} (row : Option α) (missing : Refusal) : Except Refusal α :=
  match row with
  | some row => .ok row
  | none => .error missing

/-- A check that refuses the request. -/
def refuseIf (p : Prop) [Decidable p] (refusal : Refusal) : Except Refusal Unit :=
  if p then .error refusal else .ok ()

def validateCompany (company : Company) : Except Refusal Unit := do
  refuseIf (company.name = "") (.value "Company data is not valid for Xero")
  refuseIf (company.xeroContactId.getD "" = "")
    (.value
      "The company %(company)s isn't in Xero yet. Add it in Xero, or update from Xero if it is already there.")

/-- `xero_create_invoice` and `create_document` up to the write to Xero. -/
def xeroCreateInvoice (job : ℕ) (mode : InvoiceMode) (percent amount : Option ℚ) :
    Except Refusal Sent := do
  let job ← found (s.jobs.find? job) (.doesNotExist "Job")
  let result ← calculateInvoiceAmount s.invoices job mode percent amount
  let company ← found (job.company.bind s.companies.find?)
    (.value "Job has no client company; set one before invoicing.")
  validateCompany company
  refuseIf job.paid (.value "Document is not in a valid state for submission.")
  let _ ← found s.salesBrandingThemeId
    (.value
      "Choose the Xero branding theme for sales documents (Company Defaults > Xero, or during Xero setup) before creating an invoice.")
  .ok (.creation job.id company.id result)

/-- A total of Xero's answer, in its column; a missing one raises, and so does one too large. -/
def storedTotal (raw : Option ℚ) : Except Refusal (Column 10 2) := do
  let total ← found raw (.value "Provider invoice payload is missing totals")
  found (Column.store? total) (.database "numeric field overflow")

/-- `create_document` from Xero's answer on. -/
def finishCreate (job company : ℕ) (result : DocumentResult) :
    Except Refusal (Table Invoice.xeroId) := do
  refuseIf (result.success = false) (.value (result.error.getD "Invoice creation failed."))
  let externalId ← found result.externalId
    (.value "Provider reported invoice success without an id/number")
  let number ← found (result.number.filter fun number => number ≠ "")
    (.value "Provider reported invoice success without an id/number")
  let totalExclTax ← storedTotal result.rawResponse.subTotal
  let tax ← storedTotal result.rawResponse.totalTax
  let totalInclTax ← storedTotal result.rawResponse.total
  let amountDue ← storedTotal result.rawResponse.amountDue
  found
    (s.invoices.insert?
      { xeroId := externalId, job := some job, company, number, status := .submitted,
        totalExclTax, tax, totalInclTax, amountDue })
    (.database "accounting_invoice_xero_id_key")

/-! ## Removing -/

/-- `_local_refusal`, with the approved refusal. -/
def localRefusal (invoice : Invoice) (voidApproved : Bool) : Except Refusal Unit := do
  refuseIf (invoice.status = .voided ∨ invoice.status = .deleted)
    (.value "%(number)s is already voided or deleted in Xero.")
  refuseIf (invoice.status = .paid)
    (.value
      "%(number)s is marked paid in Xero, so it can't be voided here. Open it in Xero, remove any payment on it, then void it there.")
  refuseIf (invoice.amountDue.val < invoice.totalInclTax.val)
    (.value
      "%(number)s has a payment or credit note against it in Xero, so it can't be voided. Remove the payment or credit note in Xero first.")
  refuseIf (invoice.status = .authorised ∧ ¬voidApproved)
    (.value
      "%(number)s is already approved so cannot be simply deleted. Would you like to void it, or just add a second invoice? Be very careful voiding it if it has been sent.")

/-- `xero_delete_invoice` and `delete_document` up to the write to Xero. -/
def xeroDeleteInvoice (job invoice : ℕ) (voidApproved : Bool) : Except Refusal Sent := do
  let job ← found (s.jobs.find? job) (.doesNotExist "Job")
  let invoice ← found ((s.invoices.find? invoice).filter fun invoice => invoice.job = some job.id)
    (.doesNotExist "Invoice")
  let company ← found (job.company.bind s.companies.find?)
    (.value "Job has no client company; cannot delete its invoice.")
  validateCompany company
  localRefusal invoice voidApproved
  let owner ← found (s.companies.find? invoice.company) (.doesNotExist "Company")
  let _ ← found owner.xeroContactId
    (.value "Cannot delete an invoice for a company not linked to Xero.")
  .ok (.removal invoice.xeroId (invoice.status = .authorised))

/-- `delete_document` from Xero's answer on, with `_finish_delete`: a voided invoice stays, marked
voided, and a deleted one goes. -/
def finishDelete (invoice : ℕ) (void : Bool) (result : DocumentResult) :
    Except Refusal (Table Invoice.xeroId) := do
  refuseIf (result.success = false) (.value (result.error.getD "Invoice deletion failed."))
  let target := if void then InvoiceStatus.voided else .deleted
  refuseIf (result.documentStatus ≠ some target)
    (.value "Asked Xero to set %(number)s %(target)s; it reported %(status)s")
  if void then
    let stored ← found (s.invoices.find? invoice)
      (.database "Save with update_fields did not affect any rows.")
    .ok (s.invoices.put { stored with status := .voided })
  else .ok (s.invoices.erase invoice)

/-! ## Every order of requests -/

/-- The two parts of a request, under the request's id. -/
inductive InvoicingEvent where
  | createCalled (request job : ℕ) (mode : InvoiceMode) (percent amount : Option ℚ)
  | deleteCalled (request job invoice : ℕ) (voidApproved : Bool)
  | answered (request : ℕ)
deriving DecidableEq

/-- A request goes to Xero, or it is refused before. -/
def Invoicing.send (request : ℕ) (called : Except Refusal Sent) : Option Invoicing :=
  match called with
  | .error _ => some s
  | .ok sent => (s.inFlight.insert? ⟨request, sent⟩).map fun inFlight => { s with inFlight }

/-- The invoices a request leaves once Xero has answered it. -/
def Invoicing.finish (xero : AccountingProvider) (request : Request) :
    Except Refusal (Table Invoice.xeroId) :=
  match request.sent with
  | .creation job company calculated =>
      finishCreate s job company (xero.createInvoice request.id calculated.calculatedAmount)
  | .removal invoice void => finishDelete s invoice void (xero.deleteInvoice request.id invoice void)

/-- Requests in any order.  An id is not used twice at a time, and an answer belongs to a request that was
sent; a refusal leaves the tables as they are. -/
def invoicing (xero : AccountingProvider) : Machine Invoicing InvoicingEvent := fun s event =>
  match event with
  | .createCalled request job mode percent amount =>
      s.send request (xeroCreateInvoice s job mode percent amount)
  | .deleteCalled request job invoice voidApproved =>
      s.send request (xeroDeleteInvoice s job invoice voidApproved)
  | .answered request =>
      (s.inFlight.find? request).map fun row =>
        { s with
          inFlight := s.inFlight.erase request
          invoices := (s.finish xero row).toOption.getD s.invoices }

end Docketworks.Accounting
