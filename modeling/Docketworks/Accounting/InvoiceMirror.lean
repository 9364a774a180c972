import Docketworks.Accounting.Invoicing

/-!
# Invoices in Xero and here

The invoices of Xero beside their rows: the requests of `Docketworks.Accounting.Invoicing` with Xero's answer and
the local steps after it apart, and the sync that mirrors invoices between any two of them (`sync_entities` and
`transform_invoice` of `apps/xero/transforms.py`, `sync_single_invoice` of `apps/xero/single_sync.py`).

* `InvoiceInXero` — an invoice as Xero has it.
* `transformInvoice` — the row a turn of the sync leaves; it keeps the row's job and gives a new one none.
* `InvoiceSite` — the program, Xero's invoices and what is between Xero's answer and the rows.
* `invoiceSite` — one step of any of it.

**Design.**  Xero's answers are true, but may lack a field.  A voided or deleted invoice stays so.  A turn of the
sync writes what it fetched, which may be older than what Xero has by then; it reads and writes its row at once.
-/

namespace Docketworks.Accounting

open Library

/-! ## Xero's invoices -/

structure InvoiceInXero where
  id : ℕ
  number : String
  status : InvoiceStatus
  subTotal : Column 10 2
  totalTax : Column 10 2
  total : Column 10 2
  amountDue : Column 10 2
  deriving DecidableEq

def InvoiceInXero.billed (document : InvoiceInXero) : ℚ :=
  if document.status.isValid then document.subTotal.val else 0

/-- The answer to a create is true of the invoice, field by field where it has them. -/
def DocumentResult.tellsOf (result : DocumentResult) (document : InvoiceInXero) : Bool :=
  result.success && result.externalId.all (· = document.id) &&
    result.rawResponse.subTotal.all (· = document.subTotal.val) &&
    result.rawResponse.totalTax.all (· = document.totalTax.val) &&
    result.rawResponse.total.all (· = document.total.val) &&
    result.rawResponse.amountDue.all (· = document.amountDue.val)

/-- The answer has everything `create_document` reads. -/
def DocumentResult.complete (result : DocumentResult) : Bool :=
  result.externalId.isSome && result.number.any (· ≠ "") && result.rawResponse.subTotal.isSome &&
    result.rawResponse.totalTax.isSome && result.rawResponse.total.isSome && result.rawResponse.amountDue.isSome

/-! ## The sync -/

/-- `transform_invoice`, for a contact of the company. -/
def transformInvoice (invoices : Table Invoice.xeroId) (document : InvoiceInXero) (company : ℕ) :
    Table Invoice.xeroId :=
  invoices.upsert
    { xeroId := document.id
      job := (invoices.find? document.id).bind Invoice.job
      company
      number := document.number
      status := document.status
      totalExclTax := document.subTotal
      tax := document.totalTax
      totalInclTax := document.total
      amountDue := document.amountDue }

/-- A turn of `sync_entities`: a deleted invoice is skipped. -/
def syncEntity (invoices : Table Invoice.xeroId) (document : InvoiceInXero) (company : ℕ) :
    Table Invoice.xeroId :=
  if document.status = .deleted then invoices else transformInvoice invoices document company

/-- `sync_single_invoice`: without a row it raises, for a new one has no company. -/
def syncSingleInvoice (invoices : Table Invoice.xeroId) (document : InvoiceInXero) : Table Invoice.xeroId :=
  match invoices.find? document.id with
  | none => invoices
  | some stored => transformInvoice invoices document stored.company

/-! ## The program and Xero -/

/-- A request Xero has answered with success, before the local steps. -/
structure Answer where
  id : ℕ
  sent : Sent
  invoice : ℕ
  result : DocumentResult
  deriving DecidableEq

/-- A turn of the sync with what it has fetched. -/
structure Turn where
  id : ℕ
  document : InvoiceInXero
  deriving DecidableEq

/-- The program, Xero's invoices, and what is on its way between them. -/
structure InvoiceSite where
  program : Invoicing
  documents : Table InvoiceInXero.id
  /-- The invoices the program has created, each with its job. -/
  created : List (ℕ × ℕ)
  answers : Table Answer.id
  turns : Table Turn.id
  /-- The invoices written in Xero, or in their row, since a sync wrote the row as Xero has it. -/
  unsynced : List ℕ

inductive SiteStep where
  | createCalled (request job : ℕ) (mode : InvoiceMode) (percent amount : Option ℚ)
  | deleteCalled (request job invoice : ℕ) (voidApproved : Bool)
  | createAccepted (request : ℕ) (document : InvoiceInXero) (result : DocumentResult)
  | removalAccepted (request : ℕ) (result : DocumentResult)
  /-- Xero refuses, or does something else than it was asked. -/
  | refused (request : ℕ)
  | finished (request : ℕ)
  | failed (request : ℕ)
  | invoiceFetched (turn invoice : ℕ)
  | synced (turn company : ℕ)
  | syncFailed (turn : ℕ)
  | webhook (invoice : ℕ)
  | madeInXero (document : InvoiceInXero)
  /-- Somebody approves, edits, voids or deletes one there. -/
  | changedInXero (document : InvoiceInXero)
  | edited (jobs : Table Job.id) (companies : Table Company.id) (salesBrandingThemeId : Option String)

namespace InvoiceSite

variable (s : InvoiceSite)

/-- A deletion or void of the invoice is between Xero's answer and its row. -/
def removing (invoice : ℕ) : Bool :=
  s.answers.rows.any fun answer =>
    match answer.sent with
    | .removal removed _ => removed = invoice
    | .creation .. => false

/-- The rows once the local steps after an answer are done. -/
def recorded (answer : Answer) : Except Refusal (Table Invoice.xeroId) :=
  match answer.sent with
  | .creation job company _ => finishCreate s.program job company answer.result
  | .removal invoice void => finishDelete s.program invoice void answer.result

/-- The rows written. -/
def withInvoices (invoices : Table Invoice.xeroId) : InvoiceSite :=
  { s with program := { s.program with invoices } }

/-- The invoice is Xero's, or its row is ours, as no sync has seen it. -/
def touched (invoice : ℕ) : InvoiceSite := { s with unsynced := invoice :: s.unsynced }

/-- A request leaves the ones that wait for Xero. -/
def answered (request : ℕ) : InvoiceSite :=
  { s with program := { s.program with inFlight := s.program.inFlight.erase request } }

/-- The local steps of a request are over. -/
def ended (answer : Answer) : InvoiceSite :=
  { s with answers := s.answers.erase answer.id, unsynced := answer.invoice :: s.unsynced }

def withAnswer (answer : Answer) : Option InvoiceSite :=
  (s.answers.insert? answer).map fun answers => { s.answered answer.id with answers }

/-- What Xero has for the invoice is written over. -/
def rewritten (document : InvoiceInXero) : InvoiceSite :=
  { s with documents := s.documents.put document, unsynced := document.id :: s.unsynced }

/-- What Xero has for the invoice is written over, if it may still change. -/
def rewrite (document : InvoiceInXero) : Option InvoiceSite :=
  ((s.documents.find? document.id).filter fun old => old.status.isValid).map fun _ => s.rewritten document

/-- Xero has made an invoice. -/
def make (document : InvoiceInXero) : Option InvoiceSite :=
  (s.documents.insert? document).map fun documents =>
    { s with documents, unsynced := document.id :: s.unsynced }

/-- A turn is over: the row is as Xero has it, unless Xero's invoice has been written since the turn fetched
it. -/
def turned (turn : Turn) : InvoiceSite :=
  { s with
    turns := s.turns.erase turn.id
    unsynced :=
      if s.documents.find? turn.document.id = some turn.document then
        s.unsynced.filter (· ≠ turn.document.id)
      else turn.document.id :: s.unsynced }

end InvoiceSite

def invoiceSite : Machine InvoiceSite SiteStep := fun s step =>
  match step with
  | .createCalled request job mode percent amount =>
      (s.program.send request (xeroCreateInvoice s.program job mode percent amount)).map fun program =>
        { s with program }
  | .deleteCalled request job invoice voidApproved =>
      (s.program.send request (xeroDeleteInvoice s.program job invoice voidApproved)).map fun program =>
        { s with program }
  | .createAccepted request document result => do
      let row ← s.program.inFlight.find? request
      match row.sent with
      | .creation job _ _ =>
          if result.tellsOf document ∧ document.status = .submitted then
            let s ← s.make document
            { s with created := (document.id, job) :: s.created }.withAnswer ⟨request, row.sent, document.id, result⟩
          else none
      | .removal .. => none
  | .removalAccepted request result => do
      let row ← s.program.inFlight.find? request
      match row.sent with
      | .creation .. => none
      | .removal invoice void =>
          let target := if void then InvoiceStatus.voided else .deleted
          if result.success ∧ result.documentStatus = some target then
            let old ← s.documents.find? invoice
            let s ← s.rewrite { old with status := target }
            s.withAnswer ⟨request, row.sent, invoice, result⟩
          else none
  | .refused request => (s.program.inFlight.find? request).map fun _ => s.answered request
  | .finished request =>
      (s.answers.find? request).map fun answer =>
        ((s.recorded answer).toOption.elim s s.withInvoices).ended answer
  | .failed request => (s.answers.find? request).map fun answer => s.ended answer
  | .invoiceFetched turn invoice => do
      let document ← s.documents.find? invoice
      let turns ← s.turns.insert? ⟨turn, document⟩
      some { s with turns }
  | .synced turn company =>
      (s.turns.find? turn).map fun turn =>
        (s.withInvoices (syncEntity s.program.invoices turn.document company)).turned turn
  | .syncFailed turn => some { s with turns := s.turns.erase turn }
  | .webhook invoice =>
      (s.documents.find? invoice).map fun document =>
        s.withInvoices (syncSingleInvoice s.program.invoices document)
  | .madeInXero document => s.make document
  | .changedInXero document => s.rewrite document
  | .edited jobs companies salesBrandingThemeId =>
      some { s with program := { s.program with jobs, companies, salesBrandingThemeId } }

end Docketworks.Accounting
