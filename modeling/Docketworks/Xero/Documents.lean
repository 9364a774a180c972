import Docketworks.Xero.Companies
import Docketworks.Library.Machine

/-!
# Documents into the mirror

The document transforms of `apps/xero/transforms.py`, `set_invoice_or_bill_fields` of
`apps/xero/raw_fields.py`, the webhook paths of `apps/xero/single_sync.py` and the local merge of
`apps/company/services/company_merge_service.py`.

* `Mirror.resolveCompanyFromXeroContact` — the final company of a document's contact, syncing a contact
  that is not stored yet.
* `Mirror.transformDocument`, `Mirror.transformQuote`, `Mirror.transformPurchaseOrder` — one turn each of
  the document loops; the first is invoices, bills and credit notes.
* `Mirror.setInvoiceOrBillFields` — the fields of these three, set again from the stored payload.
* `mergeSystem` — contact syncs, merges and document syncs in any order.

A turn that raises keeps what it wrote before.  A document's contact is the payload the company is synced
from: the embedded one, or the one fetched where the document carries a bare id.
-/

namespace Docketworks.Xero

open Library

/-! ## Whose document it is -/

/-- `resolve_company_from_xero_contact`; it raises without a contact, or when syncing it raises. -/
def Mirror.resolveCompanyFromXeroContact (tenantId : String) (m : Mirror)
    (contact : Option XeroContact) : Mirror × Option ℕ :=
  match contact with
  | none => (m, none)
  | some contact =>
      match companyOfContact m.companies contact.contactId with
      | some company => (m, some (getFinalCompany m.companies company.id))
      | none =>
          let report := m.syncCompanies tenantId [contact]
          let m := report.state
          if report.written.isEmpty then (m, none)
          else
            (m, (companyOfContact m.companies contact.contactId).map fun company =>
              getFinalCompany m.companies company.id)

/-! ## Invoices, bills and credit notes -/

/-- The kind of document a payload says it is. -/
def XeroDocument.jsonDocumentType (xero : XeroDocument) : Option DocumentKind :=
  match xero.type with
  | some "ACCREC" => some .invoice
  | some "ACCPAY" => some .bill
  | some "ACCRECCREDIT" => some .creditNote
  | some "ACCPAYCREDIT" => some .creditNote
  | _ => none

/-- `set_invoice_or_bill_fields` up to the document's own save: its fields and its company are set from
the stored payload. -/
def Mirror.setInvoiceOrBillFields (m : Mirror) (document : Document) : Mirror :=
  let xero := document.rawJson
  if xero.jsonDocumentType ≠ some document.kind then m
  else
    match xero.contact.bind fun contact => companyOfContact m.companies contact.contactId with
    | none => m
    | some company =>
        { m with
          documents := m.documents.upsert
            { document with
              xeroId := xero.id
              number := xero.number
              date := xero.date
              status := xero.status
              tax := xero.totalTax
              totalExclTax := xero.subTotal
              totalInclTax := xero.total
              amountDue := xero.amountDue
              xeroLastModified := xero.updatedDateUtc.orElse fun _ => document.xeroLastModified
              company := company.id } }

/-- `_extract_required_fields_xero` finds all it needs beside the company. -/
def XeroDocument.complete (xero : XeroDocument) : Bool :=
  xero.date.isSome && xero.number.isSome && xero.subTotal.isSome && xero.totalTax.isSome &&
    xero.total.isSome && xero.amountDue.isSome && xero.updatedDateUtc.isSome

/-- The row with the extracted fields: the one stored under the id, or a new one. -/
def Mirror.extracted (m : Mirror) (tenantId : String) (kind : DocumentKind) (xero : XeroDocument)
    (company : ℕ) : Document where
  kind
  xeroId := xero.id
  xeroTenantId := tenantId
  company
  number := xero.number
  status := ((m.documents.find? (kind, xero.id)).bind Document.status).orElse fun _ => some "DRAFT"
  date := xero.date
  totalExclTax := xero.subTotal
  tax := xero.totalTax
  totalInclTax := xero.total
  amountDue := xero.amountDue
  xeroLastModified := xero.updatedDateUtc
  rawJson := xero

/-- `transform_invoice`, `transform_bill` and `transform_credit_note`. -/
def Mirror.transformDocument (tenantId : String) (kind : DocumentKind) (m : Mirror)
    (xero : XeroDocument) : Mirror :=
  -- a bill without a number is a data entry error in Xero
  if kind = .bill ∧ xero.number.getD "" = "" then m
  else
    match m.resolveCompanyFromXeroContact tenantId xero.contact with
    | (m, none) => m
    | (m, some company) =>
        if !xero.complete then m
        else
          let document := m.extracted tenantId kind xero company
          { m with documents := m.documents.upsert document }.setInvoiceOrBillFields document

/-- `sync_single_invoice` writes over a stored row only: a new one would have no company. -/
def Mirror.syncSingleInvoice (tenantId : String) (m : Mirror) (xero : XeroDocument) : Mirror :=
  match xero.jsonDocumentType with
  | none => m
  | some kind =>
      if kind = .creditNote then m
      else
        match m.documents.find? (kind, xero.id) with
        | none => m
        | some stored =>
            let document :=
              { stored with
                xeroTenantId := tenantId
                rawJson := xero
                xeroLastModified := xero.updatedDateUtc.orElse fun _ => stored.xeroLastModified }
            { m with documents := m.documents.upsert document }.setInvoiceOrBillFields document

/-! ## Quotes -/

def Mirror.transformQuote (tenantId : String) (m : Mirror) (xero : XeroDocument) : Mirror :=
  match m.resolveCompanyFromXeroContact tenantId xero.contact with
  | (m, none) => m
  | (m, some company) =>
      if xero.status.isNone || xero.subTotal.isNone || xero.total.isNone || xero.date.isNone then m
      else
        { m with
          documents := m.documents.upsert
            { m.extracted tenantId .quote xero company with
              status := xero.status
              tax := none
              amountDue := none } }

/-! ## Purchase orders -/

section PurchaseOrders

-- `is_locally_raised` reads the number, against a prefix that is a setting
variable (isLocallyRaised : String → Bool)

/-- The order a payload is stored on: the one of its id, or else the one of its number. -/
def Mirror.purchaseOrderFor (m : Mirror) (xeroId poNumber : String) : Option PurchaseOrder :=
  (m.purchaseOrders.rows.find? fun po => po.xeroId = some xeroId).orElse fun _ =>
    m.purchaseOrders.rows.find? fun po => po.poNumber = poNumber

/-- `_purchase_order_sync_values`, applied. -/
def PurchaseOrder.synced (po : PurchaseOrder) (xero : XeroPurchaseOrder) (poNumber : String) :
    PurchaseOrder :=
  let po := { po with xeroId := some xero.id, xeroStatus := xero.status, rawJson := some xero }
  if isLocallyRaised po.poNumber then po else { po with poNumber, orderDate := xero.date }

/-- `transform_purchase_order`.  Its one transaction is taken back where the status is not mapped, the
number is another order's or a line is refused; `accepted` says that none of these is so. -/
def Mirror.transformPurchaseOrder (tenantId : String) (m : Mirror) (xero : XeroPurchaseOrder)
    (accepted : Bool) : Mirror :=
  match m.resolveCompanyFromXeroContact tenantId xero.contact with
  | (m, none) => m
  | (m, some supplier) =>
      match xero.number, xero.date, xero.status with
      | some poNumber, some date, some status =>
          if !accepted then m
          else
            let po := (m.purchaseOrderFor xero.id poNumber).getD
              { id := m.purchaseOrders.freshKey
                poNumber
                supplier := some supplier
                xeroId := some xero.id
                xeroStatus := some status
                orderDate := some date
                rawJson := some xero }
            { m with purchaseOrders := m.purchaseOrders.upsert (po.synced isLocallyRaised xero poNumber) }
      | _, _, _ => m

end PurchaseOrders

/-! ## Contacts by webhook, and local merges -/

/-- The row a webhook writes a contact to: the contact's, or a new one. -/
def Mirror.webhookCompany (m : Mirror) (tenantId : String) (contact : XeroContact) : Company :=
  match companyOfContact m.companies contact.contactId with
  | some existing =>
      { existing with
        xeroTenantId := some tenantId
        rawJson := some contact
        xeroLastModified := m.now
        xeroMergedIntoId := contact.mergedToContactId }
  | none => { m.companyFrom tenantId contact with xeroArchived := false }

def Mirror.syncSingleContact (tenantId : String) (m : Mirror) (contact : XeroContact) : Mirror :=
  let company := m.webhookCompany tenantId contact
  match (m.saveCompany company).setCompanyFields tenantId company with
  | (m, some _) => m
  | (m, none) => m.resolvePendingMerge company.id

def Mirror.mergeCompanies (m : Mirror) (sourceId destinationId : ℕ) : Mirror :=
  match m.companies.find? sourceId, m.companies.find? destinationId with
  | some source, some destination =>
      if sourceId = destinationId ∨ destination.mergedInto ≠ none ∨
          (source.mergedInto ≠ none ∧ source.mergedInto ≠ some destinationId) then m
      else
        ((m.saveCompany
            { destination with
              isAccountCustomer := destination.isAccountCustomer || source.isAccountCustomer
              allowJobs := destination.allowJobs || source.allowJobs
              email := (destination.email.filter (· ≠ "")).orElse fun _ => source.email
              address := (destination.address.filter (· ≠ "")).orElse fun _ => source.address }).saveCompany
          { source with mergedInto := some destinationId, allowJobs := false }).reassignCompanyFkRecords
            sourceId destinationId
  | _, _ => m

/-! ## The steps -/

/-- The steps: contact syncs, merges and document syncs. -/
inductive MergeAction where
  | syncCompanies (contacts : List XeroContact)
  | syncSingleContact (contact : XeroContact)
  | mergeCompanies (source destination : ℕ)
  /-- The transform of an invoice, a bill or a credit note. -/
  | transformDocument (kind : DocumentKind) (xero : XeroDocument)
  | syncSingleInvoice (xero : XeroDocument)
  | transformQuote (xero : XeroDocument)
  | transformPurchaseOrder (xero : XeroPurchaseOrder) (accepted : Bool)
deriving DecidableEq

/-- One step: each is a whole call, whatever it raises. -/
def mergeSystem (isLocallyRaised : String → Bool) (tenantId : String) : Machine Mirror MergeAction :=
  fun m action =>
    match action with
    | .syncCompanies contacts => some (m.syncCompanies tenantId contacts).state
    | .syncSingleContact contact => some (m.syncSingleContact tenantId contact)
    | .mergeCompanies source destination => some (m.mergeCompanies source destination)
    | .transformDocument kind xero =>
        -- quotes have a transform of their own
        if kind = .quote then none else some (m.transformDocument tenantId kind xero)
    | .syncSingleInvoice xero => some (m.syncSingleInvoice tenantId xero)
    | .transformQuote xero => some (m.transformQuote tenantId xero)
    | .transformPurchaseOrder xero accepted =>
        some (m.transformPurchaseOrder isLocallyRaised tenantId xero accepted)

end Docketworks.Xero
