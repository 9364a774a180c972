import Mathlib.Data.Rat.Init
import Docketworks.Core.Text
import Docketworks.Library.Table

/-!
# What Xero sends and what the mirror keeps

The payloads of `apps/xero/transforms.py` and the rows they are written to.

* `XeroContact`, `XeroAccount`, `XeroDocument`, `XeroPurchaseOrder` — payloads, with a field Xero left out
  as `none`.
* `Company`, `ContactMethod`, `PickupAddress`, `AccountRow`, `Document`, `PurchaseOrder` — rows.
* `Mirror` — all of them but the accounts.

**Representation.**  A row keeps the payload it was last written from, as `raw_json` does.  Times are
milliseconds.  A new row's key stands for a fresh UUID.  Only phone methods are kept of the contact methods, since nothing here reads the others.
Where two rows tie in the order a query asks for, the earlier one is first.
-/

namespace Docketworks.Xero

open Library

/-! ## Payloads -/

/-- A phone entry of a contact. -/
structure XeroPhone where
  phoneType : Option String
  phoneNumber : Option String
  phoneAreaCode : Option String
  phoneCountryCode : Option String
deriving DecidableEq, Repr

/-- An address entry of a contact. -/
structure XeroAddress where
  addressType : Option String
  line1 : Option String
  line2 : Option String
  line3 : Option String
  line4 : Option String
  city : Option String
  region : Option String
  postalCode : Option String
  country : Option String
deriving DecidableEq, Repr

structure XeroContact where
  contactId : String
  name : Option String
  contactStatus : Option String
  mergedToContactId : Option String
  emailAddress : Option String
  isCustomer : Option Bool
  phones : List XeroPhone
  addresses : List XeroAddress
  updatedDateUtc : Option ℕ
deriving DecidableEq, Repr

/-- An entry of the chart of accounts. -/
structure XeroAccount where
  accountId : Option String
  code : Option String
  name : Option String
  description : Option String
  type : Option String
  taxType : Option String
  enablePaymentsToAccount : Option Bool
  updatedDateUtc : Option ℕ
deriving DecidableEq, Repr

/-- An invoice, a bill, a credit note or a quote. -/
structure XeroDocument where
  id : String
  /-- `type`: `ACCREC`, `ACCPAY`, `ACCRECCREDIT` or `ACCPAYCREDIT`; a quote has none. -/
  type : Option String
  status : Option String
  number : Option String
  contact : Option XeroContact
  date : Option ℕ
  subTotal : Option ℚ
  totalTax : Option ℚ
  total : Option ℚ
  /-- `amount_due`, or `remaining_credit` of a credit note. -/
  amountDue : Option ℚ
  updatedDateUtc : Option ℕ
deriving DecidableEq, Repr

structure XeroPurchaseOrder where
  id : String
  number : Option String
  status : Option String
  contact : Option XeroContact
  date : Option ℕ
  updatedDateUtc : Option ℕ
deriving DecidableEq, Repr

/-! ## Rows -/

structure Company where
  id : ℕ
  name : String
  email : Option String
  address : Option String
  isAccountCustomer : Bool
  allowJobs : Bool
  xeroContactId : Option String
  xeroTenantId : Option String
  xeroArchived : Bool
  xeroMergedIntoId : Option String
  mergedInto : Option ℕ
  xeroLastModified : ℕ
  xeroLastSynced : ℕ
  rawJson : Option XeroContact
deriving DecidableEq, Repr

/-- A phone method of a company, or of a person linked to some companies. -/
structure ContactMethod where
  company : Option ℕ
  /-- The companies of the owning person's active links. -/
  personCompanies : List ℕ
  value : String
  normalizedValue : String
  label : Option String
  isPrimary : Bool
deriving DecidableEq, Repr

structure PickupAddress where
  company : ℕ
  name : String
  street : String
  city : String
  state : Option String
  postalCode : Option String
  country : String
  isPrimary : Bool
deriving DecidableEq, Repr

structure AccountRow where
  xeroId : String
  xeroTenantId : String
  accountCode : Option String
  accountName : String
  description : Option String
  accountType : Option String
  taxType : Option String
  enablePayments : Bool
  xeroLastModified : ℕ
  rawJson : XeroAccount
deriving DecidableEq, Repr

/-- The four tables of documents that name a company. -/
inductive DocumentKind where
  | invoice
  | bill
  | creditNote
  | quote
deriving DecidableEq, Repr

/-- An invoice, a bill, a credit note or a quote. -/
structure Document where
  kind : DocumentKind
  xeroId : String
  xeroTenantId : String
  company : ℕ
  number : Option String
  status : Option String
  date : Option ℕ
  totalExclTax : Option ℚ
  tax : Option ℚ
  totalInclTax : Option ℚ
  amountDue : Option ℚ
  xeroLastModified : Option ℕ
  rawJson : XeroDocument
deriving DecidableEq, Repr

/-- A document is known by its table and its Xero id. -/
def Document.key (document : Document) : DocumentKind × String := (document.kind, document.xeroId)

structure PurchaseOrder where
  id : ℕ
  poNumber : String
  supplier : Option ℕ
  xeroId : Option String
  xeroStatus : Option String
  orderDate : Option ℕ
  rawJson : Option XeroPurchaseOrder
deriving DecidableEq, Repr

/-- The mirror, and what of the company tables the sync reads and writes. -/
structure Mirror where
  now : ℕ
  companies : Table Company.id
  contactMethods : List ContactMethod
  phoneEndpoints : List String
  pickupAddresses : List PickupAddress
  documents : Table Document.key
  purchaseOrders : Table PurchaseOrder.id

end Docketworks.Xero
