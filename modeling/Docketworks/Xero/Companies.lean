import Docketworks.Xero.Records
import Docketworks.Library.Batch
import Docketworks.Library.Chains

/-!
# Contacts into companies

The company half of `apps/xero/transforms.py` and `apps/xero/raw_fields.py`, with the merge service.

* `Mirror.setCompanyFields` — a company's fields from the payload it was stored with.
* `Mirror.syncContact` — one turn of the loop of `sync_companies`; `Mirror.syncCompanies` the whole of
  it, which resolves the pending merges once every contact had its turn.
* `getFinalCompany`, `Mirror.resolvePendingMerge`, `Mirror.reassignCompanyFkRecords` — merge chains and
  what a merge moves.

A turn that raises keeps what it wrote before: the row it linked or made is saved, and only the fields
and the numbers of one `atomic` block are taken back together.
-/

namespace Docketworks.Xero

open Library

/-- Why a record is refused. -/
inductive SyncError where
  | nameAlreadyLinked (name xeroId contactId : String)
  | noRawJson (company : ℕ)
  | noName (company : ℕ)
  | unhandledContactStatus (company : ℕ) (status : Option String)
  /-- `is_account_customer` may not be null. -/
  | nullAccountCustomer (company : ℕ)
  | ownPhoneNumber (number : String)
  | phoneNumberTaken (number : String)
  /-- An account without id, name or modification time. -/
  | accountPayloadMissing (accountId : Option String)
  /-- `account_name` is unique. -/
  | accountNameTaken (name : String)
deriving DecidableEq, Repr

/-! ## Reading companies -/

/-- `Company.objects.filter(xero_contact_id=...).first()`. -/
def companyOfContact (companies : Table Company.id) (contactId : String) : Option Company :=
  companies.rows.find? fun company => company.xeroContactId = some contactId

/-- `Company.objects.filter(name=...).first()`. -/
def companyNamed (companies : Table Company.id) (name : String) : Option Company :=
  companies.rows.find? fun company => company.name = name

/-- The company a company was merged into. -/
def mergedIntoOf (companies : Table Company.id) (id : ℕ) : Option ℕ :=
  (companies.find? id).bind Company.mergedInto

/-- `get_final_company`: the merge chain is followed until it ends or comes back to a company seen, which
takes no more pointers than there are companies. -/
def getFinalCompany (companies : Table Company.id) (id : ℕ) : ℕ :=
  follow (mergedIntoOf companies) companies.rows.length [id] id

/-! ## Phone numbers -/

def xeroPhoneValue (phone : XeroPhone) : String :=
  pythonStrip (phone.phoneCountryCode.getD "" ++ " " ++ phone.phoneAreaCode.getD "" ++ " " ++
    phone.phoneNumber.getD "")

def normalizePhone (value : String) : String :=
  match value.toList.filter Char.isDigit with
  | [] => ""
  | '6' :: '4' :: digits => "+64" ++ String.ofList digits
  | '0' :: digit :: digits => "+64" ++ String.ofList (digit :: digits)
  | digits => "+" ++ String.ofList digits

def ContactMethod.ownerCompanyIds (method : ContactMethod) : List ℕ :=
  match method.company with
  | some company => [company]
  | none => method.personCompanies

def Mirror.hasNumber (m : Mirror) (company : ℕ) (number : String) : Bool :=
  m.contactMethods.any fun method =>
    method.company = some company && method.normalizedValue = number

/-- `conflicting_company`: some other company has the number. -/
def Mirror.conflictingCompany (m : Mirror) (company : ℕ) (number : String) : Bool :=
  m.contactMethods.any fun other =>
    other.normalizedValue = number && !other.ownerCompanyIds.contains company

/-- `check_phone_assignment` of a number a company does not have yet. -/
def Mirror.checkPhoneAssignment (m : Mirror) (company : ℕ) (number : String) :
    Except SyncError Unit :=
  if number ∈ m.phoneEndpoints then .error (.ownPhoneNumber number)
  else if m.conflictingCompany company number then .error (.phoneNumberTaken number)
  else .ok ()

def phoneMethod (company : ℕ) (phone : XeroPhone) (number : String) : ContactMethod where
  company := some company
  personCompanies := []
  value := xeroPhoneValue phone
  normalizedValue := number
  label := phone.phoneType.filter (· ≠ "")
  isPrimary := phone.phoneType = some "DEFAULT"

/-- Saving a method takes the primary flag off the owner's others. -/
def Mirror.addContactMethod (m : Mirror) (method : ContactMethod) : Mirror :=
  { m with
    contactMethods :=
      m.contactMethods.map (fun other =>
        if method.isPrimary ∧ other.company = method.company then { other with isPrimary := false }
        else other) ++ [method] }

/-- One entry of `sync_xero_phone_methods`. -/
def Mirror.syncPhone (m : Mirror) (company : ℕ) (phone : XeroPhone) : Except SyncError Mirror :=
  let number := normalizePhone (xeroPhoneValue phone)
  if number = "" then .ok m
  else if m.hasNumber company number then .ok m
  else do
    m.checkPhoneAssignment company number
    .ok (m.addContactMethod (phoneMethod company phone number))

/-- `sync_xero_phone_methods`: a merged company's numbers live on the company it was merged into. -/
def Mirror.syncXeroPhoneMethods (m : Mirror) (company : Company) (contact : XeroContact) :
    Except SyncError Mirror :=
  if company.mergedInto.isSome then .ok m
  else contact.phones.foldlM (fun m phone => m.syncPhone company.id phone) m

/-! ## Addresses -/

def XeroContact.streetEntry (contact : XeroContact) : Option XeroAddress :=
  contact.addresses.find? fun address => address.addressType = some "STREET"

/-- `", ".join(filter(None, parts))`. -/
def joinParts (parts : List (Option String)) : String :=
  ", ".intercalate ((parts.filterMap id).filter (· ≠ ""))

def streetAddress (contact : XeroContact) : String :=
  match contact.streetEntry with
  | none => ""
  | some a =>
      joinParts [a.line1, a.line2, a.line3, a.line4, a.city, a.region, a.postalCode, a.country]

/-- The street address mirrored as a pickup address, where it has a street and a city. -/
def Mirror.mirrorPickupAddress (m : Mirror) (company : ℕ) (contact : XeroContact) : Mirror :=
  match contact.streetEntry with
  | none => m
  | some a =>
      let street := joinParts [a.line1, a.line2, a.line3, a.line4]
      let city := a.city.getD ""
      if street = "" ∨ city = "" then m
      else if m.pickupAddresses.any fun p => p.company = company && p.name = "Xero Address" then m
      else
        { m with
          pickupAddresses :=
            m.pickupAddresses.map (fun p =>
              if p.company = company then { p with isPrimary := false } else p) ++
            [{ company
               name := "Xero Address"
               street
               city
               state := a.region.filter (· ≠ "")
               postalCode := a.postalCode.filter (· ≠ "")
               country := (a.country.filter (· ≠ "")).getD "New Zealand"
               isPrimary := true }] }

/-! ## A company's fields -/

def xeroContactStatuses : List String := ["ACTIVE", "ARCHIVED"]

def XeroContact.statusHandled (contact : XeroContact) : Bool :=
  contact.contactStatus.any (· ∈ xeroContactStatuses)

def XeroContact.archived (contact : XeroContact) : Bool := contact.contactStatus = some "ARCHIVED"

def Company.withFields (company : Company) (tenantId : String) (now : ℕ) (contact : XeroContact) :
    Company :=
  { company with
    name := (contact.name.filter (· ≠ "")).getD company.name
    email := contact.emailAddress.filter (· ≠ "")
    xeroContactId := some contact.contactId
    xeroTenantId := some tenantId
    xeroArchived := contact.archived
    -- only a transition moves it: a manual block on an active company stays
    allowJobs :=
      if contact.archived then false
      else if company.xeroArchived && company.mergedInto.isNone then true
      else company.allowJobs
    xeroMergedIntoId := contact.mergedToContactId.orElse fun _ => company.xeroMergedIntoId
    address := if streetAddress contact = "" then company.address else some (streetAddress contact)
    isAccountCustomer := contact.isCustomer.getD company.isAccountCustomer
    xeroLastModified := contact.updatedDateUtc.getD company.xeroLastModified
    xeroLastSynced := now }

/-- `company.save()`. -/
def Mirror.saveCompany (m : Mirror) (company : Company) : Mirror :=
  { m with companies := m.companies.upsert company }

/-- `set_company_fields`: what it leaves, and why it raised if it did. -/
def Mirror.setCompanyFields (m : Mirror) (tenantId : String) (company : Company) :
    Mirror × Option SyncError :=
  match company.rawJson with
  | none => (m, some (.noRawJson company.id))
  | some contact =>
      if contact.name.getD "" = "" ∧ company.name = "" then (m, some (.noName company.id))
      else if !contact.statusHandled then
        (m, some (.unhandledContactStatus company.id contact.contactStatus))
      else
        let m := m.mirrorPickupAddress company.id contact
        if contact.isCustomer = none then (m, some (.nullAccountCustomer company.id))
        else
          let company := company.withFields tenantId m.now contact
          match (m.saveCompany company).syncXeroPhoneMethods company contact with
          | .error e => (m, some e)
          | .ok m => (m, none)

/-! ## One contact -/

/-- The company made for a contact. -/
def Mirror.companyFrom (m : Mirror) (tenantId : String) (contact : XeroContact) : Company where
  id := m.companies.freshKey
  name := ""
  email := none
  address := none
  isAccountCustomer := false
  allowJobs := true
  xeroContactId := some contact.contactId
  xeroTenantId := some tenantId
  xeroArchived := contact.archived
  xeroMergedIntoId := contact.mergedToContactId
  mergedInto := none
  xeroLastModified := m.now
  xeroLastSynced := m.now
  rawJson := some contact

def XeroContact.contactName (contact : XeroContact) : String := pythonStrip (contact.name.getD "")

/-- The company a contact is stored on: its own, the one of its name that has no contact, or a new
one. -/
def Mirror.linkCompany (m : Mirror) (tenantId : String) (contact : XeroContact) :
    Except SyncError Company :=
  match companyOfContact m.companies contact.contactId with
  | some existing =>
      .ok { existing with
        rawJson := some contact
        xeroLastModified := m.now
        xeroMergedIntoId := contact.mergedToContactId }
  | none =>
      if contact.contactName = "" then .ok (m.companyFrom tenantId contact)
      else
        match companyNamed m.companies contact.contactName with
        | none => .ok (m.companyFrom tenantId contact)
        | some matching =>
            match matching.xeroContactId with
            | none =>
                .ok { matching with
                  xeroContactId := some contact.contactId
                  xeroTenantId := some tenantId
                  rawJson := some contact
                  xeroLastModified := m.now
                  xeroMergedIntoId := contact.mergedToContactId }
            | some xeroId =>
                -- the archived loser of a merge in Xero keeps the winner's name
                if contact.archived then .ok (m.companyFrom tenantId contact)
                else .error (.nameAlreadyLinked contact.contactName xeroId contact.contactId)

/-- One turn of the loop of `sync_companies`. -/
def Mirror.syncContact (tenantId : String) (m : Mirror) (contact : XeroContact) :
    Mirror × Option SyncError :=
  match m.linkCompany tenantId contact with
  | .error e => (m, some e)
  | .ok company => (m.saveCompany company).setCompanyFields tenantId company

/-! ## Merges -/

/-- `_move_company_contact_methods`. -/
def moveContactMethods (methods : List ContactMethod) (source destination : ℕ) :
    List ContactMethod :=
  let sources := methods.filter fun method => method.company = some source
  let destinationNumbers :=
    (methods.filter fun method => method.company = some destination).map ContactMethod.normalizedValue
  let primaries := (sources.filter ContactMethod.isPrimary).map ContactMethod.normalizedValue
  let promoted := primaries.filter (· ∈ destinationNumbers)
  (methods.filter fun method =>
      !(method.company = some source && method.normalizedValue ∈ destinationNumbers)).map fun method =>
    if method.company = some source then { method with company := some destination }
    else if method.company = some destination then
      { method with
        isPrimary := (method.isPrimary && primaries.isEmpty) || method.normalizedValue ∈ promoted }
    else method

def Document.moved (source destination : ℕ) (document : Document) : Document :=
  { document with company := if document.company = source then destination else document.company }

def PurchaseOrder.moved (source destination : ℕ) (po : PurchaseOrder) : PurchaseOrder :=
  { po with supplier := if po.supplier = some source then some destination else po.supplier }

/-- `reassign_company_fk_records`, as far as the mirror goes. -/
def Mirror.reassignCompanyFkRecords (m : Mirror) (source destination : ℕ) : Mirror :=
  { m with
    contactMethods := moveContactMethods m.contactMethods source destination
    documents := m.documents.modify (Document.moved source destination) fun _ => rfl
    purchaseOrders := m.purchaseOrders.modify (PurchaseOrder.moved source destination) fun _ => rfl }

/-- `resolve_pending_merge`: a target that is not synced yet defers it. -/
def Mirror.resolvePendingMerge (m : Mirror) (id : ℕ) : Mirror :=
  match m.companies.find? id with
  | none => m
  | some company =>
      match company.xeroMergedIntoId, company.mergedInto with
      | some target, none =>
          match companyOfContact m.companies target with
          | none => m
          | some mergedInto =>
              let m := m.saveCompany
                { company with mergedInto := some mergedInto.id, allowJobs := false }
              let destination := getFinalCompany m.companies id
              if destination = id then m else m.reassignCompanyFkRecords id destination
      | _, _ => m

/-- The pending merge of a contact's company. -/
def Mirror.resolveMergeOf (m : Mirror) (contact : XeroContact) : Mirror :=
  match companyOfContact m.companies contact.contactId with
  | none => m
  | some company => m.resolvePendingMerge company.id

def Mirror.syncCompanies (tenantId : String) (m : Mirror) (contacts : List XeroContact) :
    BatchReport Mirror XeroContact SyncError :=
  let report := unguarded (Mirror.syncContact tenantId) m contacts
  if report.refused.isEmpty then
    { report with state := report.written.foldl Mirror.resolveMergeOf report.state }
  else report

end Docketworks.Xero
