import Docketworks.Crm.PhoneCalls
import Docketworks.Xero.Companies

/-!
# What changes the phone book

Every service that writes it: `apps/company/services/contact_methods.py`, `person_service.py`,
`company_rest_service.py`, `company_merge_service.py`, `person_merge_service.py`, the endpoints of
`apps/crm/api.py`, `assign_phone_number` of `phone_call_service.py` and `apps/xero/raw_fields.py`.

* `setPrimaryPhone`, `saveContactMethod`, `deleteContactMethod` — contact methods.
* `createPersonForCompany`, `putCompanyLink`, `archivePerson`, `removeCompanyLink` — people and links.
* `createEndpoint`, `updateEndpoint`, `destroyEndpoint` — our own numbers.
* `createCompany`, `discardCompany`, `updateCompany`, `setCompanyFields` — companies, here and from Xero.
* `mergeCompanies`, `resolvePendingMerge`, `mergePeople` — merges.
* `BookChange` — all of them; each answers with the numbers it schedules a rematch for.

**Design.**  A merge is written as what it leaves, not row by row: a person has one link to a company and an
owner one method of a number, so no row of the loop meets another.  Merges move more than is kept here;
`Docketworks.Company.Merge` has the rest of the company merge.
-/

namespace Docketworks.Crm

open Library

/-- The numbers of a rematch: those there are. -/
def scheduled (numbers : List String) : List String := numbers.filter (· ≠ "")

/-! ## Contact methods -/

/-- The method `set_primary_phone` saves: the one of this number, else the primary one, else a new one. -/
def Book.primaryPhone (b : Book) (owner : Owner) (value : String) : ContactMethod :=
  match (b.phonesOf owner).find? fun method =>
      method.normalizedValue = ContactMethod.normalizePhone value with
  | some sameNumber => { sameNumber with value, isPrimary := true }
  | none =>
    match (b.phonesOf owner).find? ContactMethod.isPrimary with
    | some oldPrimary => { oldPrimary with value }
    | none => { id := b.contactMethods.freshKey, owner, methodType := .phone, value, isPrimary := true }

def setPrimaryPhone (owner : Owner) (rawValue : String) : BookCall (List String) := do
  let value := pythonStrip rawValue
  let b ← .read id
  let oldPrimary := (b.phonesOf owner).find? ContactMethod.isPrimary
  .require (ContactMethod.normalizePhone value ≠ "")
    (.validation "Phone number must contain at least one digit")
  let method := b.primaryPhone owner value
  saveMethod method
  return scheduled ((oldPrimary.map ContactMethod.normalizedValue).toList ++ [method.normalizedValue])

def Book.withoutMethod (b : Book) (id : ℕ) : Book :=
  { b with contactMethods := b.contactMethods.erase id }

def clearCompanyPrimaryPhone (company : ℕ) : BookCall (List String) := do
  let b ← .read id
  match (b.phonesOf (.company company)).find? ContactMethod.isPrimary with
  | none => return []
  | some primary =>
      .write (·.withoutMethod primary.id)
      return scheduled [primary.normalizedValue]

def phoneNumberForRematch (method : ContactMethod) : List String :=
  if method.methodType = .phone then scheduled [method.normalizedValue] else []

/-- A write payload: what was supplied. -/
structure ContactMethodWriteData where
  company : Option (Option ℕ)
  person : Option (Option ℕ)
  methodType : Option MethodType
  value : Option String
  isPrimary : Option Bool
deriving DecidableEq, Repr

def Owner.companyId : Owner → Option ℕ
  | .company id => some id
  | .person _ => none

def Owner.personId : Owner → Option ℕ
  | .company _ => none
  | .person id => some id

def Book.resolveOwner (b : Book) (data : ContactMethodWriteData) (stored : Option ContactMethod) :
    Except Refusal Owner := do
  let company ← match data.company with
    | none => .ok (stored.bind (·.owner.companyId))
    | some none => .ok none
    | some (some id) =>
        if (b.companies.find? id).isSome then .ok (some id)
        else .error (.validation "Company %(company_id)s does not exist")
  let person ← match data.person with
    | none => .ok (stored.bind (·.owner.personId))
    | some none => .ok none
    | some (some id) =>
        if (b.people.find? id).isSome then .ok (some id)
        else .error (.validation "Person %(person_id)s does not exist")
  match company, person with
  | some company, none => .ok (.company company)
  | none, some person => .ok (.person person)
  | _, _ => .error (.validation "Exactly one of company or person is required")

/-- `save_contact_method`, of a new method or of the one under `methodId`. -/
def saveContactMethod (data : ContactMethodWriteData) (methodId : Option ℕ) : BookCall (List String) := do
  let b ← .read id
  let stored := methodId.bind b.contactMethods.find?
  .require (methodId.isSome → stored.isSome) (.doesNotExist "ContactMethod")
  let owner ← .consult (·.resolveOwner data stored)
  let methodType ← .orRefuse (data.methodType <|> stored.map ContactMethod.methodType)
    (.value "unknown contact method type: ")
  let method : ContactMethod :=
    { id := (stored.map ContactMethod.id).getD b.contactMethods.freshKey
      owner, methodType
      value := (data.value <|> stored.map ContactMethod.value).getD ""
      isPrimary := (data.isPrimary <|> stored.map ContactMethod.isPrimary).getD false }
  saveMethod method
  return (stored.map phoneNumberForRematch).getD [] ++ phoneNumberForRematch method

def deleteContactMethod (methodId : ℕ) : BookCall (List String) := do
  let method ← .read (·.contactMethods.find? methodId)
  let method ← .orRefuse method (.doesNotExist "ContactMethod")
  .write (·.withoutMethod method.id)
  return phoneNumberForRematch method

/-! ## People and links -/

/-- `_person_phone_numbers`, as they are scheduled. -/
def Book.personPhoneNumbers (b : Book) (person : ℕ) : List String :=
  scheduled ((b.phonesOf (.person person)).map ContactMethod.normalizedValue)

/-- The person's link to the company, active or not. -/
def Book.linkOf (b : Book) (person company : ℕ) : Option CompanyPersonLink :=
  b.links.rows.find? fun link => link.person = person && link.company = company

/-- The person has an active link to the company. -/
def Book.withLink (b : Book) (person company : ℕ) : Book :=
  let link := (b.linkOf person company).getD
    { id := b.links.freshKey, company, person, isActive := true }
  { b with links := b.links.upsert { link with isActive := true } }

def Book.withNewPerson (b : Book) (company : ℕ) : Book :=
  Book.withLink { b with people := b.people.upsert { id := b.freshId, isActive := true } } b.freshId company

def Book.withPerson (b : Book) (person : ℕ) (isActive : Bool) : Book :=
  { b with people := b.people.modify (fun row =>
      if row.id = person then { row with isActive } else row) fun row => by split <;> rfl }

/-- The links that meet a test are inactive. -/
def Book.withoutLinks (b : Book) (test : CompanyPersonLink → Bool) : Book :=
  { b with links := b.links.modify (fun link =>
      if test link then { link with isActive := false } else link) fun link => by split <;> rfl }

/-- `classify_phone_ownership(…)["can_create_person"]`. -/
def Book.canCreatePerson (b : Book) (company : ℕ) (number : String) : Bool :=
  (b.activeEndpoint number).isNone && (b.conflictingCompany number [company] none).isNone

/-- `create_person_for_company`, with a phone number or without. -/
def createPersonForCompany (company : ℕ) (phone : Option String) : BookCall (List String) := do
  let b ← .read id
  .require (b.companies.find? company).isSome (.doesNotExist "Company")
  let rawPhone := phone.filter (· ≠ "")
  .require (∀ raw ∈ rawPhone, ContactMethod.normalizePhone raw ≠ "")
    (.value "Phone number must contain at least one digit")
  .require (∀ raw ∈ rawPhone, b.canCreatePerson company (ContactMethod.normalizePhone raw))
    (.conflict "Phone number is already owned by another CRM record")
  .write (·.withNewPerson company)
  match rawPhone with
  | none => return []
  | some raw => setPrimaryPhone (.person b.freshId) raw

def putCompanyLink (person company : ℕ) : BookCall (List String) := do
  let b ← .read id
  .require ((b.companies.find? company).isSome ∧ (b.people.find? person).isSome) (.doesNotExist "Company")
  .write fun b => (b.withLink person company).withPerson person true
  return b.personPhoneNumbers person

def archivePerson (person : ℕ) : BookCall (List String) := do
  let b ← .read id
  .require (b.people.find? person).isSome (.doesNotExist "Person")
  .write fun b => (b.withoutLinks fun link => link.person = person).withPerson person false
  return b.personPhoneNumbers person

/-- The companies left once a person's link to one is removed. -/
def Book.projectedCompanyIds (b : Book) (person company : ℕ) : List ℕ :=
  (b.companiesOf person).filter (· ≠ company)

/-- `remove_company_link`: the last active link takes the person along. -/
def removeCompanyLink (person company : ℕ) : BookCall (List String) := do
  let b ← .read id
  .require ((b.linkOf person company).any CompanyPersonLink.isActive) (.value "Active company link not found")
  let projectedCompanyIds := b.projectedCompanyIds person company
  .require (∀ method ∈ b.phonesOf (.person person),
      b.conflictingCompany method.normalizedValue projectedCompanyIds (some method.id) = none)
    (.value "Removing this link would make %(value)s conflict with %(owner)s")
  .write (·.withoutLinks fun link => link.person = person && link.company = company)
  .when (projectedCompanyIds = []) (.write (·.withPerson person false))
  return b.personPhoneNumbers person

/-! ## Our own numbers -/

/-- `_endpoint_field_errors`: what the form of an endpoint refuses. -/
def endpointFieldErrors (stored : Option PhoneEndpoint) (endpoint : PhoneEndpoint) : BookCall Unit := do
  .require (endpoint.normalizedNumber ≠ "") (.validation "number: Phone endpoint requires a number.")
  let b ← .read id
  .require ((∀ row ∈ stored, row.normalizedNumber ≠ endpoint.normalizedNumber ∨
        row.isActive ≠ endpoint.isActive) → endpoint.isActive →
      b.conflictingCompany endpoint.normalizedNumber [] none = none)
    (.validation <| "number: Phone number %(number)s already belongs to %(owner)s, " ++
      "so it can't be one of our own phone numbers.")

def createEndpoint (number : String) (isActive : Bool) : BookCall (List String) := do
  let b ← .read id
  let endpoint : PhoneEndpoint := { id := b.phoneEndpoints.freshKey, number := pythonStrip number, isActive }
  endpointFieldErrors none endpoint
  saveEndpoint endpoint
  return [endpoint.normalizedNumber]

/-- `_update_endpoint`: what was supplied. -/
def updateEndpoint (endpointId : ℕ) (number : Option String) (isActive : Option Bool) :
    BookCall (List String) := do
  let b ← .read id
  let stored ← .orRefuse (b.phoneEndpoints.find? endpointId) (.doesNotExist "PhoneEndpoint")
  let endpoint : PhoneEndpoint := { id := stored.id
                                    number := (number.map pythonStrip).getD stored.number
                                    isActive := isActive.getD stored.isActive }
  endpointFieldErrors (some stored) endpoint
  saveEndpoint endpoint
  return [stored.normalizedNumber, endpoint.normalizedNumber]

def withoutEndpoint (id : ℕ) (call : PhoneCallRecord) : PhoneCallRecord :=
  { call with originEndpoint := call.originEndpoint.filter (· ≠ id)
              destinationEndpoint := call.destinationEndpoint.filter (· ≠ id) }

/-- The endpoint is gone, and the calls forget it (`SET_NULL`). -/
def Book.withoutEndpoint (b : Book) (id : ℕ) : Book :=
  { b with
    phoneEndpoints := b.phoneEndpoints.erase id
    phoneCalls := b.phoneCalls.modify (Crm.withoutEndpoint id) fun _ => rfl }

def destroyEndpoint (endpointId : ℕ) : BookCall (List String) := do
  let b ← .read id
  let endpoint ← .orRefuse (b.phoneEndpoints.find? endpointId) (.doesNotExist "PhoneEndpoint")
  .write (·.withoutEndpoint endpoint.id)
  return [endpoint.normalizedNumber]

/-! ## Companies -/

/-- `_apply_company_phone_change`, of a phone that was supplied. -/
def applyCompanyPhoneChange (company : ℕ) (phone : Option (Option String)) : BookCall (List String) :=
  match phone with
  | none => return []
  | some raw =>
      match raw.filter fun text => pythonStrip text ≠ "" with
      | some text => setPrimaryPhone (.company company) text
      | none => clearCompanyPrimaryPhone company

/-- The company's row is this one. -/
def Book.withCompany (b : Book) (company : Company) : Book :=
  { b with companies := b.companies.upsert company }

/-- `_create_company_in_xero`, up to the push. -/
def createCompany (allowJobs : Bool) (phone : Option (Option String)) : BookCall (List String) := do
  let company ← .read (·.freshId)
  .write (·.withCompany { id := company, allowJobs, xeroArchived := false, mergedInto := none })
  applyCompanyPhoneChange company phone

/-- The company is gone: its methods and links go along (`CASCADE`), and the calls forget it. -/
def Book.withoutCompany (b : Book) (company : ℕ) : Book :=
  { b with
    companies := b.companies.erase company
    contactMethods := b.contactMethods.filter fun method => method.owner ≠ .company company
    links := b.links.filter fun link => link.company ≠ company
    phoneCalls := b.phoneCalls.modify (fun call =>
      { call with company := call.company.filter (· ≠ company) }) fun _ => rfl }

/-- `company.delete()`, where the push of a new company failed; a job of it protects it. -/
def discardCompany (company : ℕ) : BookCall (List String) := do
  let b ← .read id
  .require (b.companies.find? company).isSome (.doesNotExist "Company")
  .require (∀ job ∈ b.jobs.rows, job.company ≠ some company) (.database "ProtectedError")
  .write (·.withoutCompany company)
  return []

/-- `update_company`, up to the push. -/
def updateCompany (company : ℕ) (allowJobs : Option Bool) (phone : Option (Option String)) :
    BookCall (List String) := do
  let row ← .read (·.companies.find? company)
  let row ← .orRefuse row (.value "Company with id {company_id} not found")
  .write (·.withCompany { row with allowJobs := allowJobs.getD row.allowJobs })
  applyCompanyPhoneChange company phone

/-- The method made of a phone entry of Xero's. -/
def Book.importedPhone (b : Book) (company : ℕ) (phone : Xero.XeroPhone) : ContactMethod where
  id := b.contactMethods.freshKey
  owner := .company company
  methodType := .phone
  value := Xero.xeroPhoneValue phone
  isPrimary := phone.phoneType = some "DEFAULT"

/-- `sync_xero_phone_methods` of a company that is not merged. -/
def syncXeroPhoneMethods (company : ℕ) : List Xero.XeroPhone → BookCall (List String)
  | [] => return []
  | phone :: phones => do
      let normalized := ContactMethod.normalizePhone (Xero.xeroPhoneValue phone)
      let b ← .read id
      if normalized = "" ∨ (b.phonesOf (.company company)).any fun method =>
          method.normalizedValue = normalized then
        syncXeroPhoneMethods company phones
      else
        saveMethod (b.importedPhone company phone)
        let created ← syncXeroPhoneMethods company phones
        return normalized :: created

/-- A company's row once Xero said whether it is archived. -/
def Company.archivedAs (company : Company) (archived : Bool) : Company :=
  { company with
    xeroArchived := archived
    allowJobs :=
      if archived then false
      else if company.xeroArchived && company.mergedInto.isNone then true
      else company.allowJobs }

/-- `set_company_fields`, of a company found or just made. -/
def setCompanyFields (company : ℕ) (archived : Bool) (phones : List Xero.XeroPhone) :
    BookCall (List String) := do
  let row ← .read (·.companies.find? company)
  let row ← .orRefuse row (.doesNotExist "Company")
  .write (·.withCompany (row.archivedAs archived))
  if row.mergedInto.isSome then return [] else syncXeroPhoneMethods company phones

/-! ## Merges -/

/-- The destination has a method of this type and value. -/
def hasPair (owner : Owner) (methods : List ContactMethod) (method : ContactMethod) : Bool :=
  methods.any fun other => other.owner = owner && other.methodType = method.methodType &&
    other.normalizedValue = method.normalizedValue

/-- The owner has a primary method of this type. -/
def hasPrimary (owner : Owner) (methods : List ContactMethod) (methodType : MethodType) : Bool :=
  methods.any fun other => other.owner = owner && other.methodType = methodType && other.isPrimary

/-- The methods of one owner are another's; those he has are dropped.  `primary` says which are primary. -/
def Book.moveMethods (b : Book) (source destination : Owner) (primary : ContactMethod → Bool) : Book :=
  let kept := b.contactMethods.filter fun method =>
    !(method.owner = source && hasPair destination b.contactMethods.rows method)
  { b with contactMethods := kept.modify (fun method => { method with
      owner := if method.owner = source then destination else method.owner
      isPrimary := primary method }) fun _ => rfl }

/-- Which methods are primary once companies are merged: a moving primary wins. -/
def primaryOfCompanies (source destination : Owner) (methods : List ContactMethod)
    (method : ContactMethod) : Bool :=
  if method.owner = destination then
    if hasPair source (methods.filter ContactMethod.isPrimary) method then true
    else if hasPrimary source methods method.methodType then false
    else method.isPrimary
  else method.isPrimary

/-- Which methods are primary once people are merged: the destination's primary wins. -/
def primaryOfPeople (source destination : Owner) (methods : List ContactMethod)
    (method : ContactMethod) : Bool :=
  let taken := hasPrimary destination methods method.methodType
  if method.owner = source then method.isPrimary && !taken
  else if method.owner = destination then
    method.isPrimary || (hasPair source (methods.filter ContactMethod.isPrimary) method && !taken)
  else method.isPrimary

/-- The links of a company are another's; where a person has one there, it stays as it is. -/
def Book.moveCompanyLinks (b : Book) (source destination : ℕ) : Book :=
  let kept := b.links.filter fun link =>
    !(link.company = source && (b.linkOf link.person destination).isSome)
  { b with
    links := kept.modify (fun link =>
        if link.company = source then { link with company := destination } else link)
      fun link => by split <;> rfl }

/-- `_merge_links`: where both people have one, it is active if either was. -/
def Book.mergeLinks (b : Book) (source destination : ℕ) : Book :=
  let kept := b.links.filter fun link =>
    !(link.person = source && (b.linkOf destination link.company).isSome)
  { b with
    links := kept.modify (fun link =>
        if link.person = source then { link with person := destination }
        else if link.person = destination then
          { link with isActive :=
              link.isActive || (b.linkOf source link.company).any CompanyPersonLink.isActive }
        else link)
      fun link => by split <;> (try split) <;> rfl }

/-- The jobs and calls of a company are another's. -/
def Book.moveCompanyRecords (b : Book) (source destination : ℕ) : Book :=
  let moved := fun company : Option ℕ => if company = some source then some destination else company
  { b with
    jobs := b.jobs.modify (fun job => { job with company := moved job.company }) fun _ => rfl
    phoneCalls := b.phoneCalls.modify (fun call => { call with company := moved call.company })
      fun _ => rfl }

/-- `_move_company_contact_methods`. -/
def Book.moveCompanyMethods (b : Book) (source destination : ℕ) : Book :=
  b.moveMethods (.company source) (.company destination)
    (primaryOfCompanies (.company source) (.company destination) b.contactMethods.rows)

def Book.reassignCompanyFkRecords (b : Book) (source destination : ℕ) : Book :=
  ((b.moveCompanyMethods source destination).moveCompanyLinks source destination).moveCompanyRecords
    source destination

def mergeCompanies (source destination : ℕ) : BookCall (List String) := do
  .require (source ≠ destination) (.value "Source and destination Company must be different")
  let b ← .read id
  let old ← .orRefuse (b.companies.find? source) (.value "Source Company {source_id} does not exist")
  let into ← .orRefuse (b.companies.find? destination)
    (.value "Destination Company {destination_id} does not exist")
  .require (into.mergedInto = none) (.value "Destination Company {destination_id} is already merged")
  .require (old.mergedInto = none ∨ old.mergedInto = some destination)
    (.value "Source Company {source_id} is already merged into {source.merged_into_id}")
  .write (·.withCompany { into with allowJobs := into.allowJobs || old.allowJobs })
  .write (·.withCompany { old with mergedInto := some destination, allowJobs := false })
  .write (·.reassignCompanyFkRecords source destination)
  return []

/-- `get_final_company`. -/
def Book.finalCompany (b : Book) (company : ℕ) : ℕ :=
  follow (fun id => (b.companies.find? id).bind Company.mergedInto) b.companies.rows.length [company]
    company

/-- `resolve_pending_merge`, of a company whose contact Xero merged into that of `mergedInto`. -/
def resolvePendingMerge (company mergedInto : ℕ) : BookCall (List String) := do
  let b ← .read id
  let row ← .orRefuse (b.companies.find? company) (.doesNotExist "Company")
  if row.mergedInto.isSome ∨ b.companies.find? mergedInto = none then return []
  else
    .write (·.withCompany { row with mergedInto := some mergedInto, allowJobs := false })
    let destination ← .read (·.finalCompany company)
    .when (destination ≠ company) (.write (·.reassignCompanyFkRecords company destination))
    return []

/-- The source's calls are the destination's, and the source is gone. -/
def Book.replacePerson (b : Book) (source destination : ℕ) : Book :=
  { b with
    people := b.people.erase source
    phoneCalls := b.phoneCalls.modify (fun call =>
      { call with person := if call.person = some source then some destination else call.person })
      fun _ => rfl }

/-- `_merge_contact_methods`. -/
def Book.mergeMethods (b : Book) (source destination : ℕ) : Book :=
  b.moveMethods (.person source) (.person destination)
    (primaryOfPeople (.person source) (.person destination) b.contactMethods.rows)

def mergePeople (source destination : ℕ) : BookCall (List String) := do
  .require (source ≠ destination) (.value "Source and destination Person must be different")
  let b ← .read id
  let old ← .orRefuse (b.people.find? source) (.value "Source Person {source_id} does not exist")
  let into ← .orRefuse (b.people.find? destination)
    (.value "Destination Person {destination_id} does not exist")
  .write (·.withPerson destination (into.isActive || old.isActive))
  .write (·.mergeLinks source destination)
  .write (·.mergeMethods source destination)
  .write (·.replacePerson source destination)
  return []

/-! ## Numbers of calls -/

/-- The method `assign_phone_number` saves. -/
def Book.assignedPhone (b : Book) (owner : Owner) (phoneNumber : String) (isPrimary : Bool) :
    ContactMethod :=
  let shouldBePrimary := isPrimary || !(b.phonesOf owner).any ContactMethod.isPrimary
  match (b.phonesOf owner).find? fun method =>
      method.normalizedValue = ContactMethod.normalizePhone phoneNumber with
  | some method =>
      { method with value := pythonStrip phoneNumber, isPrimary := shouldBePrimary || method.isPrimary }
  | none =>
      { id := b.contactMethods.freshKey, owner, methodType := .phone
        value := pythonStrip phoneNumber, isPrimary := shouldBePrimary }

/-- `assign_phone_number`; it rematches at once. -/
def assignPhoneNumber (phoneNumber : String) (company : ℕ) (person : Option ℕ) (isPrimary : Bool) :
    BookCall (List String) := do
  let b ← .read id
  let normalized := ContactMethod.normalizePhone phoneNumber
  .require (normalized ≠ "") (.value "phone number is required")
  .require (b.activeEndpoint normalized = none)
    (.value "This is one of our own phone numbers, so it can't be given to a company.")
  .require (∀ id ∈ person, (b.people.find? id).any Person.isActive) (.value "Person not found")
  .require (∀ id ∈ person, company ∈ b.companiesOf id)
    (.value "Person is not linked to the selected company")
  .require (person = none → (b.companies.find? company).isSome) (.value "Company not found")
  let owner := (person.map Owner.person).getD (.company company)
  .require (b.conflictingCompany normalized [company] none = none)
    (.value "phone number already belongs to %(owner)s")
  saveMethod (b.assignedPhone owner phoneNumber isPrimary)
  .write (rematchCallsForNumbers [normalized])
  return []

/-! ## All of them -/

inductive BookChange where
  | saveContactMethod (data : ContactMethodWriteData) (methodId : Option ℕ)
  | deleteContactMethod (methodId : ℕ)
  | createPersonForCompany (company : ℕ) (phone : Option String)
  | putCompanyLink (person company : ℕ)
  | archivePerson (person : ℕ)
  | removeCompanyLink (person company : ℕ)
  | createEndpoint (number : String) (isActive : Bool)
  | updateEndpoint (endpointId : ℕ) (number : Option String) (isActive : Option Bool)
  | destroyEndpoint (endpointId : ℕ)
  | createCompany (allowJobs : Bool) (phone : Option (Option String))
  | discardCompany (company : ℕ)
  | updateCompany (company : ℕ) (allowJobs : Option Bool) (phone : Option (Option String))
  | setCompanyFields (company : ℕ) (archived : Bool) (phones : List Xero.XeroPhone)
  | mergeCompanies (source destination : ℕ)
  | resolvePendingMerge (company mergedInto : ℕ)
  | mergePeople (source destination : ℕ)
  | assignPhoneNumber (phoneNumber : String) (company : ℕ) (person : Option ℕ) (isPrimary : Bool)
deriving DecidableEq, Repr

/-- The service that makes the change. -/
def BookChange.call : BookChange → BookCall (List String)
  | .saveContactMethod data methodId => Crm.saveContactMethod data methodId
  | .deleteContactMethod methodId => Crm.deleteContactMethod methodId
  | .createPersonForCompany company phone => Crm.createPersonForCompany company phone
  | .putCompanyLink person company => Crm.putCompanyLink person company
  | .archivePerson person => Crm.archivePerson person
  | .removeCompanyLink person company => Crm.removeCompanyLink person company
  | .createEndpoint number isActive => Crm.createEndpoint number isActive
  | .updateEndpoint endpointId number isActive => Crm.updateEndpoint endpointId number isActive
  | .destroyEndpoint endpointId => Crm.destroyEndpoint endpointId
  | .createCompany allowJobs phone => Crm.createCompany allowJobs phone
  | .discardCompany company => Crm.discardCompany company
  | .updateCompany company allowJobs phone => Crm.updateCompany company allowJobs phone
  | .setCompanyFields company archived phones => Crm.setCompanyFields company archived phones
  | .mergeCompanies source destination => Crm.mergeCompanies source destination
  | .resolvePendingMerge company mergedInto => Crm.resolvePendingMerge company mergedInto
  | .mergePeople source destination => Crm.mergePeople source destination
  | .assignPhoneNumber phoneNumber company person isPrimary =>
      Crm.assignPhoneNumber phoneNumber company person isPrimary

end Docketworks.Crm
