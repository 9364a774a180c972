import Docketworks.Core.Errors
import Docketworks.Core.Text
import Docketworks.Library.Table

/-!
# The phone book

The numbers of companies, of people and of our own lines (`apps/company/models.py`,
`PhoneEndpoint` of `apps/crm/models.py`), with the guards on their saves.

* `ContactMethod.normalizePhone` — the one form a number is compared in.
* `Book` — companies, people, links, contact methods, endpoints, and the calls and jobs they reach.
* `Book.ownerCompanyIds`, `Book.conflictingCompany`, `Book.checkPhoneAssignment` — one number, one company.
* `saveMethod`, `saveEndpoint` — `ContactMethod.save` and `PhoneEndpoint.save`.

**Design.**  `normalized_value` and `normalized_number` are rewritten by every save that writes the value
they come from, so they are read off the value here and no row disagrees with its own.  Labels and
sources of methods, labels, types and staff of endpoints, and which link is a company's primary one are
left out, as are names: a message keeps its placeholders.
-/

namespace Docketworks.Crm

open Library

/-! ## Numbers -/

inductive MethodType where
  | phone
  | email
deriving DecidableEq, Repr

/-- Digits as a number: behind `+64` where they are a national number. -/
def internationalForm : List Char → String
  | [] => ""
  | '6' :: '4' :: digits => "+64" ++ String.ofList digits
  | '0' :: digit :: digits => "+64" ++ String.ofList (digit :: digits)
  | digits => "+" ++ String.ofList digits

def ContactMethod.normalizePhone (value : String) : String :=
  internationalForm (value.toList.filter isPythonDigit)

/-- `normalize_value`; the case of letters outside ASCII is left alone. -/
def normalizeValue : MethodType → String → String
  | .phone, value => ContactMethod.normalizePhone value
  | .email, value => (pythonStrip value).toLower

lemma normalizePhone_behindCode {digits : List Char} (h : ∀ c ∈ digits, isPythonDigit c = true) :
    ContactMethod.normalizePhone ("+64" ++ String.ofList digits) = "+64" ++ String.ofList digits := by
  have hcode : ("+64" ++ String.ofList digits).toList.filter isPythonDigit = '6' :: '4' :: digits := by
    simp only [String.toList_append, String.toList_ofList, List.filter_append]
    rw [List.filter_eq_self.mpr h]
    rfl
  unfold ContactMethod.normalizePhone
  rw [hcode]
  rfl

lemma normalizePhone_idem (value : String) :
    ContactMethod.normalizePhone (ContactMethod.normalizePhone value) =
      ContactMethod.normalizePhone value := by
  have hdigits : ∀ c ∈ value.toList.filter isPythonDigit, isPythonDigit c = true :=
    fun c hc => (List.mem_filter.mp hc).2
  rw [ContactMethod.normalizePhone.eq_def value]
  generalize value.toList.filter isPythonDigit = kept at hdigits
  unfold internationalForm
  split
  · rfl
  · exact normalizePhone_behindCode fun c hc =>
      hdigits c (List.mem_cons_of_mem _ (List.mem_cons_of_mem _ hc))
  · exact normalizePhone_behindCode fun c hc => hdigits c (List.mem_cons_of_mem _ hc)
  · rename_i hnone hnotCode hnotNational
    have hkept : ("+" ++ String.ofList kept).toList.filter isPythonDigit = kept := by
      simp only [String.toList_append, String.toList_ofList, List.filter_append]
      rw [List.filter_eq_self.mpr hdigits]
      rfl
    unfold ContactMethod.normalizePhone
    rw [hkept, internationalForm.eq_4 _ hnone hnotCode hnotNational]

/-! ## Rows -/

/-- A company, as far as calls are attributed to it. -/
structure Company where
  id : ℕ
  allowJobs : Bool
  xeroArchived : Bool
  mergedInto : Option ℕ
deriving DecidableEq, Repr

structure Person where
  id : ℕ
  isActive : Bool
deriving DecidableEq, Repr

structure CompanyPersonLink where
  id : ℕ
  company : ℕ
  person : ℕ
  isActive : Bool
deriving DecidableEq, Repr

/-- Whose a contact method is: the constraint `contact_method_one_owner`. -/
inductive Owner where
  | company (id : ℕ)
  | person (id : ℕ)
deriving DecidableEq, Repr

/-- The company or person it is. -/
def Owner.id : Owner → ℕ
  | .company id => id
  | .person id => id

/-- A phone number or email address of a company or person. -/
structure ContactMethod where
  id : ℕ
  owner : Owner
  methodType : MethodType
  value : String
  isPrimary : Bool
deriving DecidableEq, Repr

/-- The column `normalized_value`. -/
def ContactMethod.normalizedValue (method : ContactMethod) : String :=
  normalizeValue method.methodType method.value

/-- The method is a phone number, this one. -/
def ContactMethod.dials (method : ContactMethod) (number : String) : Bool :=
  method.methodType = .phone && method.normalizedValue = number

/-- One of our own numbers. -/
structure PhoneEndpoint where
  id : ℕ
  number : String
  isActive : Bool
deriving DecidableEq, Repr

/-- The column `normalized_number`. -/
def PhoneEndpoint.normalizedNumber (endpoint : PhoneEndpoint) : String :=
  ContactMethod.normalizePhone endpoint.number

inductive Direction where
  | inbound
  | outbound
  | internal
  | unknown
deriving DecidableEq, Repr

/-- How a call relates to our endpoints and the phone book. -/
structure CallClassification where
  direction : Direction
  ourNumber : Option String
  externalNumber : Option String
  originEndpoint : Option ℕ
  destinationEndpoint : Option ℕ
  company : Option ℕ
  person : Option ℕ
deriving DecidableEq, Repr

/-- A call imported from the provider, under the provider's id. -/
structure PhoneCallRecord extends CallClassification where
  providerCallId : String
  origin : Option String
  destination : Option String
  job : Option ℕ
deriving DecidableEq, Repr

/-- A job, as far as calls are put on it. -/
structure Job where
  id : ℕ
  company : Option ℕ
deriving DecidableEq, Repr

structure Book where
  companies : Table Company.id
  people : Table Person.id
  links : Table CompanyPersonLink.id
  contactMethods : Table ContactMethod.id
  phoneEndpoints : Table PhoneEndpoint.id
  phoneCalls : Table PhoneCallRecord.providerCallId
  jobs : Table Job.id

/-- A service call on these tables. -/
abbrev BookCall := Transaction Book Refusal

/-- An id no company or person has and no row refers to: ids are random. -/
def Book.freshId (b : Book) : ℕ :=
  b.companies.freshKey + b.people.freshKey + (b.contactMethods.rows.map (·.owner.id)).sum +
    (b.links.rows.map fun link => link.company + link.person).sum

/-! ## One number, one company -/

namespace Book

variable (b : Book)

/-- The companies a person has an active link to. -/
def companiesOf (person : ℕ) : List ℕ :=
  (b.links.rows.filter fun link => link.person = person && link.isActive).map CompanyPersonLink.company

def ownerCompanyIds : Owner → List ℕ
  | .company id => [id]
  | .person id => b.companiesOf id

/-- The active endpoint under a number; `normalized_number` is unique. -/
def activeEndpoint (number : String) : Option PhoneEndpoint :=
  b.phoneEndpoints.rows.find? fun endpoint => endpoint.isActive && endpoint.normalizedNumber = number

/-- `conflicting_company`: a phone method of this number with none of these companies. -/
def conflictingCompany (number : String) (effectiveCompanyIds : List ℕ) (excludeId : Option ℕ) :
    Option ContactMethod :=
  b.contactMethods.rows.find? fun other => other.dials number && some other.id ≠ excludeId &&
    (b.ownerCompanyIds other.owner).all fun company => company ∉ effectiveCompanyIds

/-- The stored row has this number and owner already. -/
def grandfathered (method : ContactMethod) : Bool :=
  (b.contactMethods.find? method.id).any fun stored =>
    stored.normalizedValue = method.normalizedValue && stored.owner = method.owner

def checkPhoneAssignment (method : ContactMethod) : Except Refusal Unit :=
  if b.grandfathered method then .ok ()
  else if (b.activeEndpoint method.normalizedValue).isSome then
    .error (.validation
      "This is one of our own phone numbers, so it can't be saved as a company's phone number.")
  else if (b.conflictingCompany method.normalizedValue (b.ownerCompanyIds method.owner)
      (some method.id)).isSome then
    .error (.validation "phone number already belongs to %(owner)s")
  else .ok ()

/-- The phone methods of an owner. -/
def phonesOf (owner : Owner) : List ContactMethod :=
  b.contactMethods.rows.filter fun method => method.owner = owner && method.methodType = .phone

end Book

/-! ## Saving -/

/-- A method once another one was saved: the owner has one primary of a type. -/
def demoted (saved method : ContactMethod) : ContactMethod :=
  if saved.isPrimary && method.methodType = saved.methodType && method.owner = saved.owner &&
      method.id ≠ saved.id then { method with isPrimary := false }
  else method

@[simp] lemma id_demoted {saved : ContactMethod} (method : ContactMethod) :
    (demoted saved method).id = method.id := by
  unfold demoted
  split <;> rfl

/-- The methods once one was saved. -/
def Book.withMethod (b : Book) (method : ContactMethod) : Book :=
  { b with contactMethods := (b.contactMethods.modify (demoted method) id_demoted).upsert method }

/-- `ContactMethod.save`. -/
def saveMethod (method : ContactMethod) : BookCall Unit := do
  .require (method.normalizedValue ≠ "") (.value "contact method requires a value")
  .when (method.methodType = .phone) (.consult (·.checkPhoneAssignment method))
  let methods ← .read (·.contactMethods.rows)
  .require (∀ other ∈ methods, other.id ≠ method.id → other.owner = method.owner →
      other.methodType = method.methodType → other.normalizedValue ≠ method.normalizedValue)
    (.database "unique_company_contact_method_value, unique_person_contact_method_value")
  .write (·.withMethod method)

def Book.activeNumberChanged (b : Book) (endpoint : PhoneEndpoint) : Bool :=
  (b.phoneEndpoints.find? endpoint.id).all fun stored =>
    stored.normalizedNumber ≠ endpoint.normalizedNumber || stored.isActive ≠ endpoint.isActive

def Book.withEndpoint (b : Book) (endpoint : PhoneEndpoint) : Book :=
  { b with phoneEndpoints := b.phoneEndpoints.upsert endpoint }

/-- `PhoneEndpoint.save`. -/
def saveEndpoint (endpoint : PhoneEndpoint) : BookCall Unit := do
  .require (endpoint.normalizedNumber ≠ "") (.value "phone endpoint requires a phone number")
  let b ← .read id
  .require (endpoint.isActive ∧ b.activeNumberChanged endpoint →
      b.conflictingCompany endpoint.normalizedNumber [] none = none)
    (.validation
      "Phone number %(number)s already belongs to %(owner)s, so it can't be one of our own phone numbers")
  .require (∀ other ∈ b.phoneEndpoints.rows, other.id ≠ endpoint.id →
      other.normalizedNumber ≠ endpoint.normalizedNumber) (.database "normalized_number")
  .write (·.withEndpoint endpoint)

end Docketworks.Crm
