import Docketworks.Library.Components
import Mathlib.Algebra.Order.Ring.Rat
import Mathlib.Data.Finset.Max
import Mathlib.Data.Finset.Sort
import Mathlib.Data.Prod.Lex
import Mathlib.Data.String.Basic

/-!
# The duplicate-identity report

`apps/company/services/duplicate_identity_report.py`: what the evidence about pairs of companies, or
of people, is grouped into.

* `PairEvidence` — the dict of a run: what each pair shares.
* `companyStrength`, `personStrength` — which pairs are to be merged and which to be reviewed.
* `companyGroups`, `personGroups` — the groups, with their ids and fingerprints.
* `duplicateReport` — both, people by the companies their merges leave.

**Design.**  A UUID is the number it writes: its text is of one width, so texts are in the order of
the numbers.  A dict by id is a function of the id, and a dict of pairs the list of its items in the
order they were put in, that of the records' reading.  A group's members are a set: the report lists
them by name, those of one name as the set comes.  The name handling, the similarity, the hash and
Python's case folding are parameters.
-/

namespace Docketworks.DuplicateIdentity

open Library

/-! ## Evidence -/

inductive EvidenceKind where
  | name
  | email
  | emailDomain
  | phone
  | address
  | sharedPerson
deriving DecidableEq, Repr

def EvidenceKind.text : EvidenceKind → String
  | .name => "name"
  | .email => "email"
  | .emailDomain => "email_domain"
  | .phone => "phone"
  | .address => "address"
  | .sharedPerson => "shared_person"

lemma EvidenceKind.text_injective : Function.Injective EvidenceKind.text := by
  intro kind other h
  cases kind <;> cases other <;> first | rfl | simp [EvidenceKind.text] at h

/-- Kinds are in the order of their texts. -/
instance : LinearOrder EvidenceKind := LinearOrder.lift' EvidenceKind.text EvidenceKind.text_injective

/-- Two records, the lesser id first. -/
abbrev Pair := ℕ × ℕ

/-- The values a pair shares, of each kind. -/
abbrev Matches := Finset (EvidenceKind × String)

/-- `matches.get(kind, set())`. -/
def Matches.values (found : Matches) (kind : EvidenceKind) : Finset String :=
  (found.filter fun item => item.1 = kind).image Prod.snd

structure PairEvidence where
  items : List (Pair × Matches)
  nodup : (items.map Prod.fst).Nodup
  ordered : ∀ item ∈ items, item.1.1 < item.1.2

def maxRareOwners : ℕ := 3

def maxAutoGroupSize : ℕ := 5

def companyNameSimilarity : ℚ := 90

/-- What the report computes with. -/
structure Context where
  wratio : String → String → ℚ
  normalizeCompanyName : String → String
  normaliseText : String → String
  /-- `person_names_strongly_compatible`. -/
  namesCompatible : String → String → Bool
  nameTokens : String → ℕ
  genericEmail : String → Bool
  casefold : String → String
  sha256 : String → String
  uuid : ℕ → String

structure Company where
  id : ℕ
  name : String
  xeroArchived : Bool
  allowJobs : Bool
  djangoCreatedAt : ℤ
  jobs : ℕ
  links : ℕ

structure Person where
  id : ℕ
  name : String
  isActive : Bool
  createdAt : ℤ
  activity : ℕ
  /-- The companies they are linked to, in no order. -/
  companies : Multiset ℕ
  methods : ℕ

/-! ## The rows of a group -/

inductive EntityKind where
  | company
  | person
deriving DecidableEq, Repr

def EntityKind.text : EntityKind → String
  | .company => "company"
  | .person => "person"

inductive Recommendation where
  | merge
  | review
deriving DecidableEq, Repr

/-- `DuplicateIdentityEvidence`. -/
structure Evidence where
  kind : String
  normalizedValue : String
  ownerCount : ℕ
deriving DecidableEq, Repr

structure Group where
  groupId : String
  fingerprint : String
  recommendation : Recommendation
  reasonCodes : List String
  canonicalId : Option ℕ
  members : Finset ℕ
  evidence : List Evidence

/-- The item is about two of the members. -/
def Inside (members : Finset ℕ) (pair : Pair) : Prop := pair.1 ∈ members ∧ pair.2 ∈ members

instance (members : Finset ℕ) (pair : Pair) : Decidable (Inside members pair) :=
  inferInstanceAs (Decidable (_ ∧ _))

/-- The items about the members. -/
def itemsInside (members : Finset ℕ) (evidence : PairEvidence) : Finset (Pair × Matches) :=
  (evidence.items.filter fun item => Inside members item.1).toFinset

/-- `_evidence_for_members`: what the members share, each value with the number that share it. -/
def evidenceForMembers (members : Finset ℕ) (evidence : PairEvidence) : List Evidence :=
  let values := (itemsInside members evidence).biUnion Prod.snd
  let owners (key : EvidenceKind × String) : Finset ℕ :=
    ((itemsInside members evidence).filter fun item => key ∈ item.2).biUnion
      fun item => {item.1.1, item.1.2}
  ((values.image toLex).sort (· ≤ ·)).map fun key =>
    ⟨(ofLex key).1.text, (ofLex key).2, (owners (ofLex key)).card⟩

variable (ctx : Context)

/-- `_group_id`. -/
def groupIdOf (kind : EntityKind) (members : Finset ℕ) : String :=
  let identity := kind.text ++ ":" ++ ":".intercalate ((members.sort (· ≤ ·)).map ctx.uuid)
  String.ofList ((ctx.sha256 identity).toList.take 16)

/-- `_fingerprint`. -/
def fingerprintOf (kind : EntityKind) (members : Finset ℕ) (evidence : List Evidence) : String :=
  let evidenceValues := evidence.map fun item =>
    item.kind ++ "=" ++ item.normalizedValue ++ ":" ++ toString item.ownerCount
  ctx.sha256 ("|".intercalate (kind.text :: (members.sort (· ≤ ·)).map ctx.uuid ++ evidenceValues))

/-- The member of the least rank. -/
def canonicalOf {R : Type} [LinearOrder R] (rank : ℕ → R) (members : Finset ℕ) : ℕ :=
  (members.filter fun k => ∀ m ∈ members, rank k ≤ rank m).min.untopD 0

/-- The reason codes of the pairs among the members, and of those a component too large left over. -/
def reasonCodesOf (reasons : Pair × Matches → Finset String) (demoted : List Pair)
    (members : Finset ℕ) (evidence : PairEvidence) : List String :=
  let oversized : Finset String :=
    if ∃ pair ∈ demoted, Inside members pair then {"oversized_component"} else ∅
  ((itemsInside members evidence).biUnion reasons ∪ oversized).sort (· ≤ ·)

/-- A row of the report. -/
def groupOf (kind : EntityKind) (evidence : PairEvidence) (recommendation : Recommendation)
    (reasonCodes : List String) (canonical : ℕ) (members : Finset ℕ) : Group where
  groupId := groupIdOf ctx kind members
  fingerprint := fingerprintOf ctx kind members (evidenceForMembers members evidence)
  recommendation := recommendation
  reasonCodes := reasonCodes
  canonicalId := if recommendation = .merge then some canonical else none
  members := members
  evidence := evidenceForMembers members evidence

/-- The rows in the report's order: merges first, then by the first member's name and by id. -/
def sortGroups (name : ℕ → String) (groups : List Group) : List Group :=
  let key (group : Group) : Bool ×ₗ WithTop String ×ₗ String :=
    toLex (group.recommendation ≠ .merge,
      toLex ((group.members.image fun k => ctx.casefold (name k)).min, group.groupId))
  groups.insertionSort fun group other => key group ≤ key other

/-! ## Companies -/

/-- How two records are to be handled. -/
inductive Strength where
  | merge
  | review
  | context
deriving DecidableEq, Repr

section Companies

variable (companies : ℕ → Company)

/-- `_company_rank`: the least is kept. -/
def companyRank (company : Company) : Bool ×ₗ Bool ×ₗ Bool ×ₗ ℤ ×ₗ ℤ ×ₗ ℕ :=
  toLex (company.xeroArchived, toLex (!company.allowJobs,
    toLex (ctx.normalizeCompanyName company.name ≠ ctx.normaliseText company.name,
      toLex (-((company.jobs + company.links : ℕ) : ℤ), toLex (company.djangoCreatedAt, company.id)))))

/-- What a pair shares that organisations share; an email and its domain count once. -/
def organisationFamilies (found : Matches) : Finset EvidenceKind :=
  ((found.image Prod.fst) ∩ {.email, .emailDomain, .phone, .address}).image
    fun kind => if kind = .emailDomain then .email else kind

def similarNames (item : Pair × Matches) : Bool :=
  companyNameSimilarity ≤ ctx.wratio (ctx.normalizeCompanyName (companies item.1.1).name)
    (ctx.normalizeCompanyName (companies item.1.2).name)

/-- Which pairs are merged, and which are for review; a lone shared detail is context. -/
def companyStrength (item : Pair × Matches) : Strength :=
  let exactName := item.2.values .name ≠ ∅
  let families := organisationFamilies item.2
  let sharedPeople := item.2.values .sharedPerson
  if exactName ∨ (similarNames ctx companies item = true ∧ (families ≠ ∅ ∨ sharedPeople ≠ ∅)) then .merge
  else if sharedPeople ≠ ∅ ∨ 2 ≤ families.card then .review
  else .context

def companyReasons (item : Pair × Matches) : Finset String :=
  (if item.2.values .name ≠ ∅ then {"exact_company_name"} else ∅) ∪
    (if similarNames ctx companies item then {"similar_company_name"} else ∅) ∪
    (if organisationFamilies item.2 ≠ ∅ then {"shared_organisation_identity"} else ∅) ∪
    if item.2.values .sharedPerson ≠ ∅ then {"shared_person_identity"} else ∅

variable (evidence : PairEvidence)

/-- The pairs of a strength, in the order of the dict. -/
def companyEdges (strength : Strength) : List Pair :=
  (evidence.items.filter fun item => companyStrength ctx companies item = strength).map Prod.fst

/-- The components small enough to be merged. -/
def acceptedCompanies : List (Finset ℕ) :=
  within maxAutoGroupSize (components (companyEdges ctx companies evidence .merge))

/-- The pairs to be merged of a component too large. -/
def demotedCompanies : List Pair :=
  (companyEdges ctx companies evidence .merge).filter fun pair =>
    ∃ c ∈ components (companyEdges ctx companies evidence .merge),
      maxAutoGroupSize < c.card ∧ (pair.1 ∈ c ∨ pair.2 ∈ c)

/-- The company that a company's merge group keeps. -/
def effectiveCompany : ℕ → ℕ :=
  ownerOf (acceptedCompanies ctx companies evidence)
    (canonicalOf fun id => companyRank ctx (companies id))

def reviewedCompanies : List (Finset ℕ) :=
  components (across (effectiveCompany ctx companies evidence)
    (companyEdges ctx companies evidence .review ++ demotedCompanies ctx companies evidence))

def companyGroup (recommendation : Recommendation) (members : Finset ℕ) : Group :=
  let reasonCodes := reasonCodesOf (companyReasons ctx companies)
    (demotedCompanies ctx companies evidence) members evidence
  let reasonCodes := if recommendation = .review ∧ reasonCodes = ["shared_person_identity"] then
    ["shared_person_only"] else reasonCodes
  groupOf ctx .company evidence recommendation reasonCodes
    (canonicalOf (fun id => companyRank ctx (companies id)) members) members

def companyGroups : List Group :=
  sortGroups ctx (fun id => (companies id).name)
    ((acceptedCompanies ctx companies evidence).map (companyGroup ctx companies evidence .merge) ++
      (reviewedCompanies ctx companies evidence).map (companyGroup ctx companies evidence .review))

end Companies

/-! ## People -/

section People

variable (people : ℕ → Person) (ownerCount : EvidenceKind → String → ℕ) (effective : ℕ → ℕ)

/-- `_person_rank`: the least is kept. -/
def personRank (person : Person) : Bool ×ₗ ℤ ×ₗ ℤ ×ₗ Bool ×ₗ ℤ ×ₗ ℕ :=
  toLex (!person.isActive, toLex (-(person.activity : ℤ),
    toLex (-((person.companies.card + person.methods : ℕ) : ℤ),
      toLex (ctx.nameTokens person.name < 2, toLex (person.createdAt, person.id)))))

/-- Which pairs are merged, by name within a company or by name and a rare contact, and which are
for review. -/
def personStrength (item : Pair × Matches) : Strength × Finset String :=
  let first := people item.1.1
  let second := people item.1.2
  let companiesOf (person : Person) : Finset ℕ := (person.companies.map effective).toFinset
  let sameCompany := companiesOf first ∩ companiesOf second ≠ ∅
  let rareEmail := ∃ value ∈ item.2.values .email,
    ownerCount .email value ≤ maxRareOwners ∧ ctx.genericEmail value = false
  let rarePhone := ∃ value ∈ item.2.values .phone, ownerCount .phone value ≤ maxRareOwners
  if sameCompany ∧ item.2.values .name ≠ ∅ then (.merge, {"same_company_exact_name"})
  else if ctx.namesCompatible first.name second.name = true ∧ (rareEmail ∨ rarePhone) then
    (.merge, {"compatible_name_and_contact"})
  else if rareEmail ∨ rarePhone then (.review, {"conflicting_names_shared_contact"})
  else (.context, ∅)

variable (evidence : PairEvidence)

/-- The pairs of a strength, in the order of the dict. -/
def personEdges (strength : Strength) : List Pair :=
  (evidence.items.filter fun item =>
    (personStrength ctx people ownerCount effective item).1 = strength).map Prod.fst

/-- The components small enough to be merged. -/
def acceptedPeople : List (Finset ℕ) :=
  within maxAutoGroupSize (components (personEdges ctx people ownerCount effective evidence .merge))

/-- Every pair of a component too large. -/
def demotedPeople : List Pair :=
  ((components (personEdges ctx people ownerCount effective evidence .merge)).filter
    fun c => maxAutoGroupSize < c.card).flatMap fun c =>
      ((c.sort (· ≤ ·)).product (c.sort (· ≤ ·))).filter fun pair => pair.1 < pair.2

/-- `auto_owner`: the least of a person's merge group. -/
def autoOwner : ℕ → ℕ :=
  ownerOf (acceptedPeople ctx people ownerCount effective evidence) (canonicalOf id)

/-- The components of the review pairs that no merge settles. -/
def reviewedPeople : List (Finset ℕ) :=
  components (across (autoOwner ctx people ownerCount effective evidence)
    (personEdges ctx people ownerCount effective evidence .review ++
      demotedPeople ctx people ownerCount effective evidence))

def personGroup (recommendation : Recommendation) (members : Finset ℕ) : Group :=
  groupOf ctx .person evidence recommendation
    (reasonCodesOf (fun item => (personStrength ctx people ownerCount effective item).2)
      (demotedPeople ctx people ownerCount effective evidence) members evidence)
    (canonicalOf (fun id => personRank ctx (people id)) members) members

def personGroups : List Group :=
  sortGroups ctx (fun id => (people id).name)
    ((acceptedPeople ctx people ownerCount effective evidence).map
        (personGroup ctx people ownerCount effective evidence .merge) ++
      (reviewedPeople ctx people ownerCount effective evidence).map
        (personGroup ctx people ownerCount effective evidence .review))

end People

/-- The groups of companies, and of people by the companies these merges leave. -/
def duplicateReport (companies : ℕ → Company) (people : ℕ → Person)
    (ownerCount : EvidenceKind → String → ℕ) (companyEvidence personEvidence : PairEvidence) :
    List Group × List Group :=
  (companyGroups ctx companies companyEvidence,
    personGroups ctx people ownerCount (effectiveCompany ctx companies companyEvidence) personEvidence)

end Docketworks.DuplicateIdentity
