import Docketworks.Crm.BookChanges
import Docketworks.Library.Machine

/-!
# Calls keep up with the phone book

A change to the phone book schedules a rematch for the numbers it took or gave away, and a worker runs it
some time later; meanwhile others edit, and an import stores calls by the phone book it began with.

* `crm` — every order of changes, rematches, imports and edits of calls and jobs.
* `Book.SameAt` — nothing a number is classified by changed; `sameAt_…` for each change.
* `System.Settled` — every call is classified as it would be now, or a rematch of its number is due.
* `calls_classified_as_imported_afresh` — so it stays, where no change passes a stored call's number by.

**Design.**  What a call is classified by is read number by number: the active endpoint, the owners of the
number, and what each owner is found under.  A change is judged at the numbers of stored calls alone.
-/

namespace Docketworks.Crm

open Library

/-! ## The system -/

/-- The tables, the rematch tasks that are queued, and the phone book as the import under way read it. -/
structure System where
  book : Book
  pending : List (List String)
  importing : Option Book

/-- One party moves. -/
inductive Step where
  | change (change : BookChange)
  | rematch (position : ℕ)
  | beginImport
  | importCall (payload : CallPayload)
  | linkCall (callId : String) (jobId : ℕ)
  | unlinkCall (callId : String)
  /-- `update_job` of the job's company, also as an undo. -/
  | updateJob (jobId : ℕ) (company : Option ℕ)
deriving DecidableEq, Repr

def updateJobCompany (jobId : ℕ) (company : Option ℕ) : BookCall Unit := do
  let b ← .read id
  let job ← .orRefuse (b.jobs.find? jobId) (.doesNotExist "Job")
  .require (∀ id ∈ company, (b.companies.find? id).isSome) (.value "%(relation)s with id %(value)s not found")
  .write fun b => { b with jobs := b.jobs.put { job with company } }

namespace System

/-- The state after a call that edits calls or jobs. -/
def after (s : System) (call : BookCall Unit) : Option System :=
  match call.run s.book with
  | .ok (_, book) => some { s with book }
  | .error _ => none

/-- `schedule_phone_rematch`: no numbers, no task. -/
def schedule (s : System) (numbers : List String) (book : Book) : System :=
  { s with book, pending := if numbers = [] then s.pending else s.pending ++ [numbers] }

end System

/-- A refused step is none. -/
def crm : Machine System Step
  | s, .change change =>
      match change.call.run s.book with
      | .ok (numbers, book) => some (s.schedule numbers book)
      | .error _ => none
  | s, .rematch position =>
      s.pending[position]?.map fun numbers =>
        { s with book := rematchCallsForNumbers numbers s.book, pending := s.pending.eraseIdx position }
  | s, .beginImport => some { s with importing := some s.book }
  | s, .importCall payload =>
      if isCallPayload payload then
        s.importing.bind fun read => s.after (upsertCallRecord payload (read.phoneMatcher none))
      else some s
  | s, .linkCall callId jobId => s.after (linkPhoneCallToJob callId jobId)
  | s, .unlinkCall callId => s.after (unlinkPhoneCallJob callId)
  | s, .updateJob jobId company => s.after (updateJobCompany jobId company)

/-! ## Number by number -/

/-- The owner has the number. -/
def Book.Holds (b : Book) (n : String) (owner : Owner) : Prop :=
  ∃ method ∈ b.contactMethods.rows, method.dials n = true ∧ method.owner = owner

instance (b : Book) (n : String) (owner : Owner) : Decidable (b.Holds n owner) :=
  inferInstanceAs (Decidable (∃ method ∈ b.contactMethods.rows, _))

/-- Nothing a call with this number is classified by changed. -/
structure Book.SameAt (b b' : Book) (n : String) : Prop where
  endpoint : b'.activeEndpoint n = b.activeEndpoint n
  holds : ∀ owner, b'.Holds n owner ↔ b.Holds n owner
  found : ∀ owner, b.Holds n owner → ∀ x, x ∈ b'.matchesOf owner ↔ x ∈ b.matchesOf owner

variable {b b' b'' : Book} {n : String} {numbers : List String} {owner : Owner}
  {call call' : PhoneCallRecord}

lemma Book.SameAt.refl : b.SameAt b n := ⟨rfl, fun _ => Iff.rfl, fun _ _ _ => Iff.rfl⟩

lemma Book.SameAt.trans (h : b.SameAt b' n) (h' : b'.SameAt b'' n) : b.SameAt b'' n where
  endpoint := h'.endpoint.trans h.endpoint
  holds owner := (h'.holds owner).trans (h.holds owner)
  found owner howner x := (h'.found owner ((h.holds owner).mpr howner) x).trans (h.found owner howner x)

lemma mem_phoneIndex {x : PhoneMatch} : x ∈ b.phoneIndex none n ↔
    (n ≠ "" ∧ b.activeEndpoint n = none) ∧ ∃ owner, b.Holds n owner ∧ x ∈ b.matchesOf owner := by
  unfold Book.phoneIndex
  split
  · rename_i hnone
    refine iff_of_false List.not_mem_nil fun h => ?_
    rcases hnone with hempty | hown
    · exact h.1.1 hempty
    · rw [h.1.2] at hown
      cases hown
  · rename_i hsome
    obtain ⟨hne, hown⟩ := not_or.mp hsome
    rw [List.mem_flatMap, and_iff_right ⟨hne, Option.not_isSome_iff_eq_none.mp hown⟩]
    constructor
    · rintro ⟨method, hmethod, hx⟩
      obtain ⟨hmem, hdials⟩ := List.mem_filter.mp hmethod
      exact ⟨method.owner, ⟨method, hmem, by simpa using hdials, rfl⟩, hx⟩
    · rintro ⟨_, ⟨method, hmem, hdials, rfl⟩, hx⟩
      exact ⟨method, List.mem_filter.mpr ⟨hmem, by simpa using hdials⟩, hx⟩

lemma Book.SameAt.agrees (h : b.SameAt b' n) : (b'.phoneMatcher none).AgreesAt (b.phoneMatcher none) n := by
  refine ⟨fun x => ?_, congrArg (Option.map PhoneEndpoint.id) h.endpoint⟩
  change x ∈ b'.phoneIndex none n ↔ x ∈ b.phoneIndex none n
  rw [mem_phoneIndex, mem_phoneIndex, h.endpoint]
  refine and_congr_right fun _ => exists_congr fun owner => ?_
  constructor
  · rintro ⟨howner, hx⟩
    exact ⟨(h.holds owner).mp howner, (h.found owner ((h.holds owner).mp howner) x).mp hx⟩
  · rintro ⟨howner, hx⟩
    exact ⟨(h.holds owner).mpr howner, (h.found owner howner x).mpr hx⟩

lemma party_spec (h : n ∈ call.parties) : n ≠ "" ∧ ContactMethod.normalizePhone n = n := by
  obtain ⟨value, -, hvalue⟩ := List.mem_filterMap.mp h
  exact ⟨by simpa using (Option.filter_eq_some_iff.mp hvalue).2, normalizePhone_eq_some hvalue⟩

lemma freshClassification_eq (h : ∀ n ∈ call.parties, b.SameAt b' n) :
    b'.freshClassification call = b.freshClassification call := by
  unfold Book.freshClassification
  rw [classify_normalizePhone, classify_normalizePhone]
  exact classify_congr fun n hn => (h n hn).agrees

lemma touches_iff : call.touches numbers = true ↔ ∃ n ∈ call.parties, n ∈ numbers := by
  simp [PhoneCallRecord.touches]

lemma touches_soughtNumbers (h : call.touches numbers = true) :
    call.touches (soughtNumbers numbers) = true := by
  obtain ⟨n, hparty, hn⟩ := touches_iff.mp h
  obtain ⟨hne, hnormal⟩ := party_spec hparty
  refine touches_iff.mpr ⟨n, hparty, List.mem_filterMap.mpr ⟨some n, List.mem_map_of_mem hn, ?_⟩⟩
  unfold normalizePhone
  rw [Option.map_some, hnormal, Option.filter_some, if_pos (by simpa using hne)]

/-! ## What each change leaves alone -/

section Primitives

variable {person company : ℕ} {x : PhoneMatch}

lemma mem_matchesOf_person : x ∈ b.matchesOf (.person person) ↔
    (b.people.find? person).any Person.isActive = true ∧
      ∃ company ∈ b.companiesOf person, (Owner.person person, company) = x := by
  simp only [Book.matchesOf]
  split
  · rename_i hactive
    rw [List.mem_map, and_iff_right hactive]
  · rename_i hactive
    exact iff_of_false List.not_mem_nil fun h => hactive h.1

lemma matchesOf_company_congr (h : (b'.companies.find? company).any Company.allowJobs =
    (b.companies.find? company).any Company.allowJobs) :
    x ∈ b'.matchesOf (.company company) ↔ x ∈ b.matchesOf (.company company) := by
  simp only [Book.matchesOf, h]

lemma matchesOf_person_congr (hactive : (b'.people.find? person).any Person.isActive =
      (b.people.find? person).any Person.isActive)
    (hlinks : ∀ company, company ∈ b'.companiesOf person ↔ company ∈ b.companiesOf person) :
    x ∈ b'.matchesOf (.person person) ↔ x ∈ b.matchesOf (.person person) := by
  simp only [mem_matchesOf_person, hactive, hlinks]

lemma sameAt_of_methodChange {Q : Prop} (h : MethodChange Q numbers b b') (hne : n ≠ "")
    (hn : n ∉ numbers) : b.SameAt b' n := by
  have hsilent : ∀ {method : ContactMethod}, Mentions numbers method → ¬method.dials n = true :=
    fun hmentions hdials => hn (hmentions n hne hdials)
  cases h with
  | none => exact .refl
  | @saved new haccepted hnew hstored =>
      refine ⟨rfl, fun owner => ⟨?_, ?_⟩, fun _ _ _ => Iff.rfl⟩
      · rintro ⟨method, hmethod, hdials, howner⟩
        obtain rfl | ⟨old, hold, -, rfl⟩ := mem_withMethod.mp hmethod
        · exact absurd hdials (hsilent hnew)
        · exact ⟨old, hold, dials_demoted ▸ hdials, owner_demoted ▸ howner⟩
      · rintro ⟨method, hmethod, hdials, howner⟩
        have hother : method.id ≠ new.id := fun heq =>
          hsilent (hstored method (heq ▸ Table.find?_of_mem hmethod)).1 hdials
        exact ⟨demoted new method, mem_withMethod.mpr (.inr ⟨method, hmethod, hother, rfl⟩),
          dials_demoted.trans hdials, owner_demoted.trans howner⟩
  | @dropped old hold hmentioned =>
      refine ⟨rfl, fun owner => ⟨?_, ?_⟩, fun _ _ _ => Iff.rfl⟩
      · rintro ⟨method, hmethod, hkept⟩
        exact ⟨method, (Table.mem_erase.mp hmethod).1, hkept⟩
      · rintro ⟨method, hmethod, hdials, howner⟩
        have hother : method.id ≠ old.id := fun heq => by
          obtain rfl := Table.eq_of_key_eq hmethod hold heq
          exact hsilent hmentioned hdials
        exact ⟨method, Table.mem_erase.mpr ⟨hmethod, hother⟩, hdials, howner⟩

lemma sameAt_of_methodChanges {Q : Prop} (h : MethodChanges Q numbers b b') (hne : n ≠ "")
    (hn : n ∉ numbers) : b.SameAt b' n := by
  induction h with
  | refl => exact .refl
  | tail _ hchange ih => exact ih.trans (sameAt_of_methodChange hchange hne hn)

lemma sameAt_of_person (hperson : ¬b.Holds n (.person person))
    (hmethods : b'.contactMethods = b.contactMethods) (hendpoints : b'.phoneEndpoints = b.phoneEndpoints)
    (hcompanies : b'.companies = b.companies)
    (hactive : ∀ other ≠ person, (b'.people.find? other).any Person.isActive =
      (b.people.find? other).any Person.isActive)
    (hlinks : ∀ other ≠ person, ∀ company, company ∈ b'.companiesOf other ↔ company ∈ b.companiesOf other) :
    b.SameAt b' n := by
  refine ⟨?_, fun owner => ?_, fun owner howner x => ?_⟩
  · unfold Book.activeEndpoint
    rw [hendpoints]
  · unfold Book.Holds
    rw [hmethods]
  · cases owner with
    | company company =>
        apply matchesOf_company_congr
        rw [hcompanies]
    | person other =>
        have hne : other ≠ person := by
          rintro rfl
          exact hperson howner
        exact matchesOf_person_congr (hactive other hne) (hlinks other hne)

lemma find?_withPerson_of_ne {other : ℕ} {isActive : Bool} (h : other ≠ person) :
    (b.withPerson person isActive).people.find? other = b.people.find? other := by
  unfold Book.withPerson
  rw [Table.find?_modify]
  cases hfound : b.people.find? other with
  | none => rfl
  | some row =>
      rw [Option.map_some, if_neg fun heq => h ((Table.key_of_find? hfound).symm.trans heq)]

lemma person_linkOf {link : CompanyPersonLink} (h : b.linkOf person company = some link) :
    link ∈ b.links.rows ∧ link.person = person ∧ link.company = company := by
  have htest := List.find?_some h
  simp only [Bool.and_eq_true, decide_eq_true_eq] at htest
  exact ⟨List.mem_of_find?_eq_some h, htest⟩

lemma mem_withLink {link : CompanyPersonLink} : link ∈ (b.withLink person company).links.rows ↔
    (link.person = person ∧ link.company = company ∧ link.isActive = true ∧
        link.id = ((b.linkOf person company).map CompanyPersonLink.id).getD b.links.freshKey) ∨
      link ∈ b.links.rows ∧
        link.id ≠ ((b.linkOf person company).map CompanyPersonLink.id).getD b.links.freshKey := by
  unfold Book.withLink
  rw [Table.mem_upsert]
  cases hlink : b.linkOf person company with
  | none =>
      refine or_congr_left ⟨fun h => h ▸ ⟨rfl, rfl, rfl, rfl⟩, ?_⟩
      rintro ⟨hperson, hcompany, hactive, hid⟩
      cases link
      simp_all
  | some stored =>
      obtain ⟨-, hperson', hcompany'⟩ := person_linkOf hlink
      refine or_congr_left ⟨fun h => h ▸ ⟨hperson', hcompany', rfl, rfl⟩, ?_⟩
      rintro ⟨hperson, hcompany, hactive, hid⟩
      cases link
      simp_all

lemma companiesOf_withLink_of_ne {other company' : ℕ} (h : other ≠ person) :
    company ∈ (b.withLink person company').companiesOf other ↔ company ∈ b.companiesOf other := by
  rw [mem_companiesOf, mem_companiesOf]
  constructor
  · rintro ⟨link, hlink, hother, hkept⟩
    obtain ⟨hperson, -⟩ | ⟨hlink, -⟩ := mem_withLink.mp hlink
    · exact absurd (hother.symm.trans hperson) h
    · exact ⟨link, hlink, hother, hkept⟩
  · rintro ⟨link, hlink, hother, hkept⟩
    refine ⟨link, mem_withLink.mpr (.inr ⟨hlink, fun hid => ?_⟩), hother, hkept⟩
    cases hstored : b.linkOf person company' with
    | none =>
        have hfresh : link.id = b.links.freshKey := by rwa [hstored] at hid
        exact b.links.freshKey_not_mem (hfresh ▸ List.mem_map_of_mem hlink)
    | some stored =>
        rw [hstored] at hid
        obtain ⟨hmem, hperson, -⟩ := person_linkOf hstored
        obtain rfl := Table.eq_of_key_eq hlink hmem hid
        exact h (hother.symm.trans hperson)

lemma companiesOf_withoutLinks {other : ℕ} {test : CompanyPersonLink → Bool}
    (h : ∀ link ∈ b.links.rows, link.person = other → test link = false) :
    company ∈ (b.withoutLinks test).companiesOf other ↔ company ∈ b.companiesOf other := by
  rw [mem_companiesOf, mem_companiesOf]
  unfold Book.withoutLinks
  simp only [Table.rows_modify, List.mem_map]
  constructor
  · rintro ⟨_, ⟨link, hlink, rfl⟩, hother, hkept⟩
    have hplain : test link = false := by
      refine h link hlink ?_
      revert hother
      split <;> exact id
    rw [if_neg (by simp [hplain])] at hother hkept
    exact ⟨link, hlink, hother, hkept⟩
  · rintro ⟨link, hlink, hother, hkept⟩
    refine ⟨link, ⟨link, hlink, ?_⟩, hother, hkept⟩
    rw [if_neg (by simp [h link hlink hother])]

lemma not_holds_of_not_mem_personPhoneNumbers (hne : n ≠ "") (hn : n ∉ b.personPhoneNumbers person) :
    ¬b.Holds n (.person person) := by
  rintro ⟨method, hmethod, hdials, howner⟩
  obtain ⟨hphone, rfl⟩ := dials_iff.mp hdials
  refine hn (List.mem_filter.mpr ⟨List.mem_map_of_mem ?_, by simpa using hne⟩)
  exact mem_phonesOf.mpr ⟨hmethod, howner, hphone⟩

end Primitives

section Companies

variable {person company : ℕ}

lemma owner_id_lt_freshId {method : ContactMethod} (h : method ∈ b.contactMethods.rows) :
    method.owner.id < b.freshId := by
  have hle : method.owner.id ≤ (b.contactMethods.rows.map (·.owner.id)).sum :=
    List.le_sum_of_mem (List.mem_map_of_mem h)
  have hpos : 0 < b.companies.freshKey := Nat.succ_pos _
  unfold Book.freshId
  omega

lemma not_holds_freshId {owner : Owner} (h : owner.id = b.freshId) : ¬b.Holds n owner := by
  rintro ⟨method, hmethod, -, rfl⟩
  exact absurd h (owner_id_lt_freshId hmethod).ne

lemma sameAt_withCompany {row : Company}
    (h : b.Holds n (.company row.id) →
      (b.companies.find? row.id).any Company.allowJobs = row.allowJobs) :
    b.SameAt (b.withCompany row) n := by
  refine ⟨rfl, fun _ => Iff.rfl, fun owner howner x => ?_⟩
  cases owner with
  | person person => exact Iff.rfl
  | company company =>
      apply matchesOf_company_congr
      unfold Book.withCompany
      by_cases hid : company = row.id
      · rw [hid, Table.find?_upsert_self, h (hid ▸ howner)]
        rfl
      · rw [Table.find?_upsert_of_ne hid]

lemma sameAt_withNewPerson : b.SameAt (b.withNewPerson company) n := by
  have hnobody : ¬b.Holds n (.person b.freshId) := not_holds_freshId rfl
  refine sameAt_of_person hnobody rfl rfl rfl (fun other hne => ?_) fun other hne company => ?_
  · exact congrArg (Option.any Person.isActive) (Table.find?_upsert_of_ne hne)
  · exact companiesOf_withLink_of_ne hne

/-- The company and everybody who works there. -/
def Book.Around (b : Book) (company : ℕ) (owner : Owner) : Prop :=
  owner = .company company ∨ ∃ link ∈ b.links.rows, link.company = company ∧ link.isActive = true ∧
    owner = .person link.person

lemma ne_of_not_around (h : ¬b.Around company (.person person)) {link : CompanyPersonLink}
    (hlink : link ∈ b.links.rows) (hperson : link.person = person) (hactive : link.isActive = true) :
    link.company ≠ company :=
  fun hcompany => h (.inr ⟨link, hlink, hcompany, hactive, hperson ▸ rfl⟩)

lemma sameAt_withoutCompany (h : ∀ owner, b.Around company owner → ¬b.Holds n owner) :
    b.SameAt (b.withoutCompany company) n := by
  refine ⟨rfl, fun owner => ⟨?_, ?_⟩, fun owner howner x => ?_⟩
  · rintro ⟨method, hmethod, hkept⟩
    exact ⟨method, List.mem_of_mem_filter hmethod, hkept⟩
  · rintro ⟨method, hmethod, hdials, rfl⟩
    refine ⟨method, List.mem_filter.mpr ⟨hmethod, ?_⟩, hdials, rfl⟩
    simpa using fun howner => h _ (.inl howner) ⟨method, hmethod, hdials, rfl⟩
  · cases owner with
    | company other =>
        have hne : other ≠ company := by
          rintro rfl
          exact h _ (.inl rfl) howner
        apply matchesOf_company_congr
        exact congrArg (Option.any Company.allowJobs) (Table.find?_erase_of_ne hne)
    | person other =>
        have haround : ¬b.Around company (.person other) := fun haround => h _ haround howner
        refine matchesOf_person_congr rfl fun c => ?_
        rw [mem_companiesOf, mem_companiesOf]
        constructor
        · rintro ⟨link, hlink, hkept⟩
          exact ⟨link, List.mem_of_mem_filter hlink, hkept⟩
        · rintro ⟨link, hlink, hother, hactive, hcompany⟩
          have hne := ne_of_not_around haround hlink hother hactive
          exact ⟨link, List.mem_filter.mpr ⟨hlink, by simpa using hne⟩, hother, hactive, hcompany⟩

end Companies

section Merges

variable {source destination : ℕ}

lemma holds_moveMethods {from' into : Owner} {primary : ContactMethod → Bool} (hfrom : ¬b.Holds n from') :
    (b.moveMethods from' into primary).Holds n owner ↔ b.Holds n owner := by
  unfold Book.moveMethods Book.Holds
  simp only [Table.rows_modify, Table.rows_filter, List.mem_map]
  constructor
  · rintro ⟨_, ⟨method, hmethod, rfl⟩, hdials, howner⟩
    have hmem := List.mem_of_mem_filter hmethod
    have hne : method.owner ≠ from' := fun heq => hfrom ⟨method, hmem, hdials, heq⟩
    rw [if_neg hne] at howner
    exact ⟨method, hmem, hdials, howner⟩
  · rintro ⟨method, hmem, hdials, howner⟩
    have hne : method.owner ≠ from' := fun heq => hfrom ⟨method, hmem, hdials, heq⟩
    refine ⟨_, ⟨method, List.mem_filter.mpr ⟨hmem, by simp [hne]⟩, rfl⟩, hdials, ?_⟩
    rw [if_neg hne]
    exact howner

lemma sameAt_moveMethods {from' into : Owner} {primary : ContactMethod → Bool} (hfrom : ¬b.Holds n from') :
    b.SameAt (b.moveMethods from' into primary) n :=
  ⟨rfl, fun _ => holds_moveMethods hfrom, fun _ _ _ => Iff.rfl⟩

lemma sameAt_moveCompanyLinks (h : ∀ owner, b.Around source owner → ¬b.Holds n owner) :
    b.SameAt (b.moveCompanyLinks source destination) n := by
  refine ⟨rfl, fun _ => Iff.rfl, fun owner howner x => ?_⟩
  cases owner with
  | company _ => exact Iff.rfl
  | person person =>
      have haround : ¬b.Around source (.person person) := fun haround => h _ haround howner
      refine matchesOf_person_congr rfl fun c => ?_
      rw [mem_companiesOf, mem_companiesOf]
      unfold Book.moveCompanyLinks
      simp only [Table.rows_modify, Table.rows_filter, List.mem_map]
      constructor
      · rintro ⟨_, ⟨link, hlink, rfl⟩, hperson, hactive, hcompany⟩
        have hmem := List.mem_of_mem_filter hlink
        have hne : link.company ≠ source := by
          refine ne_of_not_around haround hmem ?_ ?_
          · revert hperson
            split <;> exact id
          · revert hactive
            split <;> exact id
        rw [if_neg hne] at hperson hactive hcompany
        exact ⟨link, hmem, hperson, hactive, hcompany⟩
      · rintro ⟨link, hmem, hperson, hactive, hcompany⟩
        have hne := ne_of_not_around haround hmem hperson hactive
        refine ⟨_, ⟨link, List.mem_filter.mpr ⟨hmem, by simp [hne]⟩, rfl⟩, ?_⟩
        rw [if_neg hne]
        exact ⟨hperson, hactive, hcompany⟩

lemma sameAt_moveCompanyRecords : b.SameAt (b.moveCompanyRecords source destination) n :=
  ⟨rfl, fun _ => Iff.rfl, fun _ _ _ => Iff.rfl⟩

lemma sameAt_reassignCompanyFkRecords (h : ∀ owner, b.Around source owner → ¬b.Holds n owner) :
    b.SameAt (b.reassignCompanyFkRecords source destination) n := by
  have hmethods : b.SameAt (b.moveCompanyMethods source destination) n :=
    sameAt_moveMethods (h _ (.inl rfl))
  refine (hmethods.trans (sameAt_moveCompanyLinks fun owner haround howner => ?_)).trans
    sameAt_moveCompanyRecords
  exact h owner haround ((hmethods.holds owner).mp howner)

lemma sameAt_mergePeople {isActive : Bool} (hsource : ¬b.Holds n (.person source))
    (hdestination : ¬b.Holds n (.person destination)) :
    b.SameAt ((((b.withPerson destination isActive).mergeLinks source destination).mergeMethods source
      destination).replacePerson source destination) n := by
  have hheld : ∀ other, b.Holds n (.person other) → other ≠ source ∧ other ≠ destination := by
    intro other hother
    exact ⟨by rintro rfl; exact hsource hother, by rintro rfl; exact hdestination hother⟩
  refine ⟨rfl, fun owner => holds_moveMethods (b := (b.withPerson destination isActive).mergeLinks source
    destination) hsource, fun owner howner x => ?_⟩
  cases owner with
  | company _ => exact Iff.rfl
  | person other =>
      obtain ⟨hs, hd⟩ := hheld other howner
      apply matchesOf_person_congr
      · refine congrArg (Option.any Person.isActive) ?_
        exact (Table.find?_erase_of_ne hs).trans (find?_withPerson_of_ne hd)
      · intro c
        rw [mem_companiesOf, mem_companiesOf]
        change (∃ link ∈ ((b.withPerson destination isActive).mergeLinks source destination).links.rows, _) ↔ _
        unfold Book.mergeLinks
        simp only [Table.rows_modify, Table.rows_filter, List.mem_map]
        constructor
        · rintro ⟨_, ⟨link, hlink, rfl⟩, hperson, hactive, hcompany⟩
          have hmem := List.mem_of_mem_filter hlink
          by_cases hfrom : link.person = source
          · rw [if_pos hfrom] at hperson
            exact absurd hperson.symm hd
          rw [if_neg hfrom] at hperson hactive hcompany
          by_cases hinto : link.person = destination
          · rw [if_pos hinto] at hperson
            exact absurd (hperson.symm.trans hinto) hd
          rw [if_neg hinto] at hperson hactive hcompany
          exact ⟨link, hmem, hperson, hactive, hcompany⟩
        · rintro ⟨link, hmem, hperson, hactive, hcompany⟩
          have hfrom : link.person ≠ source := hperson ▸ hs
          have hinto : link.person ≠ destination := hperson ▸ hd
          refine ⟨_, ⟨link, List.mem_filter.mpr ⟨hmem, by simp [hfrom]⟩, rfl⟩, ?_⟩
          rw [if_neg hfrom, if_neg hinto]
          exact ⟨hperson, hactive, hcompany⟩

end Merges

section Endpoints

variable {endpoint : PhoneEndpoint}

lemma activeEndpoint_eq : b.activeEndpoint n =
    (b.phoneEndpoints.rows.filter fun endpoint =>
      endpoint.isActive && endpoint.normalizedNumber = n).head? :=
  (List.head?_filter ..).symm

lemma sameAt_of_endpointChange (h : EndpointChange numbers b endpoint b') (hn : n ∉ numbers) :
    b.SameAt b' n := by
  obtain ⟨-, hnew, hstored, rfl⟩ := h
  refine ⟨?_, fun _ => Iff.rfl, fun _ _ _ => Iff.rfl⟩
  rw [activeEndpoint_eq, activeEndpoint_eq]
  refine congrArg List.head? (Table.filter_rows_upsert ?_ fun old hold hid => ?_)
  · have hother : endpoint.normalizedNumber ≠ n := fun heq => hn (heq ▸ hnew)
    simp [hother]
  · have hother : old.normalizedNumber ≠ n := fun heq =>
      hn (heq ▸ hstored old (hid ▸ Table.find?_of_mem hold))
    simp [hother]

lemma sameAt_withoutEndpoint (hendpoint : endpoint ∈ b.phoneEndpoints.rows)
    (hn : endpoint.normalizedNumber ≠ n) : b.SameAt (b.withoutEndpoint endpoint.id) n := by
  refine ⟨?_, fun _ => Iff.rfl, fun _ _ _ => Iff.rfl⟩
  rw [activeEndpoint_eq, activeEndpoint_eq]
  unfold Book.withoutEndpoint
  rw [Table.rows_erase, List.filter_filter]
  refine congrArg List.head? (List.filter_congr fun row hrow => ?_)
  by_cases hid : row.id = endpoint.id
  · obtain rfl := Table.eq_of_key_eq hrow hendpoint hid
    simp [hn]
  · simp [hid]

end Endpoints

/-! ## What a classification rests on -/

section Classified

variable {matcher : PhoneMatcher} {origin destination : Option String} {values : List (Option String)}
  {company person : ℕ}

lemma eq_of_only {α : Type} {as : List α} {a : α} (h : only as = some a) : a ∈ as := by
  match as with
  | [] => cases h
  | [_] => exact Option.some.inj h ▸ List.mem_singleton_self _
  | _ :: _ :: _ => cases h

lemma matchCustomer_spec :
    (∀ company, (matcher.matchCustomer values).1 = some company →
      ∃ n ∈ values.filterMap normalizePhone, ∃ owner, (owner, company) ∈ matcher.phoneMatches n) ∧
    ∀ person, (matcher.matchCustomer values).2 = some person →
      ∃ n ∈ values.filterMap normalizePhone, ∃ company,
        (Owner.person person, company) ∈ matcher.phoneMatches n := by
  have hfound : ∀ x ∈ ((values.filterMap normalizePhone).flatMap matcher.phoneMatches).dedup,
      ∃ n ∈ values.filterMap normalizePhone, x ∈ matcher.phoneMatches n :=
    fun x hx => List.mem_flatMap.mp (List.mem_dedup.mp hx)
  unfold PhoneMatcher.matchCustomer
  dsimp only
  split
  · exact ⟨fun _ h => (nomatch h), fun _ h => nomatch h⟩
  · rename_i company honly
    have hcompany : ∃ n ∈ values.filterMap normalizePhone, ∃ owner,
        (owner, company) ∈ matcher.phoneMatches n := by
      obtain ⟨⟨owner, _⟩, hx, rfl⟩ := List.mem_map.mp (List.mem_dedup.mp (eq_of_only honly))
      obtain ⟨n, hn, hmatch⟩ := hfound _ hx
      exact ⟨n, hn, owner, hmatch⟩
    split
    · rename_i person other hone
      obtain ⟨n, hn, hmatch⟩ := hfound _ (eq_of_only hone)
      exact ⟨fun _ h => Option.some.inj h ▸ hcompany, fun _ h => Option.some.inj h ▸ ⟨n, hn, other, hmatch⟩⟩
    · exact ⟨fun _ h => Option.some.inj h ▸ hcompany, fun _ h => nomatch h⟩

lemma exists_values_of_classify (matcher : PhoneMatcher) (origin destination : Option String) :
    (matcher.classify origin destination).company = none ∧
      (matcher.classify origin destination).person = none ∨
    ∃ values : List (Option String), (∀ value ∈ values, value ∈ [origin, destination]) ∧
      (matcher.classify origin destination).company =
        (matcher.matchCustomer (values.map normalizePhone)).1 ∧
      (matcher.classify origin destination).person =
        (matcher.matchCustomer (values.map normalizePhone)).2 := by
  unfold PhoneMatcher.classify
  dsimp only
  split
  · exact .inl ⟨rfl, rfl⟩
  · exact .inr ⟨[destination], by simp, rfl, rfl⟩
  · exact .inr ⟨[origin], by simp, rfl, rfl⟩
  · exact .inr ⟨[origin, destination], fun _ h => h, rfl, rfl⟩

lemma mem_parties_of_values (hvalues : ∀ value ∈ values, value ∈ [origin, destination])
    (h : n ∈ (values.map normalizePhone).filterMap normalizePhone) :
    n ∈ [origin, destination].filterMap normalizePhone := by
  obtain ⟨_, hmem, hread⟩ := List.mem_filterMap.mp h
  obtain ⟨value, hvalue, rfl⟩ := List.mem_map.mp hmem
  rw [normalizePhone_normalizePhone] at hread
  exact List.mem_filterMap.mpr ⟨value, hvalues value hvalue, hread⟩

lemma classify_endpoints : (matcher.classify origin destination).originEndpoint =
      (normalizePhone origin).bind matcher.endpoints ∧
    (matcher.classify origin destination).destinationEndpoint =
      (normalizePhone destination).bind matcher.endpoints := by
  unfold PhoneMatcher.classify
  dsimp only
  split <;> simp [*]

lemma exists_around_of_fresh (h : b.Fresh call) (hcompany : call.company = some company) :
    ∃ n ∈ call.parties, ∃ owner, b.Around company owner ∧ b.Holds n owner := by
  rw [h, Book.freshClassification, classify_normalizePhone] at hcompany
  obtain ⟨hnone, -⟩ | ⟨values, hvalues, hread, -⟩ := exists_values_of_classify
    (b.phoneMatcher none) call.origin call.destination
  · rw [hnone] at hcompany
    cases hcompany
  · rw [hread] at hcompany
    obtain ⟨n, hn, owner, hfound⟩ := matchCustomer_spec.1 company hcompany
    obtain ⟨-, holder, hholds, hmatch⟩ := mem_phoneIndex.mp hfound
    refine ⟨n, mem_parties_of_values hvalues hn, holder, ?_, hholds⟩
    cases holder with
    | company id =>
        simp only [Book.matchesOf] at hmatch
        split at hmatch
        · obtain ⟨-, rfl⟩ := Prod.mk.inj (List.mem_singleton.mp hmatch)
          exact .inl rfl
        · cases hmatch
    | person id =>
        obtain ⟨-, _, hlinked, heq⟩ := mem_matchesOf_person.mp hmatch
        obtain ⟨-, rfl⟩ := Prod.mk.inj heq
        obtain ⟨link, hlink, hperson, hactive, hwork⟩ := mem_companiesOf.mp hlinked
        exact .inr ⟨link, hlink, hwork, hactive, hperson ▸ rfl⟩

lemma exists_holds_of_fresh (h : b.Fresh call) (hperson : call.person = some person) :
    ∃ n ∈ call.parties, b.Holds n (.person person) := by
  rw [h, Book.freshClassification, classify_normalizePhone] at hperson
  obtain ⟨-, hnone⟩ | ⟨values, hvalues, -, hread⟩ := exists_values_of_classify
    (b.phoneMatcher none) call.origin call.destination
  · rw [hnone] at hperson
    cases hperson
  · rw [hread] at hperson
    obtain ⟨n, hn, _, hfound⟩ := matchCustomer_spec.2 person hperson
    obtain ⟨-, holder, hholds, hmatch⟩ := mem_phoneIndex.mp hfound
    refine ⟨n, mem_parties_of_values hvalues hn, ?_⟩
    cases holder with
    | company id =>
        simp only [Book.matchesOf] at hmatch
        split at hmatch
        · cases List.mem_singleton.mp hmatch
        · cases hmatch
    | person id =>
        obtain ⟨-, _, -, heq⟩ := mem_matchesOf_person.mp hmatch
        obtain ⟨hsame, -⟩ := Prod.mk.inj heq
        exact hsame ▸ hholds

lemma not_endpoint_of_fresh {endpoint : PhoneEndpoint} (h : b.Fresh call)
    (hendpoint : endpoint ∈ b.phoneEndpoints.rows)
    (hn : ∀ n ∈ call.parties, endpoint.normalizedNumber ≠ n) :
    call.originEndpoint ≠ some endpoint.id ∧ call.destinationEndpoint ≠ some endpoint.id := by
  have hnone : ∀ value ∈ [call.origin, call.destination],
      (normalizePhone value).bind (b.phoneMatcher none).endpoints ≠ some endpoint.id := by
    intro value hvalue hfound
    obtain ⟨n, hread, hactive⟩ := Option.bind_eq_some_iff.mp hfound
    obtain ⟨row, hrow, hid⟩ := Option.map_eq_some_iff.mp hactive
    obtain rfl := Table.eq_of_key_eq (List.mem_of_find?_eq_some hrow) hendpoint hid
    have htest := List.find?_some hrow
    simp only [Bool.and_eq_true, decide_eq_true_eq] at htest
    exact hn n (List.mem_filterMap.mpr ⟨value, hvalue, hread⟩) htest.2
  rw [h, Book.freshClassification, classify_normalizePhone, classify_endpoints.1, classify_endpoints.2]
  exact ⟨hnone _ (by simp), hnone _ (by simp)⟩

end Classified

/-! ## Changes -/

/-- No stored call is from or to a number of the owner. -/
def Book.Uncalled (b : Book) (owner : Owner) : Prop :=
  ∀ call ∈ b.phoneCalls.rows, ∀ n ∈ call.parties, ¬b.Holds n owner

instance (b : Book) (owner : Owner) : Decidable (b.Uncalled owner) :=
  inferInstanceAs (Decidable (∀ call ∈ b.phoneCalls.rows, ∀ n ∈ call.parties, ¬b.Holds n owner))

/-- No stored call is from or to a number of the company or of anybody who works there. -/
def Book.UncalledCompany (b : Book) (company : ℕ) : Prop :=
  b.Uncalled (.company company) ∧ ∀ link ∈ b.links.rows, link.company = company → link.isActive = true →
    b.Uncalled (.person link.person)

instance (b : Book) (company : ℕ) : Decidable (b.UncalledCompany company) :=
  inferInstanceAs (Decidable (_ ∧ ∀ link ∈ b.links.rows, _))

lemma Book.UncalledCompany.not_holds {company : ℕ} (h : b.UncalledCompany company)
    (hcall : call ∈ b.phoneCalls.rows) (hn : n ∈ call.parties) :
    ∀ owner, b.Around company owner → ¬b.Holds n owner := by
  rintro owner (rfl | ⟨link, hlink, hcompany, hactive, rfl⟩)
  · exact h.1 call hcall n hn
  · exact h.2 link hlink hcompany hactive call hcall n hn

/-- A change, and the numbers scheduled for it: a call of other numbers reads as it did. -/
def Book.Follows (b b' : Book) (numbers : List String) : Prop :=
  ∀ call' ∈ b'.phoneCalls.rows, ∃ call ∈ b.phoneCalls.rows,
    call'.origin = call.origin ∧ call'.destination = call.destination ∧
      (¬call.touches numbers = true → (∀ n ∈ call.parties, b.SameAt b' n) ∧
        (b.Fresh call → call'.toCallClassification = call.toCallClassification))

lemma follows_of_sameAt (hcalls : b'.phoneCalls = b.phoneCalls)
    (h : ∀ call ∈ b.phoneCalls.rows, ∀ n ∈ call.parties, n ≠ "" → n ∉ numbers → b.SameAt b' n) :
    b.Follows b' numbers := by
  intro call hcall
  rw [hcalls] at hcall
  refine ⟨call, hcall, rfl, rfl, fun htouches => ⟨fun n hn => ?_, fun _ => rfl⟩⟩
  exact h call hcall n hn (party_spec hn).1 fun hmem => htouches (touches_iff.mpr ⟨n, hn, hmem⟩)

lemma follows_of_modify {f : PhoneCallRecord → PhoneCallRecord}
    (hcalls : b'.phoneCalls.rows = b.phoneCalls.rows.map f)
    (hparties : ∀ call, (f call).origin = call.origin ∧ (f call).destination = call.destination)
    (h : ∀ call ∈ b.phoneCalls.rows, ¬call.touches numbers = true →
      (∀ n ∈ call.parties, b.SameAt b' n) ∧
        (b.Fresh call → (f call).toCallClassification = call.toCallClassification)) :
    b.Follows b' numbers := by
  intro call' hcall'
  rw [hcalls] at hcall'
  obtain ⟨call, hcall, rfl⟩ := List.mem_map.mp hcall'
  exact ⟨call, hcall, (hparties call).1, (hparties call).2, h call hcall⟩

/-- Every call is classified as it would be now, or a rematch of its number is due. -/
def Book.Settled (b : Book) (pending : List (List String)) : Prop :=
  ∀ call ∈ b.phoneCalls.rows, b.Fresh call ∨ ∃ numbers ∈ pending, call.touches numbers = true

lemma not_touches_nil : ¬call.touches [] = true := by
  rw [touches_iff]
  rintro ⟨_, _, h⟩
  exact List.not_mem_nil h

lemma fresh_congr (horigin : call'.origin = call.origin) (hdestination : call'.destination = call.destination)
    (hsame : ∀ n ∈ call.parties, b.SameAt b' n)
    (hclassified : call'.toCallClassification = call.toCallClassification) (h : b.Fresh call) :
    b'.Fresh call' := by
  unfold Book.Fresh
  rw [hclassified, h, freshClassification_congr horigin hdestination, freshClassification_eq hsame]

lemma Book.Settled.follows {pending : List (List String)} (hb : b.Settled pending)
    (h : b.Follows b' numbers) :
    b'.Settled (if numbers = [] then pending else pending ++ [numbers]) := by
  have hkept : ∀ tasks ∈ pending, tasks ∈ if numbers = [] then pending else pending ++ [numbers] := by
    intro tasks htasks
    split
    · exact htasks
    · exact List.mem_append_left _ htasks
  intro call' hcall'
  obtain ⟨call, hcall, horigin, hdestination, hsame⟩ := h call' hcall'
  by_cases htouches : call.touches numbers = true
  · refine .inr ⟨numbers, ?_, (touches_congr horigin hdestination).trans htouches⟩
    have hsome : numbers ≠ [] := fun hnil => not_touches_nil (hnil ▸ htouches)
    rw [if_neg hsome]
    exact List.mem_append_right _ (List.mem_singleton_self _)
  · obtain ⟨hsame, hclassified⟩ := hsame htouches
    rcases hb call hcall with hfresh | ⟨tasks, htasks, htouched⟩
    · exact .inl (fresh_congr horigin hdestination hsame (hclassified hfresh) hfresh)
    · exact .inr ⟨tasks, hkept tasks htasks, (touches_congr horigin hdestination).trans htouched⟩

/-- The change of a company's blocking, and of who a number belongs to by a merge, is made where no stored
call is from or to the numbers concerned. -/
def Book.Meets (b : Book) : BookChange → Prop
  | .updateCompany company allowJobs _ => ∀ row ∈ b.companies.find? company, ∀ allowed ∈ allowJobs,
      allowed ≠ row.allowJobs → b.Uncalled (.company company)
  | .setCompanyFields company archived _ => ∀ row ∈ b.companies.find? company,
      (row.archivedAs archived).allowJobs ≠ row.allowJobs → b.Uncalled (.company company)
  | .discardCompany company => b.UncalledCompany company
  | .resolvePendingMerge company _ => b.UncalledCompany company
  | .mergeCompanies source destination => b.UncalledCompany source ∧
      ∀ old ∈ b.companies.find? source, ∀ into ∈ b.companies.find? destination,
        old.allowJobs = true → into.allowJobs = false → b.Uncalled (.company destination)
  | .mergePeople source destination => b.Uncalled (.person source) ∧ b.Uncalled (.person destination)
  | _ => True

instance (b : Book) (change : BookChange) : Decidable (b.Meets change) := by
  cases change <;> unfold Book.Meets <;> infer_instance

section Changes

variable {change : BookChange} {company : ℕ}

@[simp] lemma phoneCalls_of_methodChange {Q : Prop} (h : MethodChange Q numbers b b') :
    b'.phoneCalls = b.phoneCalls := by
  cases h <;> rfl

lemma phoneCalls_of_methodChanges {Q : Prop} (h : MethodChanges Q numbers b b') :
    b'.phoneCalls = b.phoneCalls := by
  induction h with
  | refl => rfl
  | tail _ hchange ih => exact (phoneCalls_of_methodChange hchange).trans ih

lemma follows_of_methodChanges {Q : Prop} {mid : Book} (h : MethodChanges Q numbers mid b')
    (hcalls : mid.phoneCalls = b.phoneCalls)
    (hmid : ∀ call ∈ b.phoneCalls.rows, ∀ n ∈ call.parties, b.SameAt mid n) : b.Follows b' numbers :=
  follows_of_sameAt ((phoneCalls_of_methodChanges h).trans hcalls) fun call hcall n hn hne hnot =>
    (hmid call hcall n hn).trans (sameAt_of_methodChanges h hne hnot)

lemma sameAt_of_row {row row' : Company} (hrow : b.companies.find? company = some row)
    (hid : row'.id = row.id) (h : row'.allowJobs ≠ row.allowJobs → b.Uncalled (.company company))
    (hcall : call ∈ b.phoneCalls.rows) (hn : n ∈ call.parties) : b.SameAt (b.withCompany row') n := by
  have hkey : row'.id = company := hid.trans (Table.key_of_find? hrow)
  refine sameAt_withCompany fun hholds => ?_
  rw [hkey] at hholds
  rw [hkey, hrow]
  by_contra hne
  exact h (fun heq => hne heq.symm) call hcall n hn hholds

lemma follows_of_company {row row' : Company} (hchanges : MethodChanges True numbers (b.withCompany row') b')
    (hrow : b.companies.find? company = some row) (hid : row'.id = row.id)
    (h : row'.allowJobs ≠ row.allowJobs → b.Uncalled (.company company)) : b.Follows b' numbers :=
  follows_of_methodChanges hchanges rfl fun _ hcall _ hn => sameAt_of_row hrow hid h hcall hn

lemma follows_of_merge {source destination : ℕ} {mid : Book}
    (hmid : mid.phoneCalls = b.phoneCalls)
    (hsame : ∀ call ∈ b.phoneCalls.rows, ∀ n ∈ call.parties, b.SameAt mid n)
    (hlinks : mid.links = b.links) (hmethods : mid.contactMethods = b.contactMethods)
    (h : b.UncalledCompany source) : b.Follows (mid.reassignCompanyFkRecords source destination) [] := by
  have haround : ∀ owner, mid.Around source owner → b.Around source owner := by
    intro owner howner
    unfold Book.Around at howner
    rwa [hlinks] at howner
  have hholds : ∀ n owner, mid.Holds n owner → b.Holds n owner := by
    intro n owner howner
    unfold Book.Holds at howner
    rwa [hmethods] at howner
  refine follows_of_modify (f := fun call => { call with
      company := if call.company = some source then some destination else call.company }) ?_
    (fun _ => ⟨rfl, rfl⟩) fun call hcall _ => ⟨fun n hn => ?_, fun hfresh => ?_⟩
  · rw [← hmid]
    rfl
  · refine (hsame call hcall n hn).trans (sameAt_reassignCompanyFkRecords fun owner howner hheld => ?_)
    exact h.not_holds hcall hn owner (haround owner howner) (hholds n owner hheld)
  · have hne : call.company ≠ some source := by
      intro hcompany
      obtain ⟨n, hn, owner, howner, hheld⟩ := exists_around_of_fresh hfresh hcompany
      exact h.not_holds hcall hn owner howner hheld
    simp only [if_neg hne]

lemma follows_change (hmeets : b.Meets change) (h : change.call.run b = .ok (numbers, b'))
    (hassign : ∀ number company person isPrimary,
      change ≠ .assignPhoneNumber number company person isPrimary) : b.Follows b' numbers := by
  cases change with
  | saveContactMethod data methodId =>
      exact follows_of_methodChanges (run_saveContactMethod h).changes rfl fun _ _ _ _ => .refl
  | deleteContactMethod methodId =>
      exact follows_of_methodChanges (run_deleteContactMethod h).changes rfl fun _ _ _ _ => .refl
  | createPersonForCompany company phone =>
      exact follows_of_methodChanges (run_createPersonForCompany h).changes rfl
        fun _ _ _ _ => sameAt_withNewPerson
  | putCompanyLink person company =>
      obtain ⟨rfl, rfl⟩ := run_putCompanyLink h
      refine follows_of_sameAt rfl fun call _ n _ hne hnot => ?_
      exact sameAt_of_person (not_holds_of_not_mem_personPhoneNumbers hne hnot) rfl rfl rfl
        (fun _ hother => congrArg _ (find?_withPerson_of_ne hother))
        fun _ hother _ => companiesOf_withLink_of_ne hother
  | archivePerson person =>
      obtain ⟨rfl, rfl⟩ := run_archivePerson h
      refine follows_of_sameAt rfl fun call _ n _ hne hnot => ?_
      exact sameAt_of_person (not_holds_of_not_mem_personPhoneNumbers hne hnot) rfl rfl rfl
        (fun _ hother => congrArg _ (find?_withPerson_of_ne hother))
        fun _ hother _ => companiesOf_withoutLinks fun link _ hperson => by simp [hperson, hother]
  | removeCompanyLink person company =>
      obtain ⟨rfl, -, hleft⟩ := run_removeCompanyLink h
      have hlinks : ∀ other ≠ person, ∀ c, c ∈ (b.withoutLinks fun link =>
          link.person = person && link.company = company).companiesOf other ↔ c ∈ b.companiesOf other :=
        fun _ hother _ => companiesOf_withoutLinks fun link _ hperson => by simp [hperson, hother]
      obtain rfl | rfl := hleft
      · refine follows_of_sameAt rfl fun call _ n _ hne hnot => ?_
        exact sameAt_of_person (not_holds_of_not_mem_personPhoneNumbers hne hnot) rfl rfl rfl
          (fun _ hother => congrArg _ (find?_withPerson_of_ne hother)) hlinks
      · refine follows_of_sameAt rfl fun call _ n _ hne hnot => ?_
        exact sameAt_of_person (not_holds_of_not_mem_personPhoneNumbers hne hnot) rfl rfl rfl
          (fun _ _ => rfl) hlinks
  | createEndpoint number isActive =>
      obtain ⟨endpoint, hchange⟩ := run_createEndpoint h
      refine follows_of_sameAt ?_ fun _ _ _ _ _ hnot => sameAt_of_endpointChange hchange hnot
      rw [hchange.left]
      rfl
  | updateEndpoint endpointId number isActive =>
      obtain ⟨endpoint, hchange⟩ := run_updateEndpoint h
      refine follows_of_sameAt ?_ fun _ _ _ _ _ hnot => sameAt_of_endpointChange hchange hnot
      rw [hchange.left]
      rfl
  | destroyEndpoint endpointId =>
      obtain ⟨endpoint, hendpoint, rfl, rfl⟩ := run_destroyEndpoint h
      refine follows_of_modify (f := withoutEndpoint endpoint.id) rfl (fun _ => ⟨rfl, rfl⟩)
        fun call _ htouches => ?_
      have hother : ∀ n ∈ call.parties, endpoint.normalizedNumber ≠ n := fun n hn heq =>
        htouches (touches_iff.mpr ⟨n, hn, List.mem_singleton.mpr heq.symm⟩)
      refine ⟨fun n hn => sameAt_withoutEndpoint hendpoint (hother n hn), fun hfresh => ?_⟩
      obtain ⟨horigin, hdestination⟩ := not_endpoint_of_fresh hfresh hendpoint hother
      have hkept : ∀ id : Option ℕ, id ≠ some endpoint.id → id.filter (· ≠ endpoint.id) = id := by
        intro id hid
        cases id with
        | none => rfl
        | some id => exact Option.filter_some_pos (by simpa using hid)
      unfold withoutEndpoint
      rw [hkept _ horigin, hkept _ hdestination]
  | createCompany allowJobs phone =>
      refine follows_of_methodChanges (run_createCompany h).changes rfl
        fun _ _ _ _ => sameAt_withCompany fun hholds => ?_
      exact absurd hholds (not_holds_freshId rfl)
  | discardCompany company =>
      obtain ⟨-, rfl, rfl⟩ := run_discardCompany h
      refine follows_of_modify (f := fun call => { call with company := call.company.filter (· ≠ company) })
        rfl (fun _ => ⟨rfl, rfl⟩) fun call hcall _ =>
          ⟨fun n hn => sameAt_withoutCompany (hmeets.not_holds hcall hn), fun hfresh => ?_⟩
      have hne : call.company ≠ some company := by
        intro hcompany
        obtain ⟨n, hn, owner, howner, hheld⟩ := exists_around_of_fresh hfresh hcompany
        exact hmeets.not_holds hcall hn owner howner hheld
      have hkept : call.company.filter (· ≠ company) = call.company := by
        cases hread : call.company with
        | none => rfl
        | some other => exact Option.filter_some_pos (by simpa [hread] using hne)
      simp only [hkept]
  | updateCompany company allowJobs phone =>
      obtain ⟨row, hrow, hchange⟩ := run_updateCompany h
      refine follows_of_company hchange.changes hrow rfl fun hne => ?_
      cases allowJobs with
      | none => exact absurd rfl hne
      | some allowed => exact hmeets row hrow allowed rfl hne
  | setCompanyFields company archived phones =>
      obtain ⟨row, hrow, hchanges⟩ := run_setCompanyFields h
      exact follows_of_company hchanges hrow rfl (hmeets row hrow)
  | mergeCompanies source destination =>
      obtain ⟨hne, rfl, old, into, hold, hinto, rfl⟩ := run_mergeCompanies h
      obtain ⟨hsource, hopened⟩ := hmeets
      refine follows_of_merge rfl (fun call hcall n hn => ?_) rfl rfl hsource
      have hopen : b.SameAt (b.withCompany { into with allowJobs := into.allowJobs || old.allowJobs }) n := by
        refine sameAt_of_row hinto rfl (fun hchanged => ?_) hcall hn
        cases hallowed : into.allowJobs with
        | true => simp [hallowed] at hchanged
        | false => exact hopened old hold into hinto (by simpa [hallowed] using hchanged) hallowed
      refine hopen.trans (sameAt_withCompany fun hholds => ?_)
      have hkey : old.id = source := Table.key_of_find? hold
      exact absurd ((hopen.holds _).mp hholds) (hkey ▸ hsource.1 call hcall n hn)
  | resolvePendingMerge company mergedInto =>
      obtain ⟨rfl, rfl | ⟨row, hrow, -, -, hleft⟩⟩ := run_resolvePendingMerge h
      · exact follows_of_sameAt rfl fun _ _ _ _ _ _ => .refl
      have hblocked : ∀ call ∈ b.phoneCalls.rows, ∀ n ∈ call.parties,
          b.SameAt (b.withCompany (row.pendingInto mergedInto)) n :=
        fun call hcall n hn => sameAt_of_row hrow rfl (fun _ => hmeets.1) hcall hn
      obtain rfl | ⟨destination, -, -, rfl⟩ := hleft
      · exact follows_of_sameAt rfl fun call hcall n hn _ _ => hblocked call hcall n hn
      · exact follows_of_merge rfl hblocked rfl rfl hmeets
  | mergePeople source destination =>
      obtain ⟨-, rfl, isActive, rfl⟩ := run_mergePeople h
      obtain ⟨hsource, hdestination⟩ := hmeets
      refine follows_of_modify (f := fun call =>
          { call with person := if call.person = some source then some destination else call.person })
        rfl (fun _ => ⟨rfl, rfl⟩) fun call hcall _ => ⟨fun n hn =>
          sameAt_mergePeople (hsource call hcall n hn) (hdestination call hcall n hn), fun hfresh => ?_⟩
      have hne : call.person ≠ some source := by
        intro hperson
        obtain ⟨n, hn, hheld⟩ := exists_holds_of_fresh hfresh hperson
        exact hsource call hcall n hn hheld
      simp only [if_neg hne]
  | assignPhoneNumber number company person isPrimary =>
      exact absurd rfl (hassign number company person isPrimary)

end Changes

/-! ## Runs -/

lemma Book.Settled.rematch {pending left : List (List String)} (hb : b.Settled pending)
    (h : ∀ tasks ∈ pending, tasks ∈ left ∨ tasks = numbers) :
    (rematchCallsForNumbers numbers b).Settled left := by
  intro call' hcall'
  rw [rows_rematch] at hcall'
  obtain ⟨call, hcall, rfl⟩ := List.mem_map.mp hcall'
  by_cases htouches : call.touches (soughtNumbers numbers) = true
  · exact .inl (fresh_rematchOne hcall htouches)
  rw [rematchOne_of_not_touches htouches]
  rcases hb call hcall with hfresh | ⟨tasks, htasks, htouched⟩
  · exact .inl hfresh
  · rcases h tasks htasks with hleft | rfl
    · exact .inr ⟨tasks, hleft, htouched⟩
    · exact absurd (touches_soughtNumbers htouched) htouches

lemma Book.Settled.change {pending : List (List String)} {change : BookChange} (hb : b.Settled pending)
    (hmeets : b.Meets change) (h : change.call.run b = .ok (numbers, b')) :
    b'.Settled (if numbers = [] then pending else pending ++ [numbers]) := by
  by_cases hassign : ∃ number company person isPrimary,
      change = .assignPhoneNumber number company person isPrimary
  · obtain ⟨number, company, person, isPrimary, rfl⟩ := hassign
    obtain ⟨rfl, mid, hchange, rfl⟩ := run_assignPhoneNumber h
    have hmid := hb.follows (follows_of_methodChanges hchange.changes rfl fun _ _ _ _ => .refl)
    refine hmid.rematch fun tasks htasks => ?_
    rw [if_neg (List.cons_ne_nil _ _)] at htasks
    exact (List.mem_append.mp htasks).imp_right List.mem_singleton.mp
  · exact hb.follows (follows_change hmeets h fun number company person isPrimary heq =>
      hassign ⟨number, company, person, isPrimary, heq⟩)

def Book.SamePhoneBook (b b' : Book) : Prop :=
  b.companies.rows = b'.companies.rows ∧ b.people.rows = b'.people.rows ∧ b.links.rows = b'.links.rows ∧
    b.contactMethods.rows = b'.contactMethods.rows ∧ b.phoneEndpoints.rows = b'.phoneEndpoints.rows

instance (b b' : Book) : Decidable (b.SamePhoneBook b') :=
  inferInstanceAs (Decidable (_ ∧ _))

lemma Book.SamePhoneBook.phoneMatcher_eq (h : b.SamePhoneBook b') :
    b.phoneMatcher none = b'.phoneMatcher none := by
  obtain ⟨companies, people, links, methods, endpoints, calls, jobs⟩ := b
  obtain ⟨companies', people', links', methods', endpoints', calls', jobs'⟩ := b'
  obtain ⟨hcompanies, hpeople, hlinks, hmethods, hendpoints⟩ := h
  cases Table.eq_of_rows hcompanies
  cases Table.eq_of_rows hpeople
  cases Table.eq_of_rows hlinks
  cases Table.eq_of_rows hmethods
  cases Table.eq_of_rows hendpoints
  rfl

lemma Book.Settled.calls {pending : List (List String)} (hb : b.Settled pending)
    {calls : Table PhoneCallRecord.providerCallId} (h : ∀ call' ∈ calls.rows,
      (call'.toCallClassification = b.freshClassification call') ∨ ∃ call ∈ b.phoneCalls.rows,
        call'.origin = call.origin ∧ call'.destination = call.destination ∧
          call'.toCallClassification = call.toCallClassification) :
    Book.Settled { b with phoneCalls := calls } pending := by
  intro call' hcall'
  rcases h call' hcall' with hfresh | ⟨call, hcall, horigin, hdestination, hsame⟩
  · exact .inl hfresh
  · rcases hb call hcall with hfresh | ⟨tasks, htasks, htouched⟩
    · exact .inl (fresh_congr horigin hdestination (fun _ _ => .refl) hsame hfresh)
    · exact .inr ⟨tasks, htasks, (touches_congr horigin hdestination).trans htouched⟩

lemma run_upsertCallRecord {payload : CallPayload} {matcher : PhoneMatcher} {u : Unit}
    (h : (upsertCallRecord payload matcher).run b = .ok (u, b')) :
    ∃ call : PhoneCallRecord, call.providerCallId = payload.providerCallId ∧
      call.origin = normalizePhone payload.origin ∧
      call.destination = normalizePhone payload.destination ∧
      call.toCallClassification = matcher.classify payload.origin payload.destination ∧
      call.job = (b.phoneCalls.find? payload.providerCallId).bind PhoneCallRecord.job ∧
      b' = { b with phoneCalls := b.phoneCalls.upsert call } := by
  unfold upsertCallRecord at h
  simp only [Transaction.run_bind, Transaction.run_require, Transaction.run_read] at h
  obtain ⟨_, _, ⟨rfl, rfl⟩, _, _, ⟨-, rfl⟩, h⟩ := h
  split at h
  · rename_i hnone
    obtain rfl := Transaction.run_write.mp h
    rw [id] at hnone
    exact ⟨_, rfl, rfl, rfl, classify_normalizePhone .., by rw [hnone]; rfl, rfl⟩
  · rename_i call hcall
    obtain rfl := Transaction.run_write.mp h
    rw [id] at hcall
    let updated : PhoneCallRecord :=
      { matcher.classify (normalizePhone payload.origin) (normalizePhone payload.destination) with
        providerCallId := call.providerCallId, origin := normalizePhone payload.origin
        destination := normalizePhone payload.destination, job := call.job }
    have hkey : call.providerCallId = payload.providerCallId := Table.key_of_find? hcall
    refine ⟨updated, hkey, rfl, rfl, classify_normalizePhone .., by rw [hcall]; rfl, ?_⟩
    have hput : b.phoneCalls.upsert updated = b.phoneCalls.put updated := Table.upsert_of_find? hcall rfl
    rw [hput]

lemma run_linkPhoneCallToJob {callId : String} {jobId : ℕ} {u : Unit}
    (h : (linkPhoneCallToJob callId jobId).run b = .ok (u, b')) :
    ∃ call job, b.phoneCalls.find? callId = some call ∧ b.jobs.find? jobId = some job ∧
      job.company = call.company ∧
      b' = { b with phoneCalls := b.phoneCalls.put { call with job := some job.id } } := by
  unfold linkPhoneCallToJob at h
  simp only [Transaction.run_bind, Transaction.run_require, Transaction.run_read,
    Transaction.run_orRefuse, Transaction.run_write] at h
  obtain ⟨_, _, ⟨rfl, rfl⟩, call, _, ⟨hcall, rfl⟩, _, _, ⟨-, rfl⟩, job, _, ⟨hjob, rfl⟩, _, _,
    ⟨hsame, rfl⟩, rfl⟩ := h
  exact ⟨call, job, hcall, hjob, hsame, rfl⟩

lemma run_unlinkPhoneCallJob {callId : String} {u : Unit}
    (h : (unlinkPhoneCallJob callId).run b = .ok (u, b')) :
    ∃ call, b.phoneCalls.find? callId = some call ∧
      b' = { b with phoneCalls := b.phoneCalls.put { call with job := none } } := by
  unfold unlinkPhoneCallJob at h
  simp only [Transaction.run_bind, Transaction.run_read, Transaction.run_orRefuse,
    Transaction.run_write] at h
  obtain ⟨_, _, ⟨rfl, rfl⟩, call, _, ⟨hcall, rfl⟩, rfl⟩ := h
  exact ⟨call, hcall, rfl⟩

lemma run_updateJobCompany {jobId : ℕ} {company : Option ℕ} {u : Unit}
    (h : (updateJobCompany jobId company).run b = .ok (u, b')) :
    ∃ job, b.jobs.find? jobId = some job ∧ b' = { b with jobs := b.jobs.put { job with company } } := by
  unfold updateJobCompany at h
  simp only [Transaction.run_bind, Transaction.run_require, Transaction.run_read,
    Transaction.run_orRefuse, Transaction.run_write] at h
  obtain ⟨_, _, ⟨rfl, rfl⟩, job, _, ⟨hjob, rfl⟩, _, _, ⟨-, rfl⟩, rfl⟩ := h
  exact ⟨job, hjob, rfl⟩

namespace System

variable {s s' t : System}

lemma after_eq_some {call : BookCall Unit} (h : s.after call = some s') :
    ∃ book, call.run s.book = .ok ((), book) ∧ s' = { s with book } := by
  unfold after at h
  split at h
  · rename_i book hrun
    exact ⟨book, hrun, (Option.some.inj h).symm⟩
  · cases h

/-- Every call is classified as it would be now, or its rematch is queued. -/
def Settled (s : System) : Prop := s.book.Settled s.pending

end System

/-- A change meets its condition, and an import goes by the phone book as it stands. -/
def Meets (s : System) : Step → Prop
  | .change change => s.book.Meets change
  | .importCall _ => ∀ read ∈ s.importing, read.SamePhoneBook s.book
  | _ => True

instance (s : System) (step : Step) : Decidable (Meets s step) := by
  cases step <;> unfold Meets <;> infer_instance

lemma System.Settled.step {s s' : System} {step : Step} (hs : s.Settled) (hmeets : Meets s step)
    (h : crm s step = some s') : s'.Settled := by
  have hput : ∀ {callId : String} {call call' : PhoneCallRecord},
      s.book.phoneCalls.find? callId = some call → call'.origin = call.origin →
      call'.destination = call.destination → call'.toCallClassification = call.toCallClassification →
      Book.Settled { s.book with phoneCalls := s.book.phoneCalls.put call' } s.pending := by
    intro callId call call' hcall horigin hdestination hsame
    refine Book.Settled.calls hs fun other hother => .inr ?_
    obtain ⟨hother, -⟩ | ⟨rfl, -⟩ := Table.mem_put.mp hother
    · exact ⟨other, hother, rfl, rfl, rfl⟩
    · exact ⟨call, Table.mem_of_find? hcall, horigin, hdestination, hsame⟩
  cases step with
  | change change =>
      simp only [crm] at h
      split at h
      · rename_i hrun
        obtain rfl := Option.some.inj h
        exact Book.Settled.change hs hmeets hrun
      · cases h
  | rematch position =>
      obtain ⟨numbers, hnumbers, rfl⟩ := Option.map_eq_some_iff.mp h
      refine Book.Settled.rematch hs fun tasks htasks => ?_
      obtain ⟨index, hindex⟩ := List.mem_iff_getElem?.mp htasks
      by_cases hsame : index = position
      · subst hsame
        exact .inr (Option.some.inj (hindex.symm.trans hnumbers))
      · exact .inl (List.mem_eraseIdx_iff_getElem?.mpr ⟨index, hsame, hindex⟩)
  | beginImport =>
      obtain rfl := Option.some.inj h
      exact hs
  | importCall payload =>
      simp only [crm] at h
      split at h
      · obtain ⟨read, hread, hafter⟩ := Option.bind_eq_some_iff.mp h
        obtain ⟨book, hrun, rfl⟩ := System.after_eq_some hafter
        obtain ⟨call, -, horigin, hdestination, hclassified, -, rfl⟩ := run_upsertCallRecord hrun
        refine Book.Settled.calls hs fun other hother => ?_
        obtain rfl | ⟨hother, -⟩ := Table.mem_upsert.mp hother
        · left
          rw [hclassified, (hmeets read hread).phoneMatcher_eq]
          unfold Book.freshClassification
          rw [horigin, hdestination, classify_normalizePhone, classify_normalizePhone]
        · exact .inr ⟨other, hother, rfl, rfl, rfl⟩
      · obtain rfl := Option.some.inj h
        exact hs
  | linkCall callId jobId =>
      obtain ⟨book, hrun, rfl⟩ := System.after_eq_some h
      obtain ⟨call, job, hcall, -, -, rfl⟩ := run_linkPhoneCallToJob hrun
      exact hput hcall rfl rfl rfl
  | unlinkCall callId =>
      obtain ⟨book, hrun, rfl⟩ := System.after_eq_some h
      obtain ⟨call, hcall, rfl⟩ := run_unlinkPhoneCallJob hrun
      exact hput hcall rfl rfl rfl
  | updateJob jobId company =>
      obtain ⟨book, hrun, rfl⟩ := System.after_eq_some h
      obtain ⟨job, -, rfl⟩ := run_updateJobCompany hrun
      exact hs

/-- What a rematch of some numbers does: the calls from or to them are classified as an import with the
whole phone book would classify them, the others stay, and once is enough. -/
def Book.RematchesAsImported (b : Book) (numbers : List String) : Prop :=
  (∀ call ∈ b.phoneCalls.rows, ∃ call' : PhoneCallRecord,
      (rematchCallsForNumbers numbers b).phoneCalls.find? call.providerCallId = some call' ∧
        call'.origin = call.origin ∧ call'.destination = call.destination ∧
        if call.touches (soughtNumbers numbers) then
          call'.toCallClassification = b.freshClassification call
        else call' = call) ∧
    rematchCallsForNumbers numbers (rematchCallsForNumbers numbers b) = rematchCallsForNumbers numbers b

lemma rematchesAsImported (b : Book) (numbers : List String) : b.RematchesAsImported numbers := by
  refine ⟨fun call hcall => ⟨b.rematchOne numbers call, ?_, parties_rematchOne.1, parties_rematchOne.2, ?_⟩,
    rematch_rematch numbers b⟩
  · unfold rematchCallsForNumbers
    rw [Table.find?_modify, Table.find?_of_mem hcall]
    rfl
  · split
    · rename_i htouches
      have hfresh := fresh_rematchOne hcall htouches
      rw [hfresh, freshClassification_congr parties_rematchOne.1 parties_rematchOne.2]
      rfl
    · rename_i htouches
      exact rematchOne_of_not_touches htouches

/-- **Calls keep up with the phone book.**  A rematch classifies as an import would; and in every order of
changes, imports and rematches whose steps meet the condition, once no rematch is due every stored call
is classified as it would be if it were imported now. -/
theorem calls_classified_as_imported_afresh {s t : System} {steps : List Step}
    (hs : ∀ call ∈ s.book.phoneCalls.rows, s.book.Fresh call) (hmeets : crm.AllMeet Meets s steps)
    (hrun : crm.run s steps = some t) :
    (∀ (b : Book) (numbers : List String), b.RematchesAsImported numbers) ∧
      (t.pending = [] → ∀ call ∈ t.book.phoneCalls.rows, t.book.Fresh call) := by
  refine ⟨rematchesAsImported, fun hdone call hcall => ?_⟩
  have hstart : s.Settled := fun call hcall => .inl (hs call hcall)
  have hend : t.Settled :=
    Machine.run_keeps_of_meet (fun _ _ _ hs hmeets hstep => System.Settled.step hs hmeets hstep) hstart
      hmeets hrun
  refine (hend call hcall).resolve_right ?_
  rintro ⟨tasks, htasks, -⟩
  rw [hdone] at htasks
  cases htasks

/-! ### One company, one caller -/

section Examples

/-- A company with a number, one of our lines, and a call from an unknown mobile. -/
def oneCaller : System where
  book :=
    { companies := ⟨[⟨1, true, false, none⟩], by decide⟩
      people := .empty
      links := .empty
      contactMethods := ⟨[⟨1, .company 1, .phone, "09 123 4567", true⟩], by decide⟩
      phoneEndpoints := ⟨[⟨1, "09 555 0000", true⟩], by decide⟩
      phoneCalls := ⟨[{ direction := .inbound, ourNumber := some "+6495550000"
                        externalNumber := some "+6421000000", originEndpoint := none
                        destinationEndpoint := some 1, company := none, person := none
                        providerCallId := "main:1", origin := some "+6421000000"
                        destination := some "+6495550000", job := none }], by decide⟩
      jobs := .empty }
  pending := []
  importing := none

/-- The mobile becomes the company's, the old call is rematched, and another one is imported. -/
theorem calls_classified_as_imported_afresh_one_caller :
    ∃ t, crm.run oneCaller [.change (.saveContactMethod ⟨some (some 1), some none, some .phone,
        some "021 000 000", none⟩ none), .rematch 0, .beginImport,
        .importCall ⟨"main:2", true, some "0210 00000", some "09 5550000"⟩] = some t ∧
      (t.book.phoneCalls.rows.map fun call => call.company) = [some 1, some 1] ∧
      (∀ (b : Book) (numbers : List String), b.RematchesAsImported numbers) ∧
      (t.pending = [] → ∀ call ∈ t.book.phoneCalls.rows, t.book.Fresh call) := by
  let steps : List Step := [.change (.saveContactMethod ⟨some (some 1), some none, some .phone,
    some "021 000 000", none⟩ none), .rematch 0, .beginImport,
    .importCall ⟨"main:2", true, some "0210 00000", some "09 5550000"⟩]
  have hall : (∀ call ∈ oneCaller.book.phoneCalls.rows, oneCaller.book.Fresh call) ∧
      (crm.run oneCaller steps).any (fun t =>
        (t.book.phoneCalls.rows.map fun call => call.company) = [some 1, some 1]) = true ∧
      crm.AllMeet Meets oneCaller steps := by
    decide +kernel
  obtain ⟨hfresh, hends, hmeets⟩ := hall
  obtain ⟨t, hrun, hcompanies⟩ := (Option.any_eq_true _ _).mp hends
  exact ⟨t, hrun, of_decide_eq_true hcompanies, calls_classified_as_imported_afresh hfresh hmeets hrun⟩

/-- **A blocked company keeps its calls**: once the company that a number is found under may have no jobs, a
new call from it is nobody's, and no rematch is due for those there are. -/
theorem blocked_company_keeps_its_calls :
    ∃ s t, crm.run oneCaller [.change (.saveContactMethod ⟨some (some 1), some none, some .phone,
        some "021 000 000", none⟩ none), .rematch 0] = some s ∧
      (∀ call ∈ s.book.phoneCalls.rows, s.book.Fresh call) ∧
      crm.run s [.change (.updateCompany 1 (some false) none)] = some t ∧ t.pending = [] ∧
      ∃ call ∈ t.book.phoneCalls.rows, call.company = some 1 ∧
        (t.book.freshClassification call).company = none := by
  have hall : ((crm.run oneCaller [.change (.saveContactMethod ⟨some (some 1), some none, some .phone,
        some "021 000 000", none⟩ none), .rematch 0]).any fun s =>
      decide (∀ call ∈ s.book.phoneCalls.rows, s.book.Fresh call) &&
        (crm.run s [.change (.updateCompany 1 (some false) none)]).any fun t =>
          decide (t.pending = []) && decide (∃ call ∈ t.book.phoneCalls.rows, call.company = some 1 ∧
            (t.book.freshClassification call).company = none)) = true := by
    decide +kernel
  obtain ⟨s, hs, htest⟩ := (Option.any_eq_true _ _).mp hall
  obtain ⟨hfresh, hrest⟩ := Bool.and_eq_true_iff.mp htest
  obtain ⟨t, ht, hend⟩ := (Option.any_eq_true _ _).mp hrest
  obtain ⟨hpending, hcall⟩ := Bool.and_eq_true_iff.mp hend
  exact ⟨s, t, hs, of_decide_eq_true hfresh, ht, of_decide_eq_true hpending, of_decide_eq_true hcall⟩

end Examples

end Docketworks.Crm
