import Docketworks.Crm.ClassificationRuns

/-!
# One number, one company

The guards on saves look at a number as it is written.  Whose it is changes without it: a person's numbers
belong to the companies he works at, and links come, go and move.

* `Book.OneNumberOneCompany` — owners of one number share a company, and none of them has one of our lines.
* `Book.OneNumberOneCompany.moved` — it stays where owners move and keep the companies they share.
* `KeepsOwnership` — what archiving a person, a merge and a change of type have to meet.
* `one_number_one_company` — then it holds along every run.
-/

namespace Docketworks.Crm

open Library

variable {b b' : Book} {numbers : List String} {method other : ContactMethod} {owner : Owner}

/-! ## The rule -/

/-- The owners have a company in common. -/
def Book.ShareCompany (b : Book) (owner other : Owner) : Prop :=
  ∃ company ∈ b.ownerCompanyIds owner, company ∈ b.ownerCompanyIds other

instance (b : Book) (owner other : Owner) : Decidable (b.ShareCompany owner other) :=
  inferInstanceAs (Decidable (∃ company ∈ b.ownerCompanyIds owner, _))

lemma Book.ShareCompany.symm {owner other : Owner} (h : b.ShareCompany owner other) :
    b.ShareCompany other owner := by
  obtain ⟨company, howner, hother⟩ := h
  exact ⟨company, hother, howner⟩

/-- Two phone methods of one number. -/
structure SameNumber (method other : ContactMethod) : Prop where
  id : other.id ≠ method.id
  phone : method.methodType = .phone
  dials : other.dials method.normalizedValue = true

instance (method other : ContactMethod) : Decidable (SameNumber method other) :=
  decidable_of_iff (other.id ≠ method.id ∧ method.methodType = .phone ∧
    other.dials method.normalizedValue = true) ⟨fun h => ⟨h.1, h.2.1, h.2.2⟩, fun h => ⟨h.1, h.2, h.3⟩⟩

lemma SameNumber.symm (h : SameNumber method other) : SameNumber other method := by
  obtain ⟨hphone, hvalue⟩ := dials_iff.mp h.dials
  exact ⟨h.id.symm, hphone, dials_iff.mpr ⟨h.phone, hvalue.symm⟩⟩

/-- No two phone methods of a number have disjoint sets of companies, and none has one of our numbers. -/
structure Book.OneNumberOneCompany (b : Book) : Prop where
  methods : ∀ method ∈ b.contactMethods.rows, ∀ other ∈ b.contactMethods.rows, SameNumber method other →
    b.ShareCompany method.owner other.owner
  endpoints : ∀ endpoint ∈ b.phoneEndpoints.rows, endpoint.isActive = true →
    ∀ method ∈ b.contactMethods.rows, method.dials endpoint.normalizedNumber = false

instance (b : Book) : Decidable b.OneNumberOneCompany :=
  decidable_of_iff ((∀ method ∈ b.contactMethods.rows, ∀ other ∈ b.contactMethods.rows,
      SameNumber method other → b.ShareCompany method.owner other.owner) ∧
    ∀ endpoint ∈ b.phoneEndpoints.rows, endpoint.isActive = true →
      ∀ method ∈ b.contactMethods.rows, method.dials endpoint.normalizedNumber = false)
    ⟨fun h => ⟨h.1, h.2⟩, fun h => ⟨h.1, h.2⟩⟩

/-- A person has one link to a company: the constraint `unique_company_person_link`. -/
def Book.UniqueLinks (b : Book) : Prop :=
  ∀ link ∈ b.links.rows, ∀ link' ∈ b.links.rows, link.person = link'.person → link.company = link'.company →
    link = link'

instance (b : Book) : Decidable b.UniqueLinks :=
  inferInstanceAs (Decidable (∀ link ∈ b.links.rows, _))

/-! ## Owners move -/

lemma Book.OneNumberOneCompany.moved (move : Owner → Owner) (hb : b.OneNumberOneCompany)
    (hendpoints : ∀ endpoint ∈ b'.phoneEndpoints.rows, endpoint ∈ b.phoneEndpoints.rows)
    (hmethods : ∀ method' ∈ b'.contactMethods.rows, ∃ method ∈ b.contactMethods.rows,
      method.id = method'.id ∧ method.methodType = method'.methodType ∧ method.value = method'.value ∧
        method'.owner = move method.owner)
    (hshare : ∀ method ∈ b.contactMethods.rows, ∀ other ∈ b.contactMethods.rows, SameNumber method other →
      b.ShareCompany method.owner other.owner → b'.ShareCompany (move method.owner) (move other.owner)) :
    b'.OneNumberOneCompany := by
  have hdials : ∀ {method method' : ContactMethod} {n : String}, method.methodType = method'.methodType →
      method.value = method'.value → method'.dials n = method.dials n := by
    intro method method' n htype hvalue
    unfold ContactMethod.dials ContactMethod.normalizedValue
    rw [htype, hvalue]
  refine ⟨fun method' hmethod' other' hother' hsame => ?_, fun endpoint hendpoint hactive method' hmethod' => ?_⟩
  · obtain ⟨method, hmethod, hid, htype, hvalue, howner⟩ := hmethods method' hmethod'
    obtain ⟨other, hother, hid', htype', hvalue', howner'⟩ := hmethods other' hother'
    have hbefore : SameNumber method other := by
      refine ⟨by rw [hid, hid']; exact hsame.id, htype.trans hsame.phone, ?_⟩
      have hnumber : method'.normalizedValue = method.normalizedValue := by
        unfold ContactMethod.normalizedValue
        rw [htype, hvalue]
      rw [← hdials htype' hvalue', ← hnumber]
      exact hsame.dials
    rw [howner, howner']
    exact hshare method hmethod other hother hbefore (hb.methods method hmethod other hother hbefore)
  · obtain ⟨method, hmethod, -, htype, hvalue, -⟩ := hmethods method' hmethod'
    rw [hdials htype hvalue]
    exact hb.endpoints endpoint (hendpoints endpoint hendpoint) hactive method hmethod

lemma Book.OneNumberOneCompany.relinked (hb : b.OneNumberOneCompany)
    (hendpoints : b'.phoneEndpoints = b.phoneEndpoints) (hmethods : b'.contactMethods = b.contactMethods)
    (hshare : ∀ method ∈ b.contactMethods.rows, ∀ other ∈ b.contactMethods.rows, SameNumber method other →
      b.ShareCompany method.owner other.owner → b'.ShareCompany method.owner other.owner) :
    b'.OneNumberOneCompany := by
  refine hb.moved id (fun endpoint hendpoint => hendpoints ▸ hendpoint)
    (fun method hmethod => ?_) hshare
  exact ⟨method, hmethods ▸ hmethod, rfl, rfl, rfl, rfl⟩

lemma Book.OneNumberOneCompany.joined (hb : b.OneNumberOneCompany)
    (hendpoints : b'.phoneEndpoints = b.phoneEndpoints) (hmethods : b'.contactMethods = b.contactMethods)
    (h : ∀ person, ∀ company ∈ b.companiesOf person, company ∈ b'.companiesOf person) :
    b'.OneNumberOneCompany := by
  have hids : ∀ owner, ∀ company ∈ b.ownerCompanyIds owner, company ∈ b'.ownerCompanyIds owner := by
    intro owner company hcompany
    cases owner with
    | company id => exact hcompany
    | person id => exact h id company hcompany
  refine hb.relinked hendpoints hmethods fun method _ other _ _ hshared => ?_
  obtain ⟨company, hmethod, hother⟩ := hshared
  exact ⟨company, hids _ company hmethod, hids _ company hother⟩

/-! ## Saves -/

lemma grandfathered_eq_true : b.grandfathered method = true ↔
    ∃ stored, b.contactMethods.find? method.id = some stored ∧
      stored.normalizedValue = method.normalizedValue ∧ stored.owner = method.owner := by
  simp [Book.grandfathered, Option.any_eq_true]

/-- **Saving a method.**  The guard finds every method of the number. -/
lemma Book.OneNumberOneCompany.methodChange {Q : Prop} (hQ : Q) (hb : b.OneNumberOneCompany)
    (h : MethodChange Q numbers b b') : b'.OneNumberOneCompany := by
  cases h with
  | none => exact hb
  | @dropped old hold _ =>
      refine hb.moved id (fun _ h => h) (fun method hmethod => ?_)
        fun _ _ _ _ _ h => h
      exact ⟨method, (Table.mem_erase.mp hmethod).1, rfl, rfl, rfl, rfl⟩
  | @saved new haccepted _ hstored =>
      -- the row let through unchecked was a phone method of this number before
      have hgrand : new.methodType = .phone → b.grandfathered new = true →
          ∃ stored ∈ b.contactMethods.rows, stored.id = new.id ∧ stored.owner = new.owner ∧
            stored.dials new.normalizedValue = true := by
        intro hphone hgrand
        obtain ⟨stored, hfound, hnumber, howner⟩ := grandfathered_eq_true.mp hgrand
        have htype := (hstored stored hfound).2 hQ hphone hnumber
        exact ⟨stored, Table.mem_of_find? hfound, Table.key_of_find? hfound, howner,
          dials_iff.mpr ⟨htype, hnumber⟩⟩
      have hnew : ∀ old ∈ b.contactMethods.rows, old.id ≠ new.id → new.methodType = .phone →
          old.dials new.normalizedValue = true → b.ShareCompany new.owner old.owner := by
        intro old hold hid hphone hdials
        rcases haccepted.assigned hphone with hgrandfathered | ⟨-, hfree⟩
        · obtain ⟨stored, hmem, hkey, howner, hnumber⟩ := hgrand hphone hgrandfathered
          obtain ⟨htype, hvalue⟩ := dials_iff.mp hnumber
          rw [← howner]
          exact hb.methods stored hmem old hold ⟨hkey ▸ hid, htype, hvalue ▸ hdials⟩
        · obtain ⟨company, hother, hcompany⟩ := hfree old hold hdials hid
          exact ⟨company, hcompany, hother⟩
      refine ⟨fun method hmethod other hother hsame => ?_, fun endpoint hendpoint hactive method hmethod => ?_⟩
      · obtain rfl | ⟨old, hold, hid, rfl⟩ := mem_withMethod.mp hmethod <;>
          obtain rfl | ⟨old', hold', hid', rfl⟩ := mem_withMethod.mp hother
        · exact absurd rfl hsame.id
        · rw [owner_demoted]
          exact hnew old' hold' hid' hsame.phone (dials_demoted ▸ hsame.dials)
        · rw [owner_demoted]
          have hdials := hsame.symm.dials
          rw [dials_demoted] at hdials
          exact (hnew old hold hid hsame.symm.phone hdials).symm
        · rw [owner_demoted, owner_demoted]
          refine hb.methods old hold old' hold' ⟨?_, ?_, ?_⟩
          · simpa using hsame.id
          · simpa using hsame.phone
          · simpa using hsame.dials
      · obtain rfl | ⟨old, hold, -, rfl⟩ := mem_withMethod.mp hmethod
        · refine Bool.eq_false_iff.mpr fun hdials => ?_
          obtain ⟨hphone, hvalue⟩ := dials_iff.mp hdials
          rcases haccepted.assigned hphone with hgrandfathered | ⟨hown, -⟩
          · obtain ⟨stored, hmem, -, -, hnumber⟩ := hgrand hphone hgrandfathered
            rw [hvalue, hb.endpoints endpoint hendpoint hactive stored hmem] at hnumber
            cases hnumber
          · have hnone := List.find?_eq_none.mp hown endpoint hendpoint
            simp [hactive, hvalue] at hnone
        · rw [dials_demoted]
          exact hb.endpoints endpoint hendpoint hactive old hold

lemma Book.OneNumberOneCompany.methodChanges {Q : Prop} (hQ : Q) (hb : b.OneNumberOneCompany)
    (h : MethodChanges Q numbers b b') : b'.OneNumberOneCompany := by
  induction h with
  | refl => exact hb
  | tail _ hchange ih => exact ih.methodChange hQ hchange

/-- **Saving an endpoint.**  No company shares one, so the guard finds every method of the number. -/
lemma Book.OneNumberOneCompany.endpointChange {endpoint : PhoneEndpoint} (hb : b.OneNumberOneCompany)
    (h : EndpointChange numbers b endpoint b') : b'.OneNumberOneCompany := by
  obtain ⟨hfree, -, -, rfl⟩ := h
  refine ⟨hb.methods, fun row hrow hactive method hmethod => ?_⟩
  obtain rfl | ⟨hrow, -⟩ := Table.mem_upsert.mp hrow
  · cases hchanged : b.activeNumberChanged row with
    | true => exact hfree hactive hchanged method hmethod
    | false =>
        -- an endpoint that was active under its number stays so
        unfold Book.activeNumberChanged at hchanged
        cases hstored : b.phoneEndpoints.find? row.id with
        | none => simp [hstored] at hchanged
        | some stored =>
            simp only [hstored, Option.all_some, Bool.or_eq_false_iff, decide_eq_false_iff_not,
              not_not] at hchanged
            rw [← hchanged.1]
            exact hb.endpoints stored (Table.mem_of_find? hstored) (hchanged.2.trans hactive) method hmethod
  · exact hb.endpoints row hrow hactive method hmethod

/-! ## Links -/

/-- A number of the person's is on another method as well. -/
def Book.SharesNumber (b : Book) (person : ℕ) : Prop :=
  ∃ method ∈ b.phonesOf (.person person), ∃ other ∈ b.contactMethods.rows, SameNumber method other

instance (b : Book) (person : ℕ) : Decidable (b.SharesNumber person) :=
  inferInstanceAs (Decidable (∃ method ∈ b.phonesOf (.person person), _))

/-- The guard of `remove_company_link`. -/
def Book.MayLeave (b : Book) (person company : ℕ) : Prop :=
  ∀ method ∈ b.phonesOf (.person person),
    b.conflictingCompany method.normalizedValue (b.projectedCompanyIds person company) (some method.id) = none

instance (b : Book) (person company : ℕ) : Decidable (b.MayLeave person company) :=
  inferInstanceAs (Decidable (∀ method ∈ b.phonesOf (.person person), _))

section Links

variable {person company : ℕ}

lemma mayLeave_iff : b.MayLeave person company ↔ ∀ method ∈ b.phonesOf (.person person),
    ∀ other ∈ b.contactMethods.rows, SameNumber method other →
      ∃ id ∈ b.ownerCompanyIds other.owner, id ∈ b.companiesOf person ∧ id ≠ company := by
  unfold Book.MayLeave
  refine forall₂_congr fun method hmethod => ?_
  have hphone := (mem_phonesOf.mp hmethod).2.2
  rw [conflictingCompany_eq_none]
  refine forall₂_congr fun other _ => ⟨fun h hsame => ?_, fun h hdials hid => ?_⟩
  · obtain ⟨id, hid, hprojected⟩ := h hsame.dials fun heq => hsame.id (Option.some.inj heq)
    obtain ⟨hlinked, hne⟩ := List.mem_filter.mp hprojected
    exact ⟨id, hid, hlinked, by simpa using hne⟩
  · obtain ⟨id, hid', hlinked, hne⟩ := h ⟨fun heq => hid (congrArg some heq), hphone, hdials⟩
    exact ⟨id, hid', List.mem_filter.mpr ⟨hlinked, by simpa using hne⟩⟩

lemma mem_phonesOf_owner (hmethod : method ∈ b.contactMethods.rows) (hsame : SameNumber method other)
    (howner : method.owner = owner) : method ∈ b.phonesOf owner :=
  mem_phonesOf.mpr ⟨hmethod, howner, hsame.phone⟩

lemma companiesOf_withLink {other : ℕ} (h : company ∈ b.companiesOf other) {person' company' : ℕ} :
    company ∈ (b.withLink person' company').companiesOf other := by
  obtain ⟨link, hlink, hperson, hactive, hcompany⟩ := mem_companiesOf.mp h
  refine mem_companiesOf.mpr ?_
  cases hstored : b.linkOf person' company' with
  | none =>
      refine ⟨link, mem_withLink.mpr (.inr ⟨hlink, fun hid => ?_⟩), hperson, hactive, hcompany⟩
      rw [hstored] at hid
      have hfresh : link.id = b.links.freshKey := hid
      exact b.links.freshKey_not_mem (hfresh ▸ List.mem_map_of_mem hlink)
  | some stored =>
      obtain ⟨hmem, hperson', hcompany'⟩ := person_linkOf hstored
      by_cases hid : link.id = stored.id
      · obtain rfl := Table.eq_of_key_eq hlink hmem hid
        refine ⟨link, mem_withLink.mpr (.inl ⟨hperson', hcompany', hactive, ?_⟩), hperson, hactive, hcompany⟩
        rw [hstored]
        rfl
      · refine ⟨link, mem_withLink.mpr (.inr ⟨hlink, ?_⟩), hperson, hactive, hcompany⟩
        rw [hstored]
        exact hid

lemma ownerCompanyIds_of_ne (hothers : ∀ other ≠ person, ∀ c ∈ b.companiesOf other, c ∈ b'.companiesOf other)
    (hne : owner ≠ .person person) (hcompany : company ∈ b.ownerCompanyIds owner) :
    company ∈ b'.ownerCompanyIds owner := by
  cases owner with
  | company id => exact hcompany
  | person id => exact hothers id (fun heq => hne (congrArg Owner.person heq)) company hcompany

lemma Book.OneNumberOneCompany.left (hb : b.OneNumberOneCompany)
    (hendpoints : b'.phoneEndpoints = b.phoneEndpoints) (hmethods : b'.contactMethods = b.contactMethods)
    (hothers : ∀ other ≠ person, ∀ c ∈ b.companiesOf other, c ∈ b'.companiesOf other)
    (hkept : ∀ c ∈ b.companiesOf person, c ≠ company → c ∈ b'.companiesOf person)
    (hmay : b.MayLeave person company) : b'.OneNumberOneCompany := by
  have helse : ∀ owner, ∀ c ∈ b.ownerCompanyIds owner, c ≠ company → c ∈ b'.ownerCompanyIds owner := by
    intro owner c hc hne
    by_cases howner : owner = .person person
    · subst howner
      exact hkept c hc hne
    · exact ownerCompanyIds_of_ne hothers howner hc
  -- whoever has a number of the person's shares a company with him that he does not leave
  have hside : ∀ method ∈ b.contactMethods.rows, ∀ other ∈ b.contactMethods.rows, SameNumber method other →
      method.owner = .person person → b'.ShareCompany method.owner other.owner := by
    intro method hmethod other hother' hsame howner
    obtain ⟨id, hid, hlinked, hne⟩ := mayLeave_iff.mp hmay method (mem_phonesOf_owner hmethod hsame howner)
      other hother' hsame
    exact ⟨id, howner ▸ hkept id hlinked hne, helse _ id hid hne⟩
  refine hb.relinked hendpoints hmethods fun method hmethod other hother' hsame hshared => ?_
  by_cases howner : method.owner = .person person
  · exact hside method hmethod other hother' hsame howner
  · by_cases howner' : other.owner = .person person
    · exact (hside other hother' method hmethod hsame.symm howner').symm
    · obtain ⟨c, hc, hc'⟩ := hshared
      exact ⟨c, ownerCompanyIds_of_ne hothers howner hc, ownerCompanyIds_of_ne hothers howner' hc'⟩

lemma Book.OneNumberOneCompany.archived (hb : b.OneNumberOneCompany)
    (hendpoints : b'.phoneEndpoints = b.phoneEndpoints) (hmethods : b'.contactMethods = b.contactMethods)
    (hothers : ∀ other ≠ person, ∀ c ∈ b.companiesOf other, c ∈ b'.companiesOf other)
    (hshares : ¬b.SharesNumber person) : b'.OneNumberOneCompany := by
  have hne : ∀ method ∈ b.contactMethods.rows, ∀ other ∈ b.contactMethods.rows, SameNumber method other →
      method.owner ≠ .person person := fun method hmethod other hother hsame howner =>
    hshares ⟨method, mem_phonesOf_owner hmethod hsame howner, other, hother, hsame⟩
  refine hb.relinked hendpoints hmethods fun method hmethod other hother hsame hshared => ?_
  obtain ⟨c, hc, hc'⟩ := hshared
  exact ⟨c, ownerCompanyIds_of_ne hothers (hne method hmethod other hother hsame) hc,
    ownerCompanyIds_of_ne hothers (hne other hother method hmethod hsame.symm) hc'⟩

end Links

/-! ## Merges -/

section Merges

variable {source destination : ℕ}

/-- Where a person's link to the source is dropped for an inactive one to the destination, he may leave. -/
def Book.LinksFollow (b : Book) (source destination : ℕ) : Prop :=
  ∀ link ∈ b.links.rows, link.company = source → link.isActive = true →
    ∀ into ∈ b.linkOf link.person destination, into.isActive = false → b.MayLeave link.person source

instance (b : Book) (source destination : ℕ) : Decidable (b.LinksFollow source destination) :=
  inferInstanceAs (Decidable (∀ link ∈ b.links.rows, _))

lemma companiesOf_moveCompanyLinks_of_ne {person company : ℕ} (h : company ∈ b.companiesOf person)
    (hne : company ≠ source) : company ∈ (b.moveCompanyLinks source destination).companiesOf person := by
  obtain ⟨link, hlink, hperson, hactive, rfl⟩ := mem_companiesOf.mp h
  refine mem_companiesOf.mpr ⟨link, List.mem_map.mpr ⟨link, List.mem_filter.mpr ⟨hlink, ?_⟩, if_neg hne⟩,
    hperson, hactive, rfl⟩
  simp [hne]

lemma destination_mem_moveCompanyLinks {person : ℕ} (h : source ∈ b.companiesOf person)
    (hne : source ≠ destination) (hinto : ∀ into ∈ b.linkOf person destination, into.isActive = true) :
    destination ∈ (b.moveCompanyLinks source destination).companiesOf person := by
  obtain ⟨link, hlink, rfl, hactive, hcompany⟩ := mem_companiesOf.mp h
  cases hstored : b.linkOf link.person destination with
  | none =>
      refine mem_companiesOf.mpr ⟨{ link with company := destination }, ?_, rfl, hactive, rfl⟩
      refine List.mem_map.mpr ⟨link, List.mem_filter.mpr ⟨hlink, ?_⟩, if_pos hcompany⟩
      simp [hstored]
  | some into =>
      obtain ⟨hmem, hperson, hwork⟩ := person_linkOf hstored
      have hother : into.company ≠ source := fun heq => hne (heq.symm.trans hwork)
      have hlinked : destination ∈ b.companiesOf link.person :=
        mem_companiesOf.mpr ⟨into, hmem, hperson, hinto into hstored, hwork⟩
      exact companiesOf_moveCompanyLinks_of_ne hlinked hne.symm

def movedOwner (from' into : Owner) (owner : Owner) : Owner := if owner = from' then into else owner

lemma mem_moveMethods {from' into : Owner} {primary : ContactMethod → Bool} {method' : ContactMethod}
    (h : method' ∈ (b.moveMethods from' into primary).contactMethods.rows) :
    ∃ method ∈ b.contactMethods.rows, method.id = method'.id ∧ method.methodType = method'.methodType ∧
      method.value = method'.value ∧ method'.owner = movedOwner from' into method.owner := by
  obtain ⟨method, hmethod, rfl⟩ := List.mem_map.mp h
  exact ⟨method, List.mem_of_mem_filter hmethod, rfl, rfl, rfl, rfl⟩

lemma Book.OneNumberOneCompany.reassignCompanyFkRecords (hb : b.OneNumberOneCompany)
    (hne : source ≠ destination) (hfollow : b.LinksFollow source destination) :
    (b.reassignCompanyFkRecords source destination).OneNumberOneCompany := by
  let move := movedOwner (.company source) (.company destination)
  let after := b.reassignCompanyFkRecords source destination
  have helse : ∀ owner, ∀ c ∈ b.ownerCompanyIds owner, c ≠ source → c ∈ after.ownerCompanyIds (move owner) := by
    intro owner c hc hother
    cases owner with
    | company id =>
        obtain rfl := List.mem_singleton.mp hc
        have hstays : move (.company c) = .company c := if_neg fun heq => hother (Owner.company.inj heq)
        rw [hstays]
        exact hc
    | person id => exact companiesOf_moveCompanyLinks_of_ne hc hother
  -- an owner at the source is at the destination, or may leave the source
  have hmoves : ∀ owner, source ∈ b.ownerCompanyIds owner → destination ∈ after.ownerCompanyIds (move owner) ∨
      ∃ person, owner = .person person ∧ b.MayLeave person source := by
    intro owner hsource
    cases owner with
    | company id =>
        obtain rfl := List.mem_singleton.mp hsource
        have hmoved : move (.company source) = .company destination := if_pos rfl
        rw [hmoved]
        exact .inl (List.mem_singleton_self _)
    | person id =>
        by_cases hinto : ∀ into ∈ b.linkOf id destination, into.isActive = true
        · exact .inl (destination_mem_moveCompanyLinks hsource hne hinto)
        · push Not at hinto
          obtain ⟨into, hstored, hinactive⟩ := hinto
          obtain ⟨link, hlink, rfl, hactive, hcompany⟩ := mem_companiesOf.mp hsource
          exact .inr ⟨_, rfl, hfollow link hlink hcompany hactive into hstored (by simpa using hinactive)⟩
  have hside : ∀ method ∈ b.contactMethods.rows, ∀ other ∈ b.contactMethods.rows, SameNumber method other →
      (∃ person, method.owner = .person person ∧ b.MayLeave person source) →
      after.ShareCompany (move method.owner) (move other.owner) := by
    rintro method hmethod other hother hsame ⟨person, howner, hmay⟩
    obtain ⟨id, hid, hlinked, hstays⟩ := mayLeave_iff.mp hmay method
      (mem_phonesOf_owner hmethod hsame howner) other hother hsame
    exact ⟨id, helse _ id (howner ▸ hlinked) hstays, helse _ id hid hstays⟩
  refine hb.moved move (fun _ h => h) (fun method' hmethod' => mem_moveMethods hmethod') ?_
  rintro method hmethod other hother hsame ⟨c, hc, hc'⟩
  by_cases hsource : c = source
  · subst hsource
    rcases hmoves _ hc with hdestination | hleaves
    · rcases hmoves _ hc' with hdestination' | hleaves'
      · exact ⟨destination, hdestination, hdestination'⟩
      · exact (hside other hother method hmethod hsame.symm hleaves').symm
    · exact hside method hmethod other hother hsame hleaves
  · exact ⟨c, helse _ c hc hsource, helse _ c hc' hsource⟩

end Merges

/-! ## People become one -/

section People

variable {source destination : ℕ}

/-- A link once two people are one. -/
def Book.mergedLink (b : Book) (source destination : ℕ) (link : CompanyPersonLink) : CompanyPersonLink :=
  if link.person = source then { link with person := destination }
  else if link.person = destination then
    { link with isActive := link.isActive || (b.linkOf source link.company).any CompanyPersonLink.isActive }
  else link

lemma mem_mergeLinks {link' : CompanyPersonLink} :
    link' ∈ (b.mergeLinks source destination).links.rows ↔ ∃ link ∈ b.links.rows,
      ¬(link.person = source ∧ (b.linkOf destination link.company).isSome = true) ∧
        b.mergedLink source destination link = link' := by
  unfold Book.mergeLinks Book.mergedLink
  simp only [Table.rows_modify, Table.rows_filter, List.mem_map, List.mem_filter, Bool.not_eq_true',
    Bool.and_eq_false_imp, decide_eq_true_eq, not_and, Bool.not_eq_true, and_assoc]

lemma linkOf_of_mem (hb : b.UniqueLinks) {link : CompanyPersonLink} (hlink : link ∈ b.links.rows) :
    b.linkOf link.person link.company = some link := by
  cases hstored : b.linkOf link.person link.company with
  | none =>
      have hnone := List.find?_eq_none.mp hstored link hlink
      simp at hnone
  | some stored =>
      obtain ⟨hmem, hperson, hcompany⟩ := person_linkOf hstored
      rw [hb stored hmem link hlink hperson hcompany]

lemma companiesOf_mergeLinks (hb : b.UniqueLinks) {person company : ℕ} (h : company ∈ b.companiesOf person)
    (hne : source ≠ destination) : company ∈ (b.mergeLinks source destination).companiesOf
      (if person = source then destination else person) := by
  obtain ⟨link, hlink, rfl, hactive, rfl⟩ := mem_companiesOf.mp h
  refine mem_companiesOf.mpr ?_
  by_cases hsource : link.person = source
  · rw [if_pos hsource]
    cases hinto : b.linkOf destination link.company with
    | none =>
        refine ⟨{ link with person := destination }, mem_mergeLinks.mpr ⟨link, hlink, ?_, if_pos hsource⟩, rfl,
          hactive, rfl⟩
        simp [hinto]
    | some into =>
        -- the destination's own link becomes active, as the source's was
        obtain ⟨hmem, hperson, hcompany⟩ := person_linkOf hinto
        have hother : into.person ≠ source := fun heq => hne (heq.symm.trans hperson)
        refine ⟨_, mem_mergeLinks.mpr ⟨into, hmem, fun hgone => hother hgone.1, rfl⟩, ?_⟩
        unfold Book.mergedLink
        rw [if_neg hother, if_pos hperson]
        refine ⟨hperson, ?_, hcompany⟩
        have hfound : b.linkOf source into.company = some link := by
          rw [hcompany, ← hsource]
          exact linkOf_of_mem hb hlink
        simp [hfound, hactive]
  · rw [if_neg hsource]
    refine ⟨_, mem_mergeLinks.mpr ⟨link, hlink, fun hgone => hsource hgone.1, rfl⟩, ?_⟩
    unfold Book.mergedLink
    rw [if_neg hsource]
    split
    · exact ⟨rfl, by simp [hactive], rfl⟩
    · exact ⟨rfl, hactive, rfl⟩

lemma Book.OneNumberOneCompany.mergePeople (hb : b.OneNumberOneCompany) (hlinks : b.UniqueLinks)
    (hne : source ≠ destination) :
    (((b.mergeLinks source destination).mergeMethods source destination).replacePerson source
      destination).OneNumberOneCompany := by
  let move := movedOwner (.person source) (.person destination)
  have hids : ∀ owner, ∀ c ∈ b.ownerCompanyIds owner,
      c ∈ (b.mergeLinks source destination).ownerCompanyIds (move owner) := by
    intro owner c hc
    cases owner with
    | company id => exact hc
    | person id =>
        have hjoined := companiesOf_mergeLinks hlinks hc hne
        by_cases hsource : id = source
        · rw [if_pos hsource] at hjoined
          have hmoved : move (.person id) = .person destination := if_pos (congrArg Owner.person hsource)
          rw [hmoved]
          exact hjoined
        · rw [if_neg hsource] at hjoined
          have hstays : move (.person id) = .person id := if_neg fun heq => hsource (Owner.person.inj heq)
          rw [hstays]
          exact hjoined
  refine hb.moved move (fun _ h => h) (fun method' hmethod' => ?_) ?_
  · have hmid : method' ∈ ((b.mergeLinks source destination).mergeMethods source
        destination).contactMethods.rows := hmethod'
    exact mem_moveMethods hmid
  · rintro method - other - - ⟨c, hc, hc'⟩
    exact ⟨c, hids _ c hc, hids _ c hc'⟩

end People

/-! ## One link each -/

section UniqueLinks

variable {source destination person company : ℕ}

lemma Book.UniqueLinks.congr (hb : b.UniqueLinks) (h : b'.links = b.links) : b'.UniqueLinks := by
  unfold Book.UniqueLinks
  rw [h]
  exact hb

lemma Book.UniqueLinks.withLink (hb : b.UniqueLinks) : (b.withLink person company).UniqueLinks := by
  -- the stored link of the pair, if there is one, is the one that was rewritten
  have hother : ∀ link ∈ b.links.rows, link.person = person → link.company = company →
      link.id = ((b.linkOf person company).map CompanyPersonLink.id).getD b.links.freshKey := by
    rintro link hlink rfl rfl
    rw [linkOf_of_mem hb hlink]
    rfl
  intro link hlink link' hlink' hperson hcompany
  obtain ⟨hp, hc, hactive, hid⟩ | ⟨hlink, hid⟩ := mem_withLink.mp hlink <;>
    obtain ⟨hp', hc', hactive', hid'⟩ | ⟨hlink', hid'⟩ := mem_withLink.mp hlink'
  · cases link
    cases link'
    simp_all
  · exact absurd (hother link' hlink' (hperson.symm.trans hp) (hcompany.symm.trans hc)) hid'
  · exact absurd (hother link hlink (hperson.trans hp') (hcompany.trans hc')) hid
  · exact hb link hlink link' hlink' hperson hcompany

lemma Book.UniqueLinks.withoutLinks (hb : b.UniqueLinks) {test : CompanyPersonLink → Bool} :
    (b.withoutLinks test).UniqueLinks := by
  have hpair : ∀ link : CompanyPersonLink,
      (if test link then { link with isActive := false } else link).person = link.person ∧
        (if test link then { link with isActive := false } else link).company = link.company := by
    intro link
    split <;> exact ⟨rfl, rfl⟩
  intro link' hlink' other' hother' hperson hcompany
  obtain ⟨link, hlink, rfl⟩ := List.mem_map.mp hlink'
  obtain ⟨other, hother, rfl⟩ := List.mem_map.mp hother'
  rw [(hpair link).1, (hpair other).1] at hperson
  rw [(hpair link).2, (hpair other).2] at hcompany
  rw [hb link hlink other hother hperson hcompany]

lemma Book.UniqueLinks.moveCompanyLinks (hb : b.UniqueLinks) :
    (b.moveCompanyLinks source destination).UniqueLinks := by
  -- a link that moves meets none at the destination
  have hfree : ∀ link ∈ b.links.rows, link.company = source →
      ¬(link.company = source ∧ (b.linkOf link.person destination).isSome = true) →
      ∀ other ∈ b.links.rows, other.person = link.person → other.company ≠ destination := by
    intro link _ hsource hkept other hother hperson hcompany
    refine hkept ⟨hsource, ?_⟩
    rw [← hperson, ← hcompany, linkOf_of_mem hb hother]
    rfl
  intro link' hlink' other' hother' hperson hcompany
  unfold Book.moveCompanyLinks at hlink' hother'
  obtain ⟨link, hlink, rfl⟩ := List.mem_map.mp hlink'
  obtain ⟨other, hother, rfl⟩ := List.mem_map.mp hother'
  obtain ⟨hlink, hkept⟩ := List.mem_filter.mp hlink
  obtain ⟨hother, hkept'⟩ := List.mem_filter.mp hother
  by_cases hsource : link.company = source <;> by_cases hsource' : other.company = source
  · rw [if_pos hsource, if_pos hsource'] at hperson hcompany ⊢
    rw [hb link hlink other hother hperson (hsource.trans hsource'.symm)]
  · rw [if_pos hsource, if_neg hsource'] at hperson hcompany
    refine absurd hcompany.symm (hfree link hlink hsource ?_ other hother hperson.symm)
    simpa [imp_iff_not_or] using hkept
  · rw [if_neg hsource, if_pos hsource'] at hperson hcompany
    refine absurd hcompany (hfree other hother hsource' ?_ link hlink hperson)
    simpa [imp_iff_not_or] using hkept'
  · rw [if_neg hsource, if_neg hsource'] at hperson hcompany ⊢
    exact hb link hlink other hother hperson hcompany

lemma Book.UniqueLinks.mergeLinks (hb : b.UniqueLinks) :
    (b.mergeLinks source destination).UniqueLinks := by
  -- a link that moves meets none of the destination's
  have hfree : ∀ link ∈ b.links.rows, link.person = source →
      ¬(link.person = source ∧ (b.linkOf destination link.company).isSome = true) →
      ∀ other ∈ b.links.rows, other.company = link.company → other.person ≠ destination := by
    intro link _ hsource hkept other hother hcompany hperson
    refine hkept ⟨hsource, ?_⟩
    rw [← hperson, ← hcompany, linkOf_of_mem hb hother]
    rfl
  have hmoves : ∀ link : CompanyPersonLink, link.person = source →
      b.mergedLink source destination link = { link with person := destination } :=
    fun link hsource => if_pos hsource
  have hstays : ∀ link : CompanyPersonLink, link.person ≠ source →
      (b.mergedLink source destination link).person = link.person ∧
        (b.mergedLink source destination link).company = link.company := by
    intro link hsource
    unfold Book.mergedLink
    rw [if_neg hsource]
    split <;> exact ⟨rfl, rfl⟩
  intro link' hlink' other' hother' hperson hcompany
  obtain ⟨link, hlink, hkept, rfl⟩ := mem_mergeLinks.mp hlink'
  obtain ⟨other, hother, hkept', rfl⟩ := mem_mergeLinks.mp hother'
  by_cases hsource : link.person = source <;> by_cases hsource' : other.person = source
  · rw [hmoves link hsource, hmoves other hsource'] at hperson hcompany ⊢
    rw [hb link hlink other hother (hsource.trans hsource'.symm) hcompany]
  · rw [hmoves link hsource, (hstays other hsource').1] at hperson
    rw [hmoves link hsource, (hstays other hsource').2] at hcompany
    exact absurd hperson.symm (hfree link hlink hsource hkept other hother hcompany.symm)
  · rw [(hstays link hsource).1, hmoves other hsource'] at hperson
    rw [(hstays link hsource).2, hmoves other hsource'] at hcompany
    exact absurd hperson (hfree other hother hsource' hkept' link hlink hcompany)
  · rw [(hstays link hsource).1, (hstays other hsource').1] at hperson
    rw [(hstays link hsource).2, (hstays other hsource').2] at hcompany
    rw [hb link hlink other hother hperson hcompany]

end UniqueLinks

/-! ## Changes -/

/-- An update makes no phone number of an email address that reads the same; a person who is archived has no
number that others have; a company that is deleted has nobody; and a merge drops a person's link only where
the destination has an active one, or he may leave the source. -/
def Book.KeepsOwnership (b : Book) : BookChange → Prop
  | .saveContactMethod data methodId => ¬b.MakesPhoneOfEmail data methodId
  | .archivePerson person => ¬b.SharesNumber person
  | .discardCompany company => ∀ link ∈ b.links.rows, link.company = company → link.isActive = false
  | .mergeCompanies source destination => b.LinksFollow source destination
  | .resolvePendingMerge company mergedInto => ∀ row ∈ b.companies.find? company, row.mergedInto = none →
      (b.companies.find? mergedInto).isSome = true →
        b.LinksFollow company ((b.withCompany (row.pendingInto mergedInto)).finalCompany company)
  | _ => True

instance (b : Book) (data : ContactMethodWriteData) (methodId : Option ℕ) :
    Decidable (b.MakesPhoneOfEmail data methodId) :=
  inferInstanceAs (Decidable (∃ old ∈ methodId.bind b.contactMethods.find?, _))

instance (b : Book) (change : BookChange) : Decidable (b.KeepsOwnership change) :=
  match change with
  | .saveContactMethod _ _ | .deleteContactMethod _ | .createPersonForCompany _ _ | .putCompanyLink _ _
  | .archivePerson _ | .removeCompanyLink _ _ | .createEndpoint _ _ | .updateEndpoint _ _ _
  | .destroyEndpoint _ | .createCompany _ _ | .discardCompany _ | .updateCompany _ _ _
  | .setCompanyFields _ _ _ | .mergeCompanies _ _ | .resolvePendingMerge _ _ | .mergePeople _ _
  | .assignPhoneNumber _ _ _ _ => by
      unfold Book.KeepsOwnership
      infer_instance

lemma links_of_methodChanges {Q : Prop} (h : MethodChanges Q numbers b b') : b'.links = b.links := by
  induction h with
  | refl => rfl
  | tail _ hchange ih =>
      refine Eq.trans ?_ ih
      cases hchange <;> rfl

/-- The rule, and the constraint it rests on. -/
structure Book.Owned (b : Book) : Prop where
  numbers : b.OneNumberOneCompany
  links : b.UniqueLinks

namespace Book.Owned

lemma methodChanges {Q : Prop} (hQ : Q) (hb : b.Owned) (h : MethodChanges Q numbers b b') : b'.Owned :=
  ⟨hb.numbers.methodChanges hQ h, hb.links.congr (links_of_methodChanges h)⟩

lemma untouched (hb : b.Owned) (hendpoints : b'.phoneEndpoints = b.phoneEndpoints)
    (hmethods : b'.contactMethods = b.contactMethods) (hlinks : b'.links = b.links) : b'.Owned := by
  refine ⟨hb.numbers.joined hendpoints hmethods fun person company hcompany => ?_, hb.links.congr hlinks⟩
  unfold Book.companiesOf
  rw [hlinks]
  exact hcompany

lemma reassignCompanyFkRecords {source destination : ℕ} (hb : b.Owned) (hne : source ≠ destination)
    (hfollow : b.LinksFollow source destination) :
    (b.reassignCompanyFkRecords source destination).Owned := by
  refine ⟨hb.numbers.reassignCompanyFkRecords hne hfollow, ?_⟩
  exact (Book.UniqueLinks.moveCompanyLinks (hb.links.congr rfl)).congr rfl

lemma withoutCompany {company : ℕ} (hb : b.Owned)
    (hnobody : ∀ link ∈ b.links.rows, link.company = company → link.isActive = false) :
    (b.withoutCompany company).Owned := by
  have hids : ∀ owner, ∀ c ∈ b.ownerCompanyIds owner, c ∈ (b.withoutCompany company).ownerCompanyIds owner := by
    intro owner c hc
    cases owner with
    | company id => exact hc
    | person id =>
        obtain ⟨link, hlink, hperson, hactive, hcompany⟩ := mem_companiesOf.mp hc
        have hother : link.company ≠ company := by
          intro heq
          rw [hnobody link hlink heq] at hactive
          cases hactive
        refine mem_companiesOf.mpr ⟨link, List.mem_filter.mpr ⟨hlink, ?_⟩, hperson, hactive, hcompany⟩
        simpa using hother
  refine ⟨hb.numbers.moved id (fun _ h => h) (fun method hmethod => ?_) ?_, ?_⟩
  · exact ⟨method, List.mem_of_mem_filter hmethod, rfl, rfl, rfl, rfl⟩
  · rintro method - other - - ⟨c, hc, hc'⟩
    exact ⟨c, hids _ c hc, hids _ c hc'⟩
  · intro link hlink link' hlink'
    exact hb.links link (List.mem_of_mem_filter hlink) link' (List.mem_of_mem_filter hlink')

lemma change {change : BookChange} (hb : b.Owned) (hkeeps : b.KeepsOwnership change)
    (h : change.call.run b = .ok (numbers, b')) : b'.Owned := by
  cases change with
  | saveContactMethod data methodId => exact hb.methodChanges hkeeps (run_saveContactMethod h).changes
  | deleteContactMethod methodId => exact hb.methodChanges trivial (run_deleteContactMethod h).changes
  | createPersonForCompany company phone =>
      have hjoined : (b.withNewPerson company).OneNumberOneCompany :=
        hb.numbers.joined rfl rfl fun _ _ hcompany => companiesOf_withLink hcompany
      have hnew : (b.withNewPerson company).Owned :=
        ⟨hjoined, Book.UniqueLinks.withLink (hb.links.congr rfl)⟩
      exact hnew.methodChanges trivial (run_createPersonForCompany h).changes
  | putCompanyLink person company =>
      obtain ⟨-, rfl⟩ := run_putCompanyLink h
      have hjoined : (b.withLink person company).OneNumberOneCompany :=
        hb.numbers.joined rfl rfl fun _ _ hcompany => companiesOf_withLink hcompany
      have hlinked : (b.withLink person company).Owned := ⟨hjoined, hb.links.withLink⟩
      exact hlinked.untouched rfl rfl rfl
  | archivePerson person =>
      obtain ⟨-, rfl⟩ := run_archivePerson h
      have harchived : (b.withoutLinks fun link => link.person = person).OneNumberOneCompany := by
        refine hb.numbers.archived rfl rfl (fun other hother c hc => ?_) hkeeps
        exact (companiesOf_withoutLinks fun link _ hperson => by simp [hperson, hother]).mpr hc
      have hleft : (b.withoutLinks fun link => link.person = person).Owned :=
        ⟨harchived, hb.links.withoutLinks⟩
      exact hleft.untouched rfl rfl rfl
  | removeCompanyLink person company =>
      obtain ⟨-, hguard, hleft⟩ := run_removeCompanyLink h
      have hmay : b.MayLeave person company := mayLeave_iff.mpr fun method hmethod other hother hsame =>
        hguard method hmethod other hother hsame.dials hsame.id
      have hrule : (b.withoutLinks fun link =>
          link.person = person && link.company = company).OneNumberOneCompany := by
        refine hb.numbers.left rfl rfl (fun other hother c hc => ?_) (fun c hc hne => ?_) hmay
        · exact (companiesOf_withoutLinks fun link _ hperson => by simp [hperson, hother]).mpr hc
        · obtain ⟨link, hlink, hperson, hactive, rfl⟩ := mem_companiesOf.mp hc
          exact mem_companiesOf.mpr ⟨link, List.mem_map.mpr ⟨link, hlink, by simp [hne]⟩, hperson, hactive, rfl⟩
      have hremoved : (b.withoutLinks fun link =>
          link.person = person && link.company = company).Owned := ⟨hrule, hb.links.withoutLinks⟩
      obtain rfl | rfl := hleft
      · exact hremoved.untouched rfl rfl rfl
      · exact hremoved
  | createEndpoint number isActive =>
      obtain ⟨endpoint, hchange⟩ := run_createEndpoint h
      refine ⟨hb.numbers.endpointChange hchange, hb.links.congr ?_⟩
      rw [hchange.left]
      rfl
  | updateEndpoint endpointId number isActive =>
      obtain ⟨endpoint, hchange⟩ := run_updateEndpoint h
      refine ⟨hb.numbers.endpointChange hchange, hb.links.congr ?_⟩
      rw [hchange.left]
      rfl
  | destroyEndpoint endpointId =>
      obtain ⟨endpoint, -, -, rfl⟩ := run_destroyEndpoint h
      refine ⟨⟨hb.numbers.methods, fun row hrow => ?_⟩, hb.links.congr rfl⟩
      exact hb.numbers.endpoints row (Table.mem_erase.mp hrow).1
  | createCompany allowJobs phone =>
      refine methodChanges trivial (hb.untouched ?_ ?_ ?_) (run_createCompany h).changes <;> rfl
  | discardCompany company =>
      obtain ⟨-, -, rfl⟩ := run_discardCompany h
      exact hb.withoutCompany hkeeps
  | updateCompany company allowJobs phone =>
      obtain ⟨row, -, hchange⟩ := run_updateCompany h
      refine methodChanges trivial (hb.untouched ?_ ?_ ?_) hchange.changes <;> rfl
  | setCompanyFields company archived phones =>
      obtain ⟨row, -, hchanges⟩ := run_setCompanyFields h
      refine methodChanges trivial (hb.untouched ?_ ?_ ?_) hchanges <;> rfl
  | mergeCompanies source destination =>
      obtain ⟨hne, -, old, into, -, -, rfl⟩ := run_mergeCompanies h
      refine reassignCompanyFkRecords (hb.untouched ?_ ?_ ?_) hne hkeeps <;> rfl
  | resolvePendingMerge company mergedInto =>
      obtain ⟨-, rfl | ⟨row, hrow, hopen, hknown, hmerged⟩⟩ := run_resolvePendingMerge h
      · exact hb
      have hrowed : (b.withCompany (row.pendingInto mergedInto)).Owned := hb.untouched rfl rfl rfl
      obtain rfl | ⟨destination, hne, rfl, rfl⟩ := hmerged
      · exact hrowed
      · exact hrowed.reassignCompanyFkRecords hne.symm (hkeeps row hrow hopen hknown)
  | mergePeople source destination =>
      obtain ⟨hne, -, isActive, rfl⟩ := run_mergePeople h
      have hstart : (b.withPerson destination isActive).Owned := hb.untouched rfl rfl rfl
      exact ⟨hstart.numbers.mergePeople hstart.links hne, hstart.links.mergeLinks.congr rfl⟩
  | assignPhoneNumber number company person isPrimary =>
      obtain ⟨-, mid, hchange, rfl⟩ := run_assignPhoneNumber h
      exact (hb.methodChanges trivial hchange.changes).untouched rfl rfl rfl

end Book.Owned

/-! ## Runs -/

/-- A change meets its condition; nothing else does anything to numbers, links or endpoints. -/
def KeepsNumbers (s : System) : Step → Prop
  | .change change => s.book.KeepsOwnership change
  | _ => True

instance (s : System) (step : Step) : Decidable (KeepsNumbers s step) :=
  match step with
  | .change _ | .rematch _ | .beginImport | .importCall _ | .linkCall _ _ | .unlinkCall _ | .updateJob _ _ => by
      unfold KeepsNumbers
      infer_instance

lemma owned_step {s s' : System} {step : Step} (hs : s.book.Owned) (hkeeps : KeepsNumbers s step)
    (h : crm s step = some s') : s'.book.Owned := by
  cases step with
  | change change =>
      simp only [crm] at h
      split at h
      · rename_i hrun
        obtain rfl := Option.some.inj h
        exact hs.change hkeeps hrun
      · cases h
  | rematch position =>
      obtain ⟨numbers, -, rfl⟩ := Option.map_eq_some_iff.mp h
      exact hs.untouched rfl rfl rfl
  | beginImport =>
      obtain rfl := Option.some.inj h
      exact hs
  | importCall payload =>
      simp only [crm] at h
      split at h
      · obtain ⟨read, -, hafter⟩ := Option.bind_eq_some_iff.mp h
        obtain ⟨book, hrun, rfl⟩ := System.after_eq_some hafter
        obtain ⟨call, -, -, -, -, -, rfl⟩ := run_upsertCallRecord hrun
        exact hs.untouched rfl rfl rfl
      · obtain rfl := Option.some.inj h
        exact hs
  | linkCall callId jobId =>
      obtain ⟨book, hrun, rfl⟩ := System.after_eq_some h
      obtain ⟨call, job, -, -, -, rfl⟩ := run_linkPhoneCallToJob hrun
      exact hs.untouched rfl rfl rfl
  | unlinkCall callId =>
      obtain ⟨book, hrun, rfl⟩ := System.after_eq_some h
      obtain ⟨call, -, rfl⟩ := run_unlinkPhoneCallJob hrun
      exact hs.untouched rfl rfl rfl
  | updateJob jobId company =>
      obtain ⟨book, hrun, rfl⟩ := System.after_eq_some h
      obtain ⟨job, -, rfl⟩ := run_updateJobCompany hrun
      exact hs.untouched rfl rfl rfl

/-- **One number, one company**, in every state of a run whose changes meet the condition, where there was no
conflict at its start. -/
theorem one_number_one_company {s t : System} {steps : List Step} (hs : s.book.OneNumberOneCompany)
    (hlinks : s.book.UniqueLinks) (hkeeps : crm.AllMeet KeepsNumbers s steps)
    (hrun : crm.run s steps = some t) : t.book.OneNumberOneCompany := by
  have hend : t.book.Owned :=
    Machine.run_keeps_of_meet (I := fun s => s.book.Owned)
      (fun _ _ _ hs hkeeps hstep => owned_step hs hkeeps hstep) ⟨hs, hlinks⟩ hkeeps hrun
  exact hend.numbers

/-! ### A number of a company and of a person there -/

section Examples

lemma nodup_two_companies :
    ([⟨1, true, false, none⟩, ⟨2, true, false, none⟩].map Company.id).Nodup := by
  decide

/-- A person has the number of his company; he used to be at another one, whose email address reads as that
number. -/
def sharedNumber : System where
  book :=
    { companies := ⟨[⟨1, true, false, none⟩, ⟨2, true, false, none⟩], nodup_two_companies⟩
      people := ⟨[⟨11, true⟩], by decide⟩
      links := ⟨[⟨1, 1, 11, true⟩, ⟨2, 2, 11, false⟩], by decide⟩
      contactMethods := ⟨[⟨1, .company 1, .phone, "021 000 000", true⟩,
        ⟨2, .person 11, .phone, "021 000000", true⟩, ⟨3, .company 2, .email, "+6421000000", true⟩], by decide⟩
      phoneEndpoints := .empty
      phoneCalls := .empty
      jobs := .empty }
  pending := []
  importing := none

/-- He is at both companies when they are merged, and one of our lines gets another number. -/
theorem one_number_one_company_merged :
    ∃ t, crm.run sharedNumber [.change (.putCompanyLink 11 2), .change (.mergeCompanies 1 2),
      .change (.createEndpoint "09 555 0000" true)] = some t ∧ t.book.OneNumberOneCompany := by
  let steps : List Step := [.change (.putCompanyLink 11 2), .change (.mergeCompanies 1 2),
    .change (.createEndpoint "09 555 0000" true)]
  have hall : sharedNumber.book.OneNumberOneCompany ∧ sharedNumber.book.UniqueLinks ∧
      (crm.run sharedNumber steps).isSome = true ∧ crm.AllMeet KeepsNumbers sharedNumber steps := by
    decide +kernel
  obtain ⟨hrule, hlinks, hends, hkeeps⟩ := hall
  obtain ⟨t, hrun⟩ := Option.isSome_iff_exists.mp hends
  exact ⟨t, hrun, one_number_one_company hrule hlinks hkeeps hrun⟩

/-- **A number of two owners without a company in common**: the person is archived, his link is dropped for
the old one as the companies are merged, or the email address becomes a phone number. -/
theorem number_without_company_in_common :
    sharedNumber.book.OneNumberOneCompany ∧ sharedNumber.book.UniqueLinks ∧
      ∀ change ∈ [BookChange.archivePerson 11, .mergeCompanies 1 2,
          .saveContactMethod ⟨none, none, some .phone, none, none⟩ (some 3)],
        ∃ t, crm.run sharedNumber [.change change] = some t ∧ ¬t.book.OneNumberOneCompany := by
  have hall : sharedNumber.book.OneNumberOneCompany ∧ sharedNumber.book.UniqueLinks ∧
      ∀ change ∈ [BookChange.archivePerson 11, .mergeCompanies 1 2,
          .saveContactMethod ⟨none, none, some .phone, none, none⟩ (some 3)],
        (crm.run sharedNumber [.change change]).any (fun t => ¬t.book.OneNumberOneCompany) = true := by
    decide +kernel
  obtain ⟨hrule, hlinks, hbroken⟩ := hall
  refine ⟨hrule, hlinks, fun change hchange => ?_⟩
  obtain ⟨t, ht, htest⟩ := (Option.any_eq_true _ _).mp (hbroken change hchange)
  exact ⟨t, ht, of_decide_eq_true htest⟩

end Examples

end Docketworks.Crm
