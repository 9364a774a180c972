import Docketworks.Crm.BookServices

/-!
# What a change did

One lemma for each service: from a call that went through, the tables it left.

* `run_saveMethod` — an accepted method is stored, its guards passed.
* `MethodChange` — what the services of contact methods do to one: nothing, store it, or drop it.
-/

namespace Docketworks.Crm

open Library

variable {b b' : Book} {method : ContactMethod} {owner : Owner} {numbers : List String} {n : String}

/-! ## Reading -/

@[simp] lemma normalizedValue_demoted {saved : ContactMethod} :
    (demoted saved method).normalizedValue = method.normalizedValue := by
  unfold demoted
  split <;> rfl

@[simp] lemma owner_demoted {saved : ContactMethod} : (demoted saved method).owner = method.owner := by
  unfold demoted
  split <;> rfl

@[simp] lemma methodType_demoted {saved : ContactMethod} :
    (demoted saved method).methodType = method.methodType := by
  unfold demoted
  split <;> rfl

@[simp] lemma dials_demoted {saved : ContactMethod} : (demoted saved method).dials n = method.dials n := by
  unfold ContactMethod.dials
  rw [methodType_demoted, normalizedValue_demoted]

lemma dials_iff : method.dials n = true ↔ method.methodType = .phone ∧ method.normalizedValue = n := by
  simp [ContactMethod.dials]

lemma mem_phonesOf : method ∈ b.phonesOf owner ↔
    method ∈ b.contactMethods.rows ∧ method.owner = owner ∧ method.methodType = .phone := by
  simp [Book.phonesOf]

lemma mem_companiesOf {person company : ℕ} : company ∈ b.companiesOf person ↔
    ∃ link ∈ b.links.rows, link.person = person ∧ link.isActive = true ∧ link.company = company := by
  simp [Book.companiesOf, and_assoc]

lemma mem_withMethod {m : ContactMethod} : m ∈ (b.withMethod method).contactMethods.rows ↔
    m = method ∨ ∃ old ∈ b.contactMethods.rows, old.id ≠ method.id ∧ demoted method old = m := by
  unfold Book.withMethod
  rw [Table.mem_upsert, Table.rows_modify, List.mem_map]
  refine or_congr_right ⟨?_, ?_⟩
  · rintro ⟨⟨old, hold, rfl⟩, hne⟩
    exact ⟨old, hold, by rwa [id_demoted] at hne, rfl⟩
  · rintro ⟨old, hold, hne, rfl⟩
    exact ⟨⟨old, hold, rfl⟩, by rwa [id_demoted]⟩

/-! ## Saving a method -/

/-- The guards a method passed: its number is free, or was its owner's before. -/
structure Accepted (b : Book) (method : ContactMethod) : Prop where
  hasValue : method.normalizedValue ≠ ""
  assigned : method.methodType = .phone → b.grandfathered method = true ∨
    b.activeEndpoint method.normalizedValue = none ∧
      ∀ other ∈ b.contactMethods.rows, other.dials method.normalizedValue = true → other.id ≠ method.id →
        ∃ company ∈ b.ownerCompanyIds other.owner, company ∈ b.ownerCompanyIds method.owner

lemma conflictingCompany_eq_none {companies : List ℕ} {excluded : Option ℕ} :
    b.conflictingCompany n companies excluded = none ↔
      ∀ other ∈ b.contactMethods.rows, other.dials n = true → some other.id ≠ excluded →
        ∃ company ∈ b.ownerCompanyIds other.owner, company ∈ companies := by
  simp [Book.conflictingCompany]

lemma checkPhoneAssignment_eq_ok : b.checkPhoneAssignment method = .ok () ↔
    b.grandfathered method = true ∨ b.activeEndpoint method.normalizedValue = none ∧
      b.conflictingCompany method.normalizedValue (b.ownerCompanyIds method.owner) (some method.id) =
        none := by
  unfold Book.checkPhoneAssignment
  split
  · rename_i hgrand
    exact iff_of_true rfl (.inl hgrand)
  · rename_i hgrand
    split
    · rename_i hown
      refine iff_of_false (by rintro ⟨⟩) (not_or.mpr ⟨hgrand, fun h => ?_⟩)
      rw [h.1] at hown
      cases hown
    · rename_i hown
      split
      · rename_i hconflict
        refine iff_of_false (by rintro ⟨⟩) (not_or.mpr ⟨hgrand, fun h => ?_⟩)
        rw [h.2] at hconflict
        cases hconflict
      · rename_i hconflict
        exact iff_of_true rfl (.inr ⟨Option.not_isSome_iff_eq_none.mp hown,
          Option.not_isSome_iff_eq_none.mp hconflict⟩)

lemma run_saveMethod {u : Unit} (h : (saveMethod method).run b = .ok (u, b')) :
    Accepted b method ∧ b' = b.withMethod method := by
  unfold saveMethod at h
  simp only [Transaction.run_bind, Transaction.run_require, Transaction.run_when, Transaction.run_read,
    Transaction.run_consult, Transaction.run_write] at h
  obtain ⟨_, _, ⟨hvalue, rfl⟩, _, _, hcheck, _, _, ⟨rfl, rfl⟩, _, _, ⟨-, rfl⟩, rfl⟩ := h
  rcases hcheck with ⟨hphone, hcheck, rfl⟩ | ⟨hemail, rfl⟩
  · refine ⟨⟨hvalue, fun _ => ?_⟩, rfl⟩
    rcases checkPhoneAssignment_eq_ok.mp hcheck with hstored | ⟨hown, hconflict⟩
    · exact .inl hstored
    · refine .inr ⟨hown, fun other hother hdials hne => ?_⟩
      exact conflictingCompany_eq_none.mp hconflict other hother hdials fun heq => hne (Option.some.inj heq)
  · exact ⟨⟨hvalue, fun hphone => absurd hphone hemail⟩, rfl⟩

/-! ## One method -/

/-- The numbers of a method are among these. -/
def Mentions (numbers : List String) (method : ContactMethod) : Prop :=
  ∀ n, n ≠ "" → method.dials n = true → n ∈ numbers

/-- What a service did to the contact methods, and the numbers it schedules.  Under `Q`, a phone method let
through with the number and owner it had was a phone method before. -/
inductive MethodChange (Q : Prop) (numbers : List String) (b : Book) : Book → Prop
  | none : MethodChange Q numbers b b
  | saved {new : ContactMethod} (accepted : Accepted b new) (mentioned : Mentions numbers new)
      (stored : ∀ old, b.contactMethods.find? new.id = some old →
        Mentions numbers old ∧ (Q → new.methodType = .phone →
          old.normalizedValue = new.normalizedValue → old.methodType = .phone)) :
      MethodChange Q numbers b (b.withMethod new)
  | dropped {old : ContactMethod} (hold : old ∈ b.contactMethods.rows) (mentioned : Mentions numbers old) :
      MethodChange Q numbers b (b.withoutMethod old.id)

lemma mentions_scheduled {kept : List String} (h : method.normalizedValue ∈ kept) :
    Mentions (scheduled kept) method := by
  intro n hn hdials
  obtain ⟨-, rfl⟩ := dials_iff.mp hdials
  exact List.mem_filter.mpr ⟨h, by simpa using hn⟩

lemma mentions_of_mem (h : method.normalizedValue ∈ numbers) : Mentions numbers method := by
  intro n _ hdials
  obtain ⟨-, rfl⟩ := dials_iff.mp hdials
  exact h

lemma mentions_phoneNumberForRematch : Mentions (phoneNumberForRematch method) method := by
  intro n hn hdials
  obtain ⟨hphone, rfl⟩ := dials_iff.mp hdials
  unfold phoneNumberForRematch
  rw [if_pos hphone]
  exact List.mem_filter.mpr ⟨List.mem_singleton_self _, by simpa using hn⟩

lemma Mentions.append_left {more : List String} (h : Mentions numbers method) :
    Mentions (numbers ++ more) method :=
  fun n hn hdials => List.mem_append_left _ (h n hn hdials)

lemma Mentions.append_right {more : List String} (h : Mentions numbers method) :
    Mentions (more ++ numbers) method :=
  fun n hn hdials => List.mem_append_right _ (h n hn hdials)

section Phones

variable {value : String}

lemma Book.primaryPhone_spec (b : Book) (owner : Owner) (value : String) :
    (b.primaryPhone owner value).owner = owner ∧
    (b.primaryPhone owner value).methodType = .phone ∧ (b.primaryPhone owner value).value = value ∧
    ∀ old, b.contactMethods.find? (b.primaryPhone owner value).id = some old → old.methodType = .phone ∧
      (old.normalizedValue = ContactMethod.normalizePhone value ∨
        (b.phonesOf owner).find? ContactMethod.isPrimary = some old) := by
  unfold Book.primaryPhone
  split
  · rename_i same hsame
    obtain ⟨hmem, howner, hphone⟩ := mem_phonesOf.mp (List.mem_of_find?_eq_some hsame)
    refine ⟨howner, hphone, rfl, fun old hold => ?_⟩
    obtain rfl := Option.some.inj ((Table.find?_of_mem hmem).symm.trans hold)
    exact ⟨hphone, .inl (by simpa using List.find?_some hsame)⟩
  · split
    · rename_i primary hprimary
      obtain ⟨hmem, howner, hphone⟩ := mem_phonesOf.mp (List.mem_of_find?_eq_some hprimary)
      refine ⟨howner, hphone, rfl, fun old hold => ?_⟩
      obtain rfl := Option.some.inj ((Table.find?_of_mem hmem).symm.trans hold)
      exact ⟨hphone, .inr hprimary⟩
    · refine ⟨rfl, rfl, rfl, fun old hold => ?_⟩
      rw [Table.find?_freshKey] at hold
      cases hold

lemma run_setPrimaryPhone (h : (setPrimaryPhone owner value).run b = .ok (numbers, b')) :
    MethodChange True numbers b b' := by
  unfold setPrimaryPhone at h
  simp only [Transaction.run_bind, Transaction.run_require, Transaction.run_read,
    Transaction.run_pure] at h
  obtain ⟨_, _, ⟨rfl, rfl⟩, _, _, ⟨-, rfl⟩, _, _, hsave, rfl, rfl⟩ := h
  obtain ⟨haccepted, rfl⟩ := run_saveMethod hsave
  obtain ⟨-, hphone, hvalue, hstored⟩ := b.primaryPhone_spec owner (pythonStrip value)
  have hnumber : (b.primaryPhone owner (pythonStrip value)).normalizedValue =
      ContactMethod.normalizePhone (pythonStrip value) := by
    unfold ContactMethod.normalizedValue
    rw [hphone, hvalue]
    rfl
  refine .saved haccepted (mentions_scheduled (by simp)) fun old hold => ?_
  obtain ⟨htype, hsame | hprimary⟩ := hstored old hold
  · exact ⟨mentions_scheduled (by simp [hsame, hnumber]), fun _ _ _ => htype⟩
  · refine ⟨mentions_scheduled ?_, fun _ _ _ => htype⟩
    rw [id, hprimary]
    exact List.mem_append_left _ List.mem_cons_self

lemma run_clearCompanyPrimaryPhone {company : ℕ}
    (h : (clearCompanyPrimaryPhone company).run b = .ok (numbers, b')) :
    MethodChange True numbers b b' := by
  unfold clearCompanyPrimaryPhone at h
  simp only [Transaction.run_bind, Transaction.run_read] at h
  obtain ⟨_, _, ⟨rfl, rfl⟩, h⟩ := h
  split at h
  · obtain ⟨-, rfl⟩ := Transaction.run_pure.mp h
    exact .none
  · rename_i primary hprimary
    simp only [Transaction.run_bind, Transaction.run_write, Transaction.run_pure] at h
    obtain ⟨_, _, rfl, rfl, rfl⟩ := h
    exact .dropped (mem_phonesOf.mp (List.mem_of_find?_eq_some hprimary)).1
      (mentions_scheduled List.mem_cons_self)

lemma run_applyCompanyPhoneChange {company : ℕ} {phone : Option (Option String)}
    (h : (applyCompanyPhoneChange company phone).run b = .ok (numbers, b')) :
    MethodChange True numbers b b' := by
  unfold applyCompanyPhoneChange at h
  split at h
  · obtain ⟨-, rfl⟩ := Transaction.run_pure.mp h
    exact .none
  · split at h
    · exact run_setPrimaryPhone h
    · exact run_clearCompanyPrimaryPhone h

end Phones

def Book.MakesPhoneOfEmail (b : Book) (data : ContactMethodWriteData) (methodId : Option ℕ) : Prop :=
  ∃ old ∈ methodId.bind b.contactMethods.find?, old.methodType = .email ∧ data.methodType = some .phone ∧
    ContactMethod.normalizePhone (data.value.getD old.value) = old.normalizedValue

lemma run_saveContactMethod {data : ContactMethodWriteData} {methodId : Option ℕ}
    (h : (saveContactMethod data methodId).run b = .ok (numbers, b')) :
    MethodChange (¬b.MakesPhoneOfEmail data methodId) numbers b b' := by
  unfold saveContactMethod at h
  simp only [Transaction.run_bind, Transaction.run_require, Transaction.run_read,
    Transaction.run_consult, Transaction.run_orRefuse, Transaction.run_pure] at h
  obtain ⟨_, _, ⟨rfl, rfl⟩, _, _, ⟨-, rfl⟩, owner, _, ⟨-, rfl⟩, methodType, _, ⟨htype, rfl⟩, _, _,
    hsave, rfl, rfl⟩ := h
  obtain ⟨haccepted, rfl⟩ := run_saveMethod hsave
  refine .saved haccepted mentions_phoneNumberForRematch.append_right fun old hold => ?_
  cases hstored : methodId.bind b.contactMethods.find? with
  | none =>
      rw [id, hstored, Option.map_none, Option.getD_none, Table.find?_freshKey] at hold
      cases hold
  | some stored =>
      have hfound := hold
      rw [id, hstored, Option.map_some, Option.getD_some] at hfound
      obtain ⟨methodKey, hkey, hread⟩ := Option.bind_eq_some_iff.mp hstored
      obtain rfl : stored = old := by
        rw [Table.key_of_find? hread, hread] at hfound
        exact Option.some.inj hfound
      refine ⟨?_, fun hkeeps hphone hsame => ?_⟩
      · rw [id, hstored]
        exact Mentions.append_left mentions_phoneNumberForRematch
      · obtain rfl : methodType = .phone := hphone
        rw [id, hstored] at htype
        cases hkind : stored.methodType with
        | phone => rfl
        | email =>
            refine absurd ⟨stored, hstored, hkind, ?_, ?_⟩ hkeeps
            · cases hdata : data.methodType with
              | none => simp [hdata, hkind] at htype
              | some methodType => simpa [hdata] using htype
            · rw [hsame, id, hstored]
              cases data.value <;> rfl

lemma run_deleteContactMethod {methodId : ℕ}
    (h : (deleteContactMethod methodId).run b = .ok (numbers, b')) : MethodChange True numbers b b' := by
  unfold deleteContactMethod at h
  simp only [Transaction.run_bind, Transaction.run_read, Transaction.run_orRefuse,
    Transaction.run_write, Transaction.run_pure] at h
  obtain ⟨_, _, ⟨rfl, rfl⟩, method, _, ⟨hmethod, rfl⟩, _, _, rfl, rfl, rfl⟩ := h
  exact .dropped (Table.mem_of_find? hmethod) mentions_phoneNumberForRematch

/-- Several such changes in a row. -/
inductive MethodChanges (Q : Prop) (numbers : List String) (b : Book) : Book → Prop
  | refl : MethodChanges Q numbers b b
  | tail {mid b' : Book} (changes : MethodChanges Q numbers b mid) (change : MethodChange Q numbers mid b') :
      MethodChanges Q numbers b b'

lemma MethodChange.changes {Q : Prop} (h : MethodChange Q numbers b b') :
    MethodChanges Q numbers b b' := .tail .refl h

lemma normalizedValue_importedPhone {company : ℕ} {phone : Xero.XeroPhone} :
    (b.importedPhone company phone).normalizedValue =
      ContactMethod.normalizePhone (Xero.xeroPhoneValue phone) := rfl

lemma run_syncXeroPhoneMethods {company : ℕ} {phones : List Xero.XeroPhone} {b₀ : Book}
    {before : List String} (hbefore : MethodChanges True (before ++ numbers) b₀ b)
    (h : (syncXeroPhoneMethods company phones).run b = .ok (numbers, b')) :
    MethodChanges True (before ++ numbers) b₀ b' := by
  induction phones generalizing b before numbers with
  | nil =>
      obtain ⟨-, rfl⟩ := Transaction.run_pure.mp h
      exact hbefore
  | cons phone phones ih =>
      rw [syncXeroPhoneMethods] at h
      simp only [Transaction.run_bind, Transaction.run_read] at h
      obtain ⟨_, _, ⟨rfl, rfl⟩, h⟩ := h
      split at h
      · exact ih hbefore h
      · simp only [Transaction.run_bind, Transaction.run_pure] at h
        obtain ⟨_, _, hsave, created, _, hrest, rfl, rfl⟩ := h
        obtain ⟨haccepted, rfl⟩ := run_saveMethod hsave
        rw [List.append_cons] at hbefore ⊢
        refine ih (hbefore.tail (.saved haccepted ?_ fun old hold => ?_)) hrest
        · refine (mentions_of_mem ?_).append_left
          rw [normalizedValue_importedPhone]
          exact List.mem_append_right _ (List.mem_singleton_self _)
        · have hfresh : b.contactMethods.find? b.contactMethods.freshKey = none := Table.find?_freshKey _
          cases hfresh.symm.trans hold

/-! ## People and links -/

lemma run_createPersonForCompany {company : ℕ} {phone : Option String}
    (h : (createPersonForCompany company phone).run b = .ok (numbers, b')) :
    MethodChange True numbers (b.withNewPerson company) b' := by
  unfold createPersonForCompany at h
  simp only [Transaction.run_bind, Transaction.run_require, Transaction.run_read,
    Transaction.run_write] at h
  obtain ⟨_, _, ⟨rfl, rfl⟩, _, _, ⟨-, rfl⟩, _, _, ⟨-, rfl⟩, _, _, ⟨-, rfl⟩, _, _, rfl, h⟩ := h
  split at h
  · obtain ⟨-, rfl⟩ := Transaction.run_pure.mp h
    exact .none
  · exact run_setPrimaryPhone h

lemma run_putCompanyLink {person company : ℕ} (h : (putCompanyLink person company).run b = .ok (numbers, b')) :
    numbers = b.personPhoneNumbers person ∧ b' = (b.withLink person company).withPerson person true := by
  unfold putCompanyLink at h
  simp only [Transaction.run_bind, Transaction.run_require, Transaction.run_read, Transaction.run_write,
    Transaction.run_pure] at h
  obtain ⟨_, _, ⟨rfl, rfl⟩, _, _, ⟨-, rfl⟩, _, _, rfl, rfl, rfl⟩ := h
  exact ⟨rfl, rfl⟩

lemma run_archivePerson {person : ℕ} (h : (archivePerson person).run b = .ok (numbers, b')) :
    numbers = b.personPhoneNumbers person ∧
      b' = (b.withoutLinks fun link => link.person = person).withPerson person false := by
  unfold archivePerson at h
  simp only [Transaction.run_bind, Transaction.run_require, Transaction.run_read, Transaction.run_write,
    Transaction.run_pure] at h
  obtain ⟨_, _, ⟨rfl, rfl⟩, _, _, ⟨-, rfl⟩, _, _, rfl, rfl, rfl⟩ := h
  exact ⟨rfl, rfl⟩

lemma run_removeCompanyLink {person company : ℕ}
    (h : (removeCompanyLink person company).run b = .ok (numbers, b')) :
    numbers = b.personPhoneNumbers person ∧
      (∀ method ∈ b.phonesOf (.person person), ∀ other ∈ b.contactMethods.rows,
        other.dials method.normalizedValue = true → other.id ≠ method.id →
          ∃ id ∈ b.ownerCompanyIds other.owner, id ∈ b.companiesOf person ∧ id ≠ company) ∧
      (b' = (b.withoutLinks fun link => link.person = person && link.company = company).withPerson person
          false ∨
        b' = b.withoutLinks fun link => link.person = person && link.company = company) := by
  unfold removeCompanyLink at h
  simp only [Transaction.run_bind, Transaction.run_require, Transaction.run_read, Transaction.run_write,
    Transaction.run_when, Transaction.run_pure] at h
  obtain ⟨_, _, ⟨rfl, rfl⟩, _, _, ⟨-, rfl⟩, _, _, ⟨hguard, rfl⟩, _, _, rfl, _, _, hretired, rfl, rfl⟩ := h
  refine ⟨rfl, fun method hmethod other hother hdials hne => ?_, ?_⟩
  · obtain ⟨id, hid, hprojected⟩ := conflictingCompany_eq_none.mp (hguard method hmethod) other hother
      hdials fun heq => hne (Option.some.inj heq)
    obtain ⟨hlinked, hother⟩ := List.mem_filter.mp hprojected
    exact ⟨id, hid, hlinked, by simpa using hother⟩
  · exact hretired.imp (fun h => h.2.symm) fun h => h.2.symm

/-! ## Our own numbers -/

/-- The guard an endpoint passed: no phone method has its number, unless it was active under it before. -/
def Book.EndpointFree (b : Book) (endpoint : PhoneEndpoint) : Prop :=
  endpoint.isActive = true → b.activeNumberChanged endpoint = true →
    ∀ method ∈ b.contactMethods.rows, method.dials endpoint.normalizedNumber = false

lemma run_saveEndpoint {endpoint : PhoneEndpoint} {u : Unit}
    (h : (saveEndpoint endpoint).run b = .ok (u, b')) :
    b.EndpointFree endpoint ∧ b' = b.withEndpoint endpoint := by
  unfold saveEndpoint at h
  simp only [Transaction.run_bind, Transaction.run_require, Transaction.run_read,
    Transaction.run_write] at h
  obtain ⟨_, _, ⟨-, rfl⟩, _, _, ⟨rfl, rfl⟩, _, _, ⟨hfree, rfl⟩, _, _, ⟨-, rfl⟩, rfl⟩ := h
  refine ⟨fun hactive hchanged method hmethod => ?_, rfl⟩
  refine Bool.eq_false_iff.mpr fun hdials => ?_
  obtain ⟨_, -, hnone⟩ := conflictingCompany_eq_none.mp (hfree ⟨hactive, hchanged⟩) method hmethod hdials
    (Option.some_ne_none _)
  exact List.not_mem_nil hnone

lemma run_endpointFieldErrors {stored : Option PhoneEndpoint} {endpoint : PhoneEndpoint} {u : Unit}
    (h : (endpointFieldErrors stored endpoint).run b = .ok (u, b')) : b = b' := by
  unfold endpointFieldErrors at h
  simp only [Transaction.run_bind, Transaction.run_require, Transaction.run_read] at h
  obtain ⟨_, _, ⟨-, rfl⟩, _, _, ⟨rfl, rfl⟩, -, rfl⟩ := h
  rfl

/-- What storing an endpoint did: its number is free, and it and the one before it are mentioned. -/
structure EndpointChange (numbers : List String) (b : Book) (endpoint : PhoneEndpoint) (b' : Book) : Prop where
  free : b.EndpointFree endpoint
  new : endpoint.normalizedNumber ∈ numbers
  stored : ∀ old, b.phoneEndpoints.find? endpoint.id = some old → old.normalizedNumber ∈ numbers
  left : b' = b.withEndpoint endpoint

lemma run_createEndpoint {number : String} {isActive : Bool}
    (h : (createEndpoint number isActive).run b = .ok (numbers, b')) :
    ∃ endpoint, EndpointChange numbers b endpoint b' := by
  unfold createEndpoint at h
  simp only [Transaction.run_bind, Transaction.run_read, Transaction.run_pure] at h
  obtain ⟨_, _, ⟨rfl, rfl⟩, _, _, hform, _, _, hsave, rfl, rfl⟩ := h
  obtain rfl := run_endpointFieldErrors hform
  obtain ⟨hfree, rfl⟩ := run_saveEndpoint hsave
  refine ⟨_, hfree, List.mem_singleton_self _, fun old hold => ?_, rfl⟩
  rw [id, Table.find?_freshKey] at hold
  cases hold

lemma run_updateEndpoint {endpointId : ℕ} {number : Option String} {isActive : Option Bool}
    (h : (updateEndpoint endpointId number isActive).run b = .ok (numbers, b')) :
    ∃ endpoint, EndpointChange numbers b endpoint b' := by
  unfold updateEndpoint at h
  simp only [Transaction.run_bind, Transaction.run_read, Transaction.run_orRefuse,
    Transaction.run_pure] at h
  obtain ⟨_, _, ⟨rfl, rfl⟩, stored, _, ⟨hstored, rfl⟩, _, _, hform, _, _, hsave, rfl, rfl⟩ := h
  obtain rfl := run_endpointFieldErrors hform
  obtain ⟨hfree, rfl⟩ := run_saveEndpoint hsave
  refine ⟨_, hfree, List.mem_cons_of_mem _ List.mem_cons_self, fun old hold => ?_, rfl⟩
  have hsame : old = stored := by
    have hfound : b.phoneEndpoints.find? stored.id = some old := hold
    rw [id, ← Table.key_of_find? hstored] at hstored
    exact Option.some.inj (hfound.symm.trans hstored)
  exact hsame ▸ List.mem_cons_self

lemma run_destroyEndpoint {endpointId : ℕ}
    (h : (destroyEndpoint endpointId).run b = .ok (numbers, b')) :
    ∃ endpoint ∈ b.phoneEndpoints.rows, numbers = [endpoint.normalizedNumber] ∧
      b' = b.withoutEndpoint endpoint.id := by
  unfold destroyEndpoint at h
  simp only [Transaction.run_bind, Transaction.run_read, Transaction.run_orRefuse, Transaction.run_write,
    Transaction.run_pure] at h
  obtain ⟨_, _, ⟨rfl, rfl⟩, endpoint, _, ⟨hendpoint, rfl⟩, _, _, rfl, rfl, rfl⟩ := h
  exact ⟨endpoint, Table.mem_of_find? hendpoint, rfl, rfl⟩

/-! ## Companies -/

lemma run_createCompany {allowJobs : Bool} {phone : Option (Option String)}
    (h : (createCompany allowJobs phone).run b = .ok (numbers, b')) :
    MethodChange True numbers
      (b.withCompany { id := b.freshId, allowJobs, xeroArchived := false, mergedInto := none }) b' := by
  unfold createCompany at h
  simp only [Transaction.run_bind, Transaction.run_read, Transaction.run_write] at h
  obtain ⟨_, _, ⟨rfl, rfl⟩, _, _, rfl, h⟩ := h
  exact run_applyCompanyPhoneChange h

lemma run_discardCompany {company : ℕ} (h : (discardCompany company).run b = .ok (numbers, b')) :
    (∀ job ∈ b.jobs.rows, job.company ≠ some company) ∧ numbers = [] ∧ b' = b.withoutCompany company := by
  unfold discardCompany at h
  simp only [Transaction.run_bind, Transaction.run_require, Transaction.run_read, Transaction.run_write,
    Transaction.run_pure] at h
  obtain ⟨_, _, ⟨rfl, rfl⟩, _, _, ⟨-, rfl⟩, _, _, ⟨hjobs, rfl⟩, _, _, rfl, rfl, rfl⟩ := h
  exact ⟨hjobs, rfl, rfl⟩

lemma run_updateCompany {company : ℕ} {allowJobs : Option Bool} {phone : Option (Option String)}
    (h : (updateCompany company allowJobs phone).run b = .ok (numbers, b')) :
    ∃ row, b.companies.find? company = some row ∧
      MethodChange True numbers (b.withCompany { row with allowJobs := allowJobs.getD row.allowJobs }) b' := by
  unfold updateCompany at h
  simp only [Transaction.run_bind, Transaction.run_read, Transaction.run_orRefuse,
    Transaction.run_write] at h
  obtain ⟨_, _, ⟨rfl, rfl⟩, row, _, ⟨hrow, rfl⟩, _, _, rfl, h⟩ := h
  exact ⟨row, hrow, run_applyCompanyPhoneChange h⟩

lemma run_setCompanyFields {company : ℕ} {archived : Bool} {phones : List Xero.XeroPhone}
    (h : (setCompanyFields company archived phones).run b = .ok (numbers, b')) :
    ∃ row, b.companies.find? company = some row ∧
      MethodChanges True numbers (b.withCompany (row.archivedAs archived)) b' := by
  unfold setCompanyFields at h
  simp only [Transaction.run_bind, Transaction.run_read, Transaction.run_orRefuse,
    Transaction.run_write] at h
  obtain ⟨_, _, ⟨rfl, rfl⟩, row, _, ⟨hrow, rfl⟩, _, _, rfl, h⟩ := h
  refine ⟨row, hrow, ?_⟩
  split at h
  · obtain ⟨-, rfl⟩ := Transaction.run_pure.mp h
    exact .refl
  · have hstart : MethodChanges True ([] ++ numbers) (b.withCompany (row.archivedAs archived))
        (b.withCompany (row.archivedAs archived)) := .refl
    exact run_syncXeroPhoneMethods hstart h

/-! ## Merges -/

lemma run_mergeCompanies {source destination : ℕ}
    (h : (mergeCompanies source destination).run b = .ok (numbers, b')) :
    source ≠ destination ∧ numbers = [] ∧ ∃ old into, b.companies.find? source = some old ∧
      b.companies.find? destination = some into ∧
      b' = ((b.withCompany { into with allowJobs := into.allowJobs || old.allowJobs }).withCompany
        { old with mergedInto := some destination, allowJobs := false }).reassignCompanyFkRecords source
          destination := by
  unfold mergeCompanies at h
  simp only [Transaction.run_bind, Transaction.run_require, Transaction.run_read,
    Transaction.run_orRefuse, Transaction.run_write, Transaction.run_pure] at h
  obtain ⟨_, _, ⟨hne, rfl⟩, _, _, ⟨rfl, rfl⟩, old, _, ⟨hold, rfl⟩, into, _, ⟨hinto, rfl⟩, _, _, ⟨-, rfl⟩,
    _, _, ⟨-, rfl⟩, _, _, rfl, _, _, rfl, _, _, rfl, rfl, rfl⟩ := h
  exact ⟨hne, rfl, old, into, hold, hinto, rfl⟩

/-- A company's row once it was merged in Xero. -/
def Company.pendingInto (row : Company) (mergedInto : ℕ) : Company :=
  { row with mergedInto := some mergedInto, allowJobs := false }

lemma run_resolvePendingMerge {company mergedInto : ℕ}
    (h : (resolvePendingMerge company mergedInto).run b = .ok (numbers, b')) :
    numbers = [] ∧ (b' = b ∨ ∃ row, b.companies.find? company = some row ∧ row.mergedInto = none ∧
      (b.companies.find? mergedInto).isSome = true ∧
        (b' = b.withCompany (row.pendingInto mergedInto) ∨ ∃ destination ≠ company,
          destination = (b.withCompany (row.pendingInto mergedInto)).finalCompany company ∧
          b' = (b.withCompany (row.pendingInto mergedInto)).reassignCompanyFkRecords company
            destination)) := by
  unfold resolvePendingMerge at h
  simp only [Transaction.run_bind, Transaction.run_read, Transaction.run_orRefuse] at h
  obtain ⟨_, _, ⟨rfl, rfl⟩, row, _, ⟨hrow, rfl⟩, h⟩ := h
  split at h
  · obtain ⟨rfl, rfl⟩ := Transaction.run_pure.mp h
    exact ⟨rfl, .inl rfl⟩
  · rename_i hmergeable
    simp only [Transaction.run_bind, Transaction.run_read, Transaction.run_write, Transaction.run_when,
      Transaction.run_pure] at h
    obtain ⟨_, _, rfl, destination, _, ⟨hdestination, rfl⟩, _, _, hmoved, rfl, rfl⟩ := h
    obtain ⟨hopen, hknown⟩ := not_or.mp hmergeable
    refine ⟨rfl, .inr ⟨row, hrow, Option.not_isSome_iff_eq_none.mp hopen,
      Option.isSome_iff_ne_none.mpr hknown, ?_⟩⟩
    obtain ⟨hne, rfl⟩ | ⟨-, rfl⟩ := hmoved
    · exact .inr ⟨destination, hne, hdestination.symm, rfl⟩
    · exact .inl rfl

lemma run_mergePeople {source destination : ℕ}
    (h : (mergePeople source destination).run b = .ok (numbers, b')) :
    source ≠ destination ∧ numbers = [] ∧ ∃ isActive,
      b' = (((b.withPerson destination isActive).mergeLinks source destination).mergeMethods source
        destination).replacePerson source destination := by
  unfold mergePeople at h
  simp only [Transaction.run_bind, Transaction.run_require, Transaction.run_read,
    Transaction.run_orRefuse, Transaction.run_write, Transaction.run_pure] at h
  obtain ⟨_, _, ⟨hne, rfl⟩, _, _, ⟨rfl, rfl⟩, old, _, ⟨-, rfl⟩, into, _, ⟨-, rfl⟩, _, _, rfl, _, _, rfl,
    _, _, rfl, _, _, rfl, rfl, rfl⟩ := h
  exact ⟨hne, rfl, _, rfl⟩

/-! ## Numbers of calls -/

lemma normalizePhone_pythonStrip (text : String) :
    ContactMethod.normalizePhone (pythonStrip text) = ContactMethod.normalizePhone text := by
  -- between the blocks of spaces lie whole blocks of digits
  have hblocks : ∀ first ∈ decimalZeros, (0x20 < first ∧ first + 10 ≤ 0x85) ∨
      (0xA0 < first ∧ first + 10 ≤ 0x1680) ∨ (0x1680 < first ∧ first + 10 ≤ 0x2000) ∨ 0x3000 < first := by
    decide
  have hspace : ∀ c, isPythonSpace c = true → isPythonDigit c = false := by
    intro c hc
    unfold isPythonSpace at hc
    simp only [Bool.or_eq_true, Bool.and_eq_true, decide_eq_true_eq, beq_iff_eq] at hc
    refine List.any_eq_false.mpr fun first hfirst => ?_
    have hblock := hblocks first hfirst
    simp only [Bool.and_eq_true, decide_eq_true_eq]
    omega
  have hdrop : ∀ chars : List Char,
      (chars.dropWhile isPythonSpace).filter isPythonDigit = chars.filter isPythonDigit := by
    intro chars
    induction chars with
    | nil => rfl
    | cons c chars ih =>
        rw [List.dropWhile_cons]
        split
        · rename_i hc
          rw [ih, List.filter_cons_of_neg (by simp [hspace c hc])]
        · rfl
  unfold ContactMethod.normalizePhone pythonStrip
  rw [String.toList_ofList, List.filter_reverse, hdrop, List.filter_reverse, List.reverse_reverse, hdrop]

lemma Book.assignedPhone_spec (b : Book) (owner : Owner) (phoneNumber : String) (isPrimary : Bool) :
    (b.assignedPhone owner phoneNumber isPrimary).normalizedValue =
        ContactMethod.normalizePhone phoneNumber ∧
      ∀ old, b.contactMethods.find? (b.assignedPhone owner phoneNumber isPrimary).id = some old →
        old.methodType = .phone ∧ old.normalizedValue = ContactMethod.normalizePhone phoneNumber := by
  unfold Book.assignedPhone
  dsimp only
  split
  · rename_i same hsame
    obtain ⟨hmem, -, hphone⟩ := mem_phonesOf.mp (List.mem_of_find?_eq_some hsame)
    refine ⟨?_, fun old hold => ?_⟩
    · unfold ContactMethod.normalizedValue
      rw [hphone]
      exact normalizePhone_pythonStrip phoneNumber
    · obtain rfl := Option.some.inj ((Table.find?_of_mem hmem).symm.trans hold)
      exact ⟨hphone, by simpa using List.find?_some hsame⟩
  · refine ⟨normalizePhone_pythonStrip phoneNumber, fun old hold => ?_⟩
    rw [Table.find?_freshKey] at hold
    cases hold

lemma run_assignPhoneNumber {phoneNumber : String} {company : ℕ} {person : Option ℕ} {isPrimary : Bool}
    (h : (assignPhoneNumber phoneNumber company person isPrimary).run b = .ok (numbers, b')) :
    numbers = [] ∧ ∃ b₁, MethodChange True [ContactMethod.normalizePhone phoneNumber] b b₁ ∧
      b' = rematchCallsForNumbers [ContactMethod.normalizePhone phoneNumber] b₁ := by
  unfold assignPhoneNumber at h
  simp only [Transaction.run_bind, Transaction.run_require, Transaction.run_read, Transaction.run_write,
    Transaction.run_pure] at h
  obtain ⟨_, _, ⟨rfl, rfl⟩, _, _, ⟨-, rfl⟩, _, _, ⟨-, rfl⟩, _, _, ⟨-, rfl⟩, _, _, ⟨-, rfl⟩, _, _,
    ⟨-, rfl⟩, _, _, ⟨-, rfl⟩, _, _, hsave, _, _, rfl, rfl, rfl⟩ := h
  obtain ⟨haccepted, rfl⟩ := run_saveMethod hsave
  obtain ⟨hnumber, hstored⟩ := b.assignedPhone_spec
    ((person.map Owner.person).getD (.company company)) phoneNumber isPrimary
  refine ⟨rfl, _, .saved haccepted (mentions_of_mem ?_) fun old hold => ?_, rfl⟩
  · exact List.mem_singleton.mpr hnumber
  · obtain ⟨htype, hsame⟩ := hstored old hold
    exact ⟨mentions_of_mem (List.mem_singleton.mpr hsame), fun _ _ _ => htype⟩

end Docketworks.Crm
