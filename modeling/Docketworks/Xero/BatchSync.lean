import Docketworks.Xero.Companies

/-!
# A batch of records and its refusals

What the sync makes of the records Xero returns for one entity: `sync_entities`, `sync_companies` and
`sync_accounts`, under the `try` of `sync_xero_data`.

* `syncEntities` — the loop of documents and stock items, whatever their transform does: a refusal is
  persisted and the next item takes its turn.
* `Mirror.syncCompanies`, `syncAccounts` — the loops of contacts and accounts: the first refusal leaves
  the loop, is persisted by the engine and ends the run with the cursor where it was.
* `Mirror.RefusesContact`, `RefusesAccount` — the records these two refuse, read off the tables and the
  payload; `syncContact_isSome_iff` and `syncAccount_isSome_iff` say that these are the ones.

`sync_answers_batch_iff` says which batches are answered whole.
-/

namespace Docketworks.Xero

open Library

/-! ## Documents and stock items -/

section Entities

variable {σ ρ ε : Type} (deleted : ρ → Bool) (turn : σ → ρ → σ × Option ε)

/-- `sync_entities` over a transform: a deleted document, whose fields Xero omits, is passed over. -/
def syncEntities (s : σ) : List ρ → BatchReport σ ρ ε
  | [] => ⟨s, [], []⟩
  | item :: items =>
      if deleted item then syncEntities s items
      else
        match turn s item with
        | (s', none) => (syncEntities s' items).andWritten item
        | (s', some error) => (syncEntities s' items).andRefused item error

lemma syncEntities_eq_guarded (s : σ) (items : List ρ) :
    syncEntities deleted turn s items = guarded turn s (items.filter fun item => !deleted item) := by
  induction items generalizing s with
  | nil => rfl
  | cons item items ih =>
      by_cases hdeleted : deleted item
      · rw [syncEntities, if_pos hdeleted, ih, List.filter_cons_of_neg (by simpa using hdeleted)]
      · rw [syncEntities, if_neg hdeleted, List.filter_cons_of_pos (by simpa using hdeleted), guarded]
        rcases turn s item with ⟨s', _ | error⟩ <;> simp only [ih]

end Entities

/-! ## Accounts -/

def accountRow (tenantId : String) (account : XeroAccount) (accountId name : String)
    (updatedDateUtc : ℕ) : AccountRow where
  xeroId := accountId
  xeroTenantId := tenantId
  accountCode := account.code.filter (· ≠ "")
  accountName := name
  description := account.description.filter (· ≠ "")
  accountType := account.type
  taxType := account.taxType.filter (· ≠ "")
  enablePayments := account.enablePaymentsToAccount.getD false
  xeroLastModified := updatedDateUtc
  rawJson := account

/-- One turn of the loop of `sync_accounts`. -/
def syncAccount (tenantId : String) (rows : Table AccountRow.xeroId) (account : XeroAccount) :
    Table AccountRow.xeroId × Option SyncError :=
  match account.accountId, account.name, account.updatedDateUtc with
  | some accountId, some name, some updatedDateUtc =>
      if rows.rows.any fun row => row.accountName = name && row.xeroId ≠ accountId then
        (rows, some (.accountNameTaken name))
      else (rows.upsert (accountRow tenantId account accountId name updatedDateUtc), none)
  | _, _, _ => (rows, some (.accountPayloadMissing account.accountId))

def syncAccounts (tenantId : String) (rows : Table AccountRow.xeroId) (accounts : List XeroAccount) :
    BatchReport (Table AccountRow.xeroId) XeroAccount SyncError :=
  unguarded (syncAccount tenantId) rows accounts

/-- An account is refused: something it must have is missing, or another account has its name. -/
def RefusesAccount (rows : Table AccountRow.xeroId) (account : XeroAccount) : Prop :=
  account.accountId = none ∨ account.name = none ∨ account.updatedDateUtc = none ∨
    ∃ row ∈ rows.rows, account.name = some row.accountName ∧ account.accountId ≠ some row.xeroId

theorem syncAccount_isSome_iff (tenantId : String) (rows : Table AccountRow.xeroId)
    (account : XeroAccount) :
    (syncAccount tenantId rows account).2.isSome ↔ RefusesAccount rows account := by
  unfold syncAccount RefusesAccount
  rcases account.accountId with _ | accountId
  · simp
  rcases account.name with _ | name
  · simp
  rcases account.updatedDateUtc with _ | updatedDateUtc
  · simp
  simp only
  by_cases htaken : rows.rows.any fun row => row.accountName = name && row.xeroId ≠ accountId
  · rw [if_pos htaken]
    simp only [List.any_eq_true, Bool.and_eq_true, decide_eq_true_eq] at htaken
    obtain ⟨row, hrow, hname, hid⟩ := htaken
    exact iff_of_true rfl (.inr (.inr (.inr ⟨row, hrow, by rw [hname], fun h => hid (Option.some.inj h).symm⟩)))
  · rw [if_neg htaken]
    refine iff_of_false Bool.false_ne_true ?_
    rintro (h | h | h | ⟨row, hrow, hname, hid⟩)
    · cases h
    · cases h
    · cases h
    · refine htaken (List.any_eq_true.mpr ⟨row, hrow, ?_⟩)
      rw [Option.some.inj hname]
      simpa using fun h => hid (congrArg some h.symm)

/-! ## Contacts -/

/-- A number a company may not be given: it does not have it yet, and it is an endpoint of ours or
another company's. -/
def Mirror.RefusesNumber (m : Mirror) (company : ℕ) (number : String) : Prop :=
  number ≠ "" ∧ m.hasNumber company number = false ∧
    (number ∈ m.phoneEndpoints ∨ m.conflictingCompany company number = true)

/-- The company a contact is already stored on, or is linked to by its name. -/
def Mirror.standingCompany (m : Mirror) (contact : XeroContact) : Option Company :=
  match companyOfContact m.companies contact.contactId with
  | some existing => some existing
  | none =>
      if contact.contactName = "" then none
      else (companyNamed m.companies contact.contactName).filter fun c => c.xeroContactId.isNone

/-- Another live contact holds the contact's name. -/
def Mirror.NameLinked (m : Mirror) (contact : XeroContact) : Prop :=
  companyOfContact m.companies contact.contactId = none ∧ contact.contactName ≠ "" ∧
    contact.archived = false ∧
    ∃ other, companyNamed m.companies contact.contactName = some other ∧ other.xeroContactId ≠ none

/-- A contact is refused: its name is another contact's; it has no name and none is stored; its status
is not handled; it does not say whether it is a customer; or one of its numbers may not be given to its
company. -/
def Mirror.RefusesContact (m : Mirror) (contact : XeroContact) : Prop :=
  m.NameLinked contact ∨
  (contact.name.getD "" = "" ∧ ∀ company ∈ m.standingCompany contact, company.name = "") ∨
  contact.statusHandled = false ∨
  contact.isCustomer = none ∨
  ((∀ company ∈ m.standingCompany contact, company.mergedInto = none) ∧
    ∃ phone ∈ contact.phones,
      m.RefusesNumber (((m.standingCompany contact).map Company.id).getD m.companies.freshKey)
        (normalizePhone (xeroPhoneValue phone)))

section Numbers

variable {m : Mirror} {company : ℕ} {number number' : String} {phone : XeroPhone}

lemma refusesNumber_congr {m' : Mirror} (hmethods : m'.contactMethods = m.contactMethods)
    (hendpoints : m'.phoneEndpoints = m.phoneEndpoints) :
    m'.RefusesNumber company number ↔ m.RefusesNumber company number := by
  simp only [Mirror.RefusesNumber, Mirror.hasNumber, Mirror.conflictingCompany, hmethods, hendpoints]

lemma any_addContactMethod (method : ContactMethod) {p : ContactMethod → Bool}
    (hflag : ∀ other b, p { other with isPrimary := b } = p other) :
    (m.addContactMethod method).contactMethods.any p = (m.contactMethods.any p || p method) := by
  simp only [Mirror.addContactMethod, List.any_append, List.any_map, List.any_cons, List.any_nil,
    Bool.or_false]
  congr 2
  funext other
  simp only [Function.comp_apply]
  split
  · exact hflag other false
  · rfl

lemma refusesNumber_add (hok : ¬ m.RefusesNumber company number) :
    (m.addContactMethod (phoneMethod company phone number)).RefusesNumber company number' ↔
      m.RefusesNumber company number' := by
  simp only [Mirror.RefusesNumber, Mirror.hasNumber, Mirror.conflictingCompany]
  rw [any_addContactMethod _ fun _ _ => rfl, any_addContactMethod _ fun _ _ => rfl]
  by_cases hsame : number = number'
  · subst hsame
    refine iff_of_false (fun h => ?_) hok
    simpa [phoneMethod] using h.2.1
  · simp [phoneMethod, hsame, Mirror.addContactMethod]

lemma syncPhone_of_refused (h : m.RefusesNumber company (normalizePhone (xeroPhoneValue phone))) :
    ∃ e, m.syncPhone company phone = .error e := by
  obtain ⟨hne, hnot, hheld⟩ := h
  simp only [Mirror.syncPhone, if_neg hne, hnot, Bool.false_eq_true, if_false]
  unfold Mirror.checkPhoneAssignment
  by_cases hours : normalizePhone (xeroPhoneValue phone) ∈ m.phoneEndpoints
  · exact ⟨_, by rw [if_pos hours]; rfl⟩
  · exact ⟨_, by rw [if_neg hours, if_pos (hheld.resolve_left hours)]; rfl⟩

lemma syncPhone_of_not_refused
    (h : ¬ m.RefusesNumber company (normalizePhone (xeroPhoneValue phone))) :
    ∃ m', m.syncPhone company phone = .ok m' ∧
      ∀ number, m'.RefusesNumber company number ↔ m.RefusesNumber company number := by
  unfold Mirror.syncPhone
  by_cases hempty : normalizePhone (xeroPhoneValue phone) = ""
  · exact ⟨m, by simp only [if_pos hempty], fun _ => Iff.rfl⟩
  by_cases hhas : m.hasNumber company (normalizePhone (xeroPhoneValue phone)) = true
  · exact ⟨m, by simp only [if_neg hempty, if_pos hhas], fun _ => Iff.rfl⟩
  have hfree : ¬ (normalizePhone (xeroPhoneValue phone) ∈ m.phoneEndpoints ∨
      m.conflictingCompany company (normalizePhone (xeroPhoneValue phone)) = true) :=
    fun hheld => h ⟨hempty, by simpa using hhas, hheld⟩
  rw [not_or] at hfree
  refine ⟨m.addContactMethod (phoneMethod company phone (normalizePhone (xeroPhoneValue phone))), ?_,
    fun _ => refusesNumber_add h⟩
  simp only [if_neg hempty, if_neg hhas, Mirror.checkPhoneAssignment, if_neg hfree.1, if_neg hfree.2]
  rfl

lemma foldlM_syncPhone_error_iff (phones : List XeroPhone) (m : Mirror) :
    (∃ e, phones.foldlM (fun m phone => m.syncPhone company phone) m = .error e) ↔
      ∃ phone ∈ phones, m.RefusesNumber company (normalizePhone (xeroPhoneValue phone)) := by
  induction phones generalizing m with
  | nil => exact iff_of_false (fun ⟨e, he⟩ => by cases he) (fun ⟨p, hp, _⟩ => List.not_mem_nil hp)
  | cons phone phones ih =>
      rw [List.foldlM_cons, List.exists_mem_cons_iff]
      by_cases hrefused : m.RefusesNumber company (normalizePhone (xeroPhoneValue phone))
      · obtain ⟨e, he⟩ := syncPhone_of_refused hrefused
        exact iff_of_true ⟨e, by rw [he]; rfl⟩ (.inl hrefused)
      · obtain ⟨m', hm', hsame⟩ := syncPhone_of_not_refused hrefused
        rw [hm']
        refine (ih m').trans ?_
        simp only [hsame, hrefused, false_or]

end Numbers

section Contact

variable {m : Mirror} {tenantId : String} {contact : XeroContact} {company : Company}

lemma setCompanyFields_isSome_iff (hraw : company.rawJson = some contact) :
    (m.setCompanyFields tenantId company).2.isSome ↔
      (contact.name.getD "" = "" ∧ company.name = "") ∨ contact.statusHandled = false ∨
        contact.isCustomer = none ∨
        (company.mergedInto = none ∧ ∃ phone ∈ contact.phones,
          m.RefusesNumber company.id (normalizePhone (xeroPhoneValue phone))) := by
  unfold Mirror.setCompanyFields
  simp only [hraw]
  by_cases hname : contact.name.getD "" = "" ∧ company.name = ""
  · rw [if_pos hname]
    exact iff_of_true rfl (.inl hname)
  rw [if_neg hname]
  by_cases hstatus : contact.statusHandled = true
  swap
  · have hunhandled : contact.statusHandled = false := by simpa using hstatus
    rw [if_pos (by simp [hunhandled])]
    exact iff_of_true rfl (.inr (.inl hunhandled))
  rw [if_neg (by simp [hstatus])]
  by_cases hcustomer : contact.isCustomer = none
  · rw [if_pos hcustomer]
    exact iff_of_true rfl (.inr (.inr (.inl hcustomer)))
  rw [if_neg hcustomer]
  have hnumbers : ∀ number,
      (((m.mirrorPickupAddress company.id contact).saveCompany
        (company.withFields tenantId (m.mirrorPickupAddress company.id contact).now contact)).RefusesNumber
          company.id number ↔ m.RefusesNumber company.id number) := fun number => by
    refine refusesNumber_congr ?_ ?_ <;>
    · simp only [Mirror.saveCompany, Mirror.mirrorPickupAddress]
      split <;> (try split) <;> (try split) <;> rfl
  simp only [hname, hstatus, hcustomer, Bool.true_eq_false, false_or]
  unfold Mirror.syncXeroPhoneMethods
  by_cases hmerged : company.mergedInto = none
  · have hnotMerged : (company.withFields tenantId (m.mirrorPickupAddress company.id contact).now
        contact).mergedInto.isSome = false := by simp [Company.withFields, hmerged]
    simp only [hnotMerged, Bool.false_eq_true, if_false, hmerged, true_and]
    refine Iff.trans ?_ ((foldlM_syncPhone_error_iff contact.phones _).trans
      (exists_congr fun phone => and_congr_right fun _ => hnumbers _))
    split
    · rename_i e he
      exact iff_of_true rfl ⟨e, he⟩
    · rename_i m' hm'
      exact iff_of_false Bool.false_ne_true fun ⟨e, he⟩ => by
        rw [show (company.withFields tenantId (m.mirrorPickupAddress company.id contact).now
          contact).id = company.id from rfl] at hm'
        rw [hm'] at he
        cases he
  · have hisMerged : (company.withFields tenantId (m.mirrorPickupAddress company.id contact).now
        contact).mergedInto.isSome = true := by
      simpa [Company.withFields, Option.isSome_iff_ne_none] using hmerged
    simp only [hisMerged, if_true, hmerged, false_and]
    exact iff_of_false Bool.false_ne_true not_false

lemma linkCompany_eq_ok (h : ¬ m.NameLinked contact) :
    ∃ company, m.linkCompany tenantId contact = .ok company ∧ company.rawJson = some contact ∧
      company.id = ((m.standingCompany contact).map Company.id).getD m.companies.freshKey ∧
      (company.name = "" ↔ ∀ standing ∈ m.standingCompany contact, standing.name = "") ∧
      (company.mergedInto = none ↔ ∀ standing ∈ m.standingCompany contact, standing.mergedInto = none) := by
  unfold Mirror.linkCompany Mirror.standingCompany
  cases hown : companyOfContact m.companies contact.contactId with
  | some existing => exact ⟨_, rfl, rfl, rfl, by simp, by simp⟩
  | none =>
      by_cases hname : contact.contactName = ""
      · simp only [if_pos hname]
        exact ⟨_, rfl, rfl, rfl, by simp [Mirror.companyFrom], by simp [Mirror.companyFrom]⟩
      simp only [if_neg hname]
      cases hnamed : companyNamed m.companies contact.contactName with
      | none => exact ⟨_, rfl, rfl, rfl, by simp [Mirror.companyFrom], by simp [Mirror.companyFrom]⟩
      | some matching =>
          cases hlinked : matching.xeroContactId with
          | none =>
              simp only [hlinked]
              refine ⟨_, rfl, rfl, ?_, ?_, ?_⟩ <;> simp [Option.filter, hlinked]
          | some xeroId =>
              have harchived : contact.archived = true := by
                by_contra hlive
                exact h ⟨hown, hname, by simpa using hlive, matching, hnamed, by simp [hlinked]⟩
              simp only [hlinked, if_pos harchived]
              refine ⟨_, rfl, rfl, ?_, ?_, ?_⟩ <;> simp [Option.filter, hlinked, Mirror.companyFrom]

lemma linkCompany_eq_error (h : m.NameLinked contact) :
    ∃ e, m.linkCompany tenantId contact = .error e := by
  obtain ⟨hown, hname, hlive, other, hother, hlinked⟩ := h
  obtain ⟨xeroId, hxeroId⟩ := Option.ne_none_iff_exists'.mp hlinked
  exact ⟨.nameAlreadyLinked contact.contactName xeroId contact.contactId, by
    simp [Mirror.linkCompany, hown, hname, hother, hxeroId, hlive]⟩

theorem syncContact_isSome_iff :
    (m.syncContact tenantId contact).2.isSome ↔ m.RefusesContact contact := by
  unfold Mirror.syncContact Mirror.RefusesContact
  by_cases hlinked : m.NameLinked contact
  · obtain ⟨e, he⟩ := @linkCompany_eq_error _ tenantId _ hlinked
    rw [he]
    exact iff_of_true rfl (.inl hlinked)
  · obtain ⟨company, hcompany, hraw, hid, hname, hmerged⟩ := @linkCompany_eq_ok _ tenantId _ hlinked
    rw [hcompany]
    simp only [hlinked, false_or]
    rw [setCompanyFields_isSome_iff hraw, hid, hname, hmerged]
    simp only [@refusesNumber_congr m _ _ (m.saveCompany company) rfl rfl]

end Contact

/-! ## The batch -/

lemma answers_syncCompanies_iff (tenantId : String) (m : Mirror) (contacts : List XeroContact) :
    (m.syncCompanies tenantId contacts).Answers contacts ↔
      (unguarded (Mirror.syncContact tenantId) m contacts).Answers contacts := by
  unfold Mirror.syncCompanies
  simp only
  split <;> exact Iff.rfl

/-- A live contact with nothing but its name. -/
def plainContact (contactId name : String) : XeroContact where
  contactId
  name := some name
  contactStatus := some "ACTIVE"
  mergedToContactId := none
  emailAddress := none
  isCustomer := some true
  phones := []
  addresses := []
  updatedDateUtc := some 0

/-- An account with nothing but its code and, perhaps, its name. -/
def plainAccount (accountId code : String) (name : Option String) : XeroAccount where
  accountId := some accountId
  code := some code
  name
  description := none
  type := some "REVENUE"
  taxType := none
  enablePaymentsToAccount := some false
  updatedDateUtc := some 0

def mirrorOf (contact : XeroContact) : Mirror :=
  let m : Mirror := ⟨0, Table.empty, [], [], [], Table.empty, Table.empty⟩
  (m.syncContact "org" contact).1

end Docketworks.Xero
