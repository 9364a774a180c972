import Docketworks.Xero.Documents

/-!
# Documents follow merged companies

What the stored documents look like along the runs of `mergeSystem`.

* `Mirror.followsMerges` — every document and order synced from Xero whose contact's company is merged
  is stored on the final company of the merge chain.
* `DocumentStep` — the condition: no merge closes a cycle, the fields of an invoice, a bill or a credit
  note are derived while its contact's company is not merged, and an order that is stored already is on
  the company its contact resolves to.
* `Mirror.Settled` — the invariant: every chain ends, and every document is where its contact's chain
  does, merged or not.

`documents_follow_merges` is the run theorem.  `invoice_stored_on_merged_company` is the run in which an
invoice synced once more after a merge goes back to the company it was moved from: its fields are set
again by `set_invoice_or_bill_fields`, which looks the contact up without following the chain.
-/

namespace Docketworks.Xero

open Library

/-! ## The property -/

/-- What is synced under a contact is stored where that contact's company went, if it was merged. -/
def Mirror.storedOnFinal (m : Mirror) (contact : Option XeroContact) (stored : Option ℕ) : Bool :=
  match contact.bind fun contact => companyOfContact m.companies contact.contactId with
  | none => true
  | some company =>
      company.mergedInto.isNone ||
        (stored = some (getFinalCompany m.companies company.id) &&
          (mergedIntoOf m.companies (getFinalCompany m.companies company.id)).isNone)

/-- Every document and every order from Xero is stored on the final company of its contact's chain. -/
def Mirror.followsMerges (m : Mirror) : Bool :=
  (m.documents.rows.all fun document =>
    m.storedOnFinal document.rawJson.contact (some document.company)) &&
  m.purchaseOrders.rows.all fun po => po.rawJson.all fun xero => m.storedOnFinal xero.contact po.supplier

/-- The company of a contact. -/
def Mirror.ownerOf (m : Mirror) (contactId : String) : Option ℕ :=
  (companyOfContact m.companies contactId).map Company.id

/-- `xero_contact_id` is unique. -/
def Mirror.UniqueContacts (m : Mirror) : Prop :=
  ∀ company ∈ m.companies.rows, ∀ c, company.xeroContactId = some c → m.ownerOf c = some company.id

/-- Before anything was merged or synced. -/
structure Mirror.Unsynced (m : Mirror) : Prop where
  unique : m.UniqueContacts
  companies : ∀ company ∈ m.companies.rows, company.mergedInto = none
  documents : m.documents.rows = []
  purchaseOrders : ∀ po ∈ m.purchaseOrders.rows, po.rawJson = none

/-! ## The condition -/

/-- The pending merge of a company would make its chain come back to it. -/
def Mirror.closesCycle (m : Mirror) (id : ℕ) : Bool :=
  match (m.companies.find? id).bind Company.xeroMergedIntoId with
  | none => false
  | some target =>
      (companyOfContact m.companies target).any fun mergedInto =>
        getFinalCompany m.companies mergedInto.id = id

/-- None of the merges a batch resolves closes a cycle. -/
def Mirror.resolvesSafely (m : Mirror) : List XeroContact → Bool
  | [] => true
  | contact :: contacts =>
      ((companyOfContact m.companies contact.contactId).all fun company => !m.closesCycle company.id) &&
        (m.resolveMergeOf contact).resolvesSafely contacts

/-- None of the merges `sync_companies` resolves closes a cycle. -/
def Mirror.syncsSafely (m : Mirror) (tenantId : String) (contacts : List XeroContact) : Bool :=
  let report := unguarded (Mirror.syncContact tenantId) m contacts
  !report.refused.isEmpty || report.state.resolvesSafely report.written

/-- Nor does one that looking up a document's contact resolves. -/
def Mirror.looksUpSafely (m : Mirror) (tenantId : String) (contact : Option XeroContact) : Bool :=
  contact.all fun contact =>
    (companyOfContact m.companies contact.contactId).isSome || m.syncsSafely tenantId [contact]

/-- A contact's company is not merged. -/
def Mirror.contactUnmerged (m : Mirror) (contact : Option XeroContact) : Bool :=
  (contact.bind fun contact => companyOfContact m.companies contact.contactId).all fun company =>
    company.mergedInto.isNone

def DocumentStep (tenantId : String) (m : Mirror) : MergeAction → Bool
  | .syncCompanies contacts => m.syncsSafely tenantId contacts
  | .syncSingleContact contact =>
      let company := m.webhookCompany tenantId contact
      !((m.saveCompany company).setCompanyFields tenantId company).1.closesCycle company.id
  | .mergeCompanies _ _ => true
  | .transformDocument _ xero =>
      m.looksUpSafely tenantId xero.contact &&
        (m.resolveCompanyFromXeroContact tenantId xero.contact).1.contactUnmerged xero.contact
  | .syncSingleInvoice xero =>
      (xero.contact.any fun contact => (companyOfContact m.companies contact.contactId).isSome) &&
        m.contactUnmerged xero.contact
  | .transformQuote xero => m.looksUpSafely tenantId xero.contact
  | .transformPurchaseOrder xero _ =>
      let (m', supplier) := m.resolveCompanyFromXeroContact tenantId xero.contact
      m.looksUpSafely tenantId xero.contact &&
        xero.number.all fun number => (m'.purchaseOrderFor xero.id number).all fun po => po.supplier = supplier

/-! ## The invariant -/

/-- A contact's chain ends at a company. -/
def Mirror.OnFinal (m : Mirror) (contact : Option XeroContact) (final : ℕ) : Prop :=
  ∃ c owner, contact = some c ∧ m.ownerOf c.contactId = some owner ∧
    Ends (mergedIntoOf m.companies) owner final

/-- **The invariant.** -/
structure Mirror.Settled (m : Mirror) : Prop where
  unique : m.UniqueContacts
  ends : ∀ id, ∃ final, Ends (mergedIntoOf m.companies) id final
  documents : ∀ document ∈ m.documents.rows, m.OnFinal document.rawJson.contact document.company
  orders : ∀ po ∈ m.purchaseOrders.rows, ∀ xero, po.rawJson = some xero →
    ∃ supplier, po.supplier = some supplier ∧ m.OnFinal xero.contact supplier

section Companies

variable {m m' : Mirror} {company old : Company} {id : ℕ} {c : String}

lemma xeroContactId_of_companyOfContact (h : companyOfContact m.companies c = some company) :
    company.xeroContactId = some c := by
  simpa using List.find?_some h

lemma find?_of_companyOfContact (h : companyOfContact m.companies c = some company) :
    m.companies.find? company.id = some company :=
  Table.find?_of_mem (List.mem_of_find?_eq_some h)

lemma mergedIntoOf_of_find? (h : m.companies.find? id = some company) :
    mergedIntoOf m.companies id = company.mergedInto := by
  rw [mergedIntoOf, h]
  rfl

lemma mergedIntoOf_saveCompany (m : Mirror) (company : Company) :
    mergedIntoOf (m.saveCompany company).companies =
      Function.update (mergedIntoOf m.companies) company.id company.mergedInto := by
  funext id
  by_cases hid : id = company.id
  · subst hid
    rw [Function.update_self, mergedIntoOf, Mirror.saveCompany, Table.find?_upsert_self]
    rfl
  · rw [Function.update_of_ne hid, mergedIntoOf, Mirror.saveCompany, Table.find?_upsert_of_ne hid]
    rfl

lemma getFinalCompany_eq {final : ℕ} (h : Ends (mergedIntoOf m.companies) id final) :
    getFinalCompany m.companies id = final := by
  unfold getFinalCompany
  rw [← List.length_map Company.id]
  refine h.follow_eq fun j hj => ?_
  by_contra hnot
  refine hj ?_
  have hnone : m.companies.find? j = none :=
    Table.find?_eq_none_iff.mpr fun x hx hkey => hnot (List.mem_map.mpr ⟨x, hx, hkey⟩)
  rw [mergedIntoOf, hnone]
  rfl

/-- What saving a company must respect: its contact is no other row's, and it keeps the contact it had. -/
structure Mirror.Writes (m : Mirror) (company : Company) : Prop where
  free : ∀ c owner, company.xeroContactId = some c → m.ownerOf c = some owner → owner = company.id
  keeps : ∀ old, m.companies.find? company.id = some old → ∀ c, old.xeroContactId = some c →
    company.xeroContactId = some c

lemma Mirror.Writes.companyOfContact_self (h : m.Writes company) (hc : company.xeroContactId = some c) :
    companyOfContact (m.saveCompany company).companies c = some company := by
  refine Table.find?_rows_upsert_self (by simp [hc]) fun x hx => ?_
  refine h.free c x.id hc ?_
  rw [Mirror.ownerOf, show companyOfContact m.companies c = some x from hx]
  rfl

lemma Mirror.Writes.ownerOf (h : m.Writes company) (howner : m.ownerOf c = some id) :
    (m.saveCompany company).ownerOf c = some id := by
  obtain ⟨x, hx, rfl⟩ := Option.map_eq_some_iff.mp howner
  by_cases hc : company.xeroContactId = some c
  · rw [Mirror.ownerOf, h.companyOfContact_self hc, h.free c x.id hc howner]
    rfl
  · have hne : x.id ≠ company.id := fun heq => hc <|
      h.keeps x (heq ▸ find?_of_companyOfContact hx) c (xeroContactId_of_companyOfContact hx)
    rw [Mirror.ownerOf, companyOfContact, Mirror.saveCompany,
      Table.find?_rows_upsert_of_ne (x := x) hx hne (by simpa using hc)]
    rfl

lemma Mirror.Writes.of_stored (hunique : m.UniqueContacts)
    (hold : m.companies.find? old.id = some old) (hid : company.id = old.id)
    (hc : company.xeroContactId = old.xeroContactId) : m.Writes company where
  free := fun c owner hown howner => by
    rw [hunique old (Table.mem_of_find? hold) c (hc ▸ hown)] at howner
    rw [← Option.some.inj howner, hid]
  keeps := fun x hx c hxc => by
    rw [hid, hold] at hx
    rw [hc, Option.some.inj hx, hxc]

lemma Mirror.Writes.of_free (hfree : companyOfContact m.companies c = none)
    (hc : company.xeroContactId = some c)
    (hold : ∀ old, m.companies.find? company.id = some old → old.xeroContactId = none) :
    m.Writes company where
  free := fun c' owner hown howner => by
    rw [hc] at hown
    rw [← Option.some.inj hown, Mirror.ownerOf, hfree] at howner
    cases howner
  keeps := fun x hx c' hxc => by
    rw [hold x hx] at hxc
    cases hxc

lemma Mirror.Writes.unique (h : m.Writes company) (hunique : m.UniqueContacts) :
    (m.saveCompany company).UniqueContacts := by
  intro x hx c hc
  rcases Table.eq_or_mem_of_mem_upsert hx with rfl | hmem
  · rw [Mirror.ownerOf, h.companyOfContact_self hc]
    rfl
  · exact h.ownerOf (hunique x hmem c hc)

lemma find?_freshKey (m : Mirror) : m.companies.find? m.companies.freshKey = none :=
  Table.find?_eq_none_iff.mpr fun _ hx hkey =>
    m.companies.freshKey_not_mem (List.mem_map.mpr ⟨_, hx, hkey⟩)

end Companies

/-! ### What leaves chains and documents alone -/

/-- No contact changed its company, no company its pointer, and no document anything. -/
structure Mirror.Keeps (m m' : Mirror) : Prop where
  unique : m.UniqueContacts → m'.UniqueContacts
  owners : ∀ c id, m.ownerOf c = some id → m'.ownerOf c = some id
  pointers : mergedIntoOf m'.companies = mergedIntoOf m.companies
  documents : m'.documents = m.documents
  purchaseOrders : m'.purchaseOrders = m.purchaseOrders

section Keeps

variable {m m' m'' : Mirror} {company : Company} {contact : XeroContact} {tenantId : String}

lemma Mirror.Keeps.refl (m : Mirror) : m.Keeps m where
  unique := id
  owners := fun _ _ h => h
  pointers := rfl
  documents := rfl
  purchaseOrders := rfl

lemma Mirror.Keeps.trans (h : m.Keeps m') (h' : m'.Keeps m'') : m.Keeps m'' where
  unique := h'.unique ∘ h.unique
  owners := fun c id howner => h'.owners c id (h.owners c id howner)
  pointers := h'.pointers.trans h.pointers
  documents := h'.documents.trans h.documents
  purchaseOrders := h'.purchaseOrders.trans h.purchaseOrders

lemma Mirror.Keeps.of_companies (hcompanies : m'.companies = m.companies)
    (hdocuments : m'.documents = m.documents) (horders : m'.purchaseOrders = m.purchaseOrders) :
    m.Keeps m' where
  unique := fun h => by simpa only [Mirror.UniqueContacts, Mirror.ownerOf, hcompanies] using h
  owners := fun c id h => by simpa only [Mirror.ownerOf, hcompanies] using h
  pointers := by rw [hcompanies]
  documents := hdocuments
  purchaseOrders := horders

lemma Mirror.Keeps.saveCompany (h : m.Writes company)
    (hpointer : mergedIntoOf m.companies company.id = company.mergedInto) :
    m.Keeps (m.saveCompany company) where
  unique := h.unique
  owners := fun _ _ howner => h.ownerOf howner
  pointers := by rw [mergedIntoOf_saveCompany, ← hpointer, Function.update_eq_self]
  documents := rfl
  purchaseOrders := rfl

lemma Mirror.OnFinal.keep (hkeeps : m.Keeps m') {c : Option XeroContact} {final : ℕ}
    (h : m.OnFinal c final) : m'.OnFinal c final := by
  obtain ⟨c, owner, hc, howner, hends⟩ := h
  exact ⟨c, owner, hc, hkeeps.owners _ _ howner, hkeeps.pointers ▸ hends⟩

lemma Mirror.Settled.keep (h : m.Settled) (hkeeps : m.Keeps m') : m'.Settled where
  unique := hkeeps.unique h.unique
  ends := hkeeps.pointers ▸ h.ends
  documents := fun document hmem => (h.documents document (hkeeps.documents ▸ hmem)).keep hkeeps
  orders := fun po hmem xero hraw => by
    obtain ⟨supplier, hsupplier, hfinal⟩ := h.orders po (hkeeps.purchaseOrders ▸ hmem) xero hraw
    exact ⟨supplier, hsupplier, hfinal.keep hkeeps⟩

lemma keeps_syncPhone {id : ℕ} {phone : XeroPhone} (h : m.syncPhone id phone = .ok m') : m.Keeps m' := by
  unfold Mirror.syncPhone at h
  simp only at h
  split at h
  · exact Except.ok.inj h ▸ .refl m
  split at h
  · exact Except.ok.inj h ▸ .refl m
  · cases hcheck : m.checkPhoneAssignment id (normalizePhone (xeroPhoneValue phone)) with
    | error e => rw [hcheck] at h; cases h
    | ok _ =>
        rw [hcheck] at h
        exact Except.ok.inj h ▸ .of_companies rfl rfl rfl

lemma keeps_foldlM_syncPhone {id : ℕ} (phones : List XeroPhone)
    (h : phones.foldlM (fun m phone => m.syncPhone id phone) m = .ok m') : m.Keeps m' := by
  induction phones generalizing m with
  | nil => exact Except.ok.inj h ▸ .refl m
  | cons phone phones ih =>
      rw [List.foldlM_cons] at h
      cases hphone : m.syncPhone id phone with
      | error e => rw [hphone] at h; cases h
      | ok m₁ =>
          rw [hphone] at h
          exact (keeps_syncPhone hphone).trans (ih h)

lemma keeps_mirrorPickupAddress (m : Mirror) (id : ℕ) (contact : XeroContact) :
    m.Keeps (m.mirrorPickupAddress id contact) := by
  unfold Mirror.mirrorPickupAddress
  split
  · exact .refl m
  · simp only
    split
    · exact .refl m
    · split
      · exact .refl m
      · exact .of_companies rfl rfl rfl

lemma companies_mirrorPickupAddress (m : Mirror) (id : ℕ) (contact : XeroContact) :
    (m.mirrorPickupAddress id contact).companies = m.companies := by
  unfold Mirror.mirrorPickupAddress
  split
  · rfl
  · simp only
    split
    · rfl
    · split <;> rfl

lemma keeps_setCompanyFields (hunique : m.UniqueContacts) (hraw : company.rawJson = some contact)
    (hc : company.xeroContactId = some contact.contactId)
    (hsaved : m.companies.find? company.id = some company) :
    m.Keeps (m.setCompanyFields tenantId company).1 := by
  unfold Mirror.setCompanyFields
  simp only [hraw]
  split
  · exact .refl m
  split
  · exact .refl m
  have haddress := keeps_mirrorPickupAddress m company.id contact
  split
  · exact haddress
  split
  · exact haddress
  · rename_i m' hphones
    refine haddress.trans (.trans (@Mirror.Keeps.saveCompany _
      (company.withFields tenantId (m.mirrorPickupAddress company.id contact).now contact)
      ?_ ?_) ?_)
    · refine @Mirror.Writes.of_stored _ _ company (haddress.unique hunique) ?_ rfl ?_
      · rw [companies_mirrorPickupAddress]
        exact hsaved
      · rw [hc]
        rfl
    · have hpointer := mergedIntoOf_of_find? hsaved
      rw [haddress.pointers]
      exact hpointer
    · unfold Mirror.syncXeroPhoneMethods at hphones
      split at hphones
      · exact Except.ok.inj hphones ▸ .refl _
      · exact keeps_foldlM_syncPhone _ hphones

lemma writes_linkCompany (hunique : m.UniqueContacts)
    (h : m.linkCompany tenantId contact = .ok company) :
    m.Writes company ∧ mergedIntoOf m.companies company.id = company.mergedInto ∧
      company.rawJson = some contact ∧ company.xeroContactId = some contact.contactId := by
  have hnew (hfree : companyOfContact m.companies contact.contactId = none) :
      m.Writes (m.companyFrom tenantId contact) ∧
        mergedIntoOf m.companies (m.companyFrom tenantId contact).id = none := by
    have hnone : m.companies.find? (m.companyFrom tenantId contact).id = none := find?_freshKey m
    refine ⟨.of_free hfree rfl fun old hold => ?_, ?_⟩
    · rw [hnone] at hold
      cases hold
    · rw [mergedIntoOf, hnone]
      rfl
  unfold Mirror.linkCompany at h
  split at h
  · rename_i existing hexisting
    obtain rfl := Except.ok.inj h
    have hfound := find?_of_companyOfContact hexisting
    have hpointer := mergedIntoOf_of_find? hfound
    have hc := xeroContactId_of_companyOfContact hexisting
    exact ⟨.of_stored hunique hfound rfl rfl, hpointer, rfl, hc⟩
  · rename_i hfree
    split at h
    · obtain rfl := Except.ok.inj h
      exact ⟨(hnew hfree).1, (hnew hfree).2, rfl, rfl⟩
    split at h
    · obtain rfl := Except.ok.inj h
      exact ⟨(hnew hfree).1, (hnew hfree).2, rfl, rfl⟩
    · rename_i matching hmatching
      split at h
      · rename_i hunlinked
        obtain rfl := Except.ok.inj h
        have hfound : m.companies.find? matching.id = some matching :=
          Table.find?_of_mem (List.mem_of_find?_eq_some hmatching)
        have hpointer := mergedIntoOf_of_find? hfound
        refine ⟨.of_free hfree rfl fun old hold => ?_, hpointer, rfl, rfl⟩
        rw [show m.companies.find? matching.id = some old from hold] at hfound
        rw [Option.some.inj hfound, hunlinked]
      · split at h
        · obtain rfl := Except.ok.inj h
          exact ⟨(hnew hfree).1, (hnew hfree).2, rfl, rfl⟩
        · cases h

lemma find?_saveCompany_self (m : Mirror) (company : Company) :
    (m.saveCompany company).companies.find? company.id = some company :=
  Table.find?_upsert_self

lemma keeps_syncContact (hunique : m.UniqueContacts) (contact : XeroContact) :
    m.Keeps (m.syncContact tenantId contact).1 := by
  unfold Mirror.syncContact
  split
  · exact .refl m
  · rename_i company hlink
    obtain ⟨hwrites, hpointer, hraw, hc⟩ := writes_linkCompany hunique hlink
    have hsaved := Mirror.Keeps.saveCompany hwrites hpointer
    exact hsaved.trans
      (keeps_setCompanyFields (hsaved.unique hunique) hraw hc (find?_saveCompany_self m company))

lemma keeps_unguarded (hunique : m.UniqueContacts) (contacts : List XeroContact) :
    m.Keeps (unguarded (Mirror.syncContact tenantId) m contacts).state := by
  induction contacts generalizing m with
  | nil => exact .refl m
  | cons contact contacts ih =>
      have hturn := @keeps_syncContact _ tenantId hunique contact
      unfold unguarded
      split
      · rename_i m' hm'
        rw [hm'] at hturn
        exact hturn.trans (ih (hturn.unique hunique))
      · rename_i m' e hm'
        rw [hm'] at hturn
        exact hturn

end Keeps

/-! ### Merges -/

section Merges

variable {m m' : Mirror} {company : Company} {contact : XeroContact} {tenantId : String} {id final : ℕ}

/-- **The merge.**  Where an end is pointed at a company whose chain ends elsewhere, and what is stored on
it moves there, every document is where its contact's chain ends. -/
lemma Mirror.Settled.redirect (h : m.Settled) {target : ℕ} (hid : mergedIntoOf m.companies id = none)
    (hfinal : Ends (mergedIntoOf m.companies) target final) (hne : final ≠ id)
    (hunique : m'.UniqueContacts)
    (howners : ∀ c owner, m.ownerOf c = some owner → m'.ownerOf c = some owner)
    (hpointers : mergedIntoOf m'.companies =
      Function.update (mergedIntoOf m.companies) id (some target))
    (hdocuments : m'.documents.rows = m.documents.rows.map (Document.moved id final))
    (horders : m'.purchaseOrders.rows = m.purchaseOrders.rows.map (PurchaseOrder.moved id final)) :
    m'.Settled := by
  have hmoved {c : Option XeroContact} {stored : ℕ} (hon : m.OnFinal c stored) :
      m'.OnFinal c (if stored = id then final else stored) := by
    obtain ⟨c, owner, hc, howner, hends⟩ := hon
    refine ⟨c, owner, hc, howners _ _ howner, ?_⟩
    rw [hpointers]
    split
    · rename_i heq
      exact Ends.set (heq ▸ hends) hid hfinal hne
    · rename_i hother
      exact hends.set_of_ne hid hother target
  refine ⟨hunique, fun j => ?_, fun document hmem => ?_, fun po hmem xero hraw => ?_⟩
  · obtain ⟨t, ht⟩ := h.ends j
    rw [hpointers]
    by_cases heq : t = id
    · exact ⟨final, Ends.set (heq ▸ ht) hid hfinal hne⟩
    · exact ⟨t, ht.set_of_ne hid heq target⟩
  · rw [hdocuments] at hmem
    obtain ⟨old, hold, rfl⟩ := List.mem_map.mp hmem
    exact hmoved (h.documents old hold)
  · rw [horders] at hmem
    obtain ⟨old, hold, rfl⟩ := List.mem_map.mp hmem
    obtain ⟨supplier, hsupplier, hon⟩ := h.orders old hold xero hraw
    refine ⟨_, ?_, hmoved hon⟩
    simp only [PurchaseOrder.moved, hsupplier, Option.some.injEq]
    split <;> rfl

lemma Mirror.Settled.resolvePendingMerge (h : m.Settled) (hsafe : m.closesCycle id = false) :
    (m.resolvePendingMerge id).Settled := by
  unfold Mirror.resolvePendingMerge
  cases hfound : m.companies.find? id with
  | none => exact h
  | some company =>
      simp only
      split
      swap
      · exact h
      rename_i target hpending hunmerged
      cases htarget : companyOfContact m.companies target with
      | none => exact h
      | some mergedInto =>
          simp only
          obtain rfl : company.id = id := Table.key_of_find? hfound
          obtain ⟨final, hfinal⟩ := h.ends mergedInto.id
          have hne : final ≠ company.id := fun heq => by
            simp [Mirror.closesCycle, hfound, hpending, htarget, getFinalCompany_eq hfinal, heq] at hsafe
          have hid : mergedIntoOf m.companies company.id = none :=
            (mergedIntoOf_of_find? hfound).trans hunmerged
          have hwrites : m.Writes { company with mergedInto := some mergedInto.id, allowJobs := false } :=
            .of_stored h.unique hfound rfl rfl
          have hpointers := mergedIntoOf_saveCompany m
            { company with mergedInto := some mergedInto.id, allowJobs := false }
          have hdestination : getFinalCompany (m.saveCompany
              { company with mergedInto := some mergedInto.id, allowJobs := false }).companies
                company.id = final := by
            refine getFinalCompany_eq ?_
            rw [hpointers]
            exact Ends.set (.stop hid) hid hfinal hne
          rw [hdestination, if_neg hne]
          exact h.redirect hid hfinal hne (hwrites.unique h.unique) (fun _ _ => hwrites.ownerOf)
            hpointers rfl rfl

lemma Mirror.Settled.resolveMerges (h : m.Settled) {contacts : List XeroContact}
    (hsafe : m.resolvesSafely contacts = true) :
    (contacts.foldl Mirror.resolveMergeOf m).Settled := by
  induction contacts generalizing m with
  | nil => exact h
  | cons contact contacts ih =>
      rw [Mirror.resolvesSafely, Bool.and_eq_true] at hsafe
      refine ih ?_ hsafe.2
      unfold Mirror.resolveMergeOf
      cases hcompany : companyOfContact m.companies contact.contactId with
      | none => exact h
      | some company =>
          rw [hcompany] at hsafe
          exact h.resolvePendingMerge (by simpa using hsafe.1)

lemma Mirror.Settled.syncCompanies (h : m.Settled) {contacts : List XeroContact}
    (hsafe : m.syncsSafely tenantId contacts = true) :
    (m.syncCompanies tenantId contacts).state.Settled := by
  have hloop := h.keep (@keeps_unguarded _ tenantId h.unique contacts)
  unfold Mirror.syncCompanies
  simp only
  split
  · rename_i hall
    refine hloop.resolveMerges ?_
    simpa [Mirror.syncsSafely, hall] using hsafe
  · exact hloop

lemma writes_webhookCompany (hunique : m.UniqueContacts) (contact : XeroContact) :
    m.Writes (m.webhookCompany tenantId contact) ∧
      mergedIntoOf m.companies (m.webhookCompany tenantId contact).id =
        (m.webhookCompany tenantId contact).mergedInto ∧
      (m.webhookCompany tenantId contact).rawJson = some contact ∧
      (m.webhookCompany tenantId contact).xeroContactId = some contact.contactId := by
  unfold Mirror.webhookCompany
  split
  · rename_i existing hexisting
    have hfound := find?_of_companyOfContact hexisting
    have hpointer := mergedIntoOf_of_find? hfound
    have hc := xeroContactId_of_companyOfContact hexisting
    exact ⟨.of_stored hunique hfound rfl rfl, hpointer, rfl, hc⟩
  · rename_i hfree
    have hnone : m.companies.find? (m.companyFrom tenantId contact).id = none := find?_freshKey m
    refine ⟨.of_free hfree rfl fun old hold => ?_, ?_, rfl, rfl⟩
    · rw [show m.companies.find? (m.companyFrom tenantId contact).id = some old from hold] at hnone
      cases hnone
    · have hpointer : mergedIntoOf m.companies (m.companyFrom tenantId contact).id = none := by
        rw [mergedIntoOf, hnone]
        rfl
      exact hpointer

lemma Mirror.Settled.syncSingleContact (h : m.Settled)
    (hsafe : DocumentStep tenantId m (.syncSingleContact contact) = true) :
    (m.syncSingleContact tenantId contact).Settled := by
  obtain ⟨hwrites, hpointer, hraw, hc⟩ := @writes_webhookCompany _ tenantId h.unique contact
  have hsaved := Mirror.Keeps.saveCompany hwrites hpointer
  have hfields := hsaved.trans (@keeps_setCompanyFields _ _ _ tenantId (hsaved.unique h.unique) hraw hc
    (find?_saveCompany_self m _))
  unfold Mirror.syncSingleContact
  simp only
  simp only [DocumentStep, Bool.not_eq_true'] at hsafe
  split
  · rename_i m' e hm'
    rw [hm'] at hfields
    exact h.keep hfields
  · rename_i m' hm'
    rw [hm'] at hfields hsafe
    exact (h.keep hfields).resolvePendingMerge hsafe

lemma Mirror.Settled.mergeCompanies (h : m.Settled) (sourceId destinationId : ℕ) :
    (m.mergeCompanies sourceId destinationId).Settled := by
  unfold Mirror.mergeCompanies
  split
  swap
  · exact h
  rename_i source destination hsource hdestination
  split
  · exact h
  rename_i hrefused
  rw [not_or, not_or] at hrefused
  obtain ⟨hne, hlive, hfree⟩ := hrefused
  obtain rfl : source.id = sourceId := Table.key_of_find? hsource
  obtain rfl : destination.id = destinationId := Table.key_of_find? hdestination
  rw [not_not] at hlive
  -- the destination's other fields change first
  set filled : Company :=
    { destination with
      isAccountCustomer := destination.isAccountCustomer || source.isAccountCustomer
      allowJobs := destination.allowJobs || source.allowJobs
      email := (destination.email.filter (· ≠ "")).orElse fun _ => source.email
      address := (destination.address.filter (· ≠ "")).orElse fun _ => source.address } with hfilled
  have hfill : m.Keeps (m.saveCompany filled) := by
    have hpointer := mergedIntoOf_of_find? hdestination
    exact .saveCompany (.of_stored h.unique hdestination rfl rfl) hpointer
  have hsource' : (m.saveCompany filled).companies.find? source.id = some source := by
    have hother : source.id ≠ filled.id := hne
    exact (Table.find?_upsert_of_ne hother).trans hsource
  have h' := h.keep hfill
  have hwrites : (m.saveCompany filled).Writes
      { source with mergedInto := some destination.id, allowJobs := false } :=
    .of_stored h'.unique hsource' rfl rfl
  have hpointers := mergedIntoOf_saveCompany (m.saveCompany filled)
    { source with mergedInto := some destination.id, allowJobs := false }
  have hstop : mergedIntoOf (m.saveCompany filled).companies destination.id = none := by
    rw [hfill.pointers]
    exact (mergedIntoOf_of_find? hdestination).trans hlive
  have hmerged := mergedIntoOf_of_find? hsource'
  by_cases hopen : source.mergedInto = none
  · exact h'.redirect (hmerged.trans hopen) (.stop hstop) (Ne.symm hne) (hwrites.unique h'.unique)
      (fun _ _ => hwrites.ownerOf) hpointers rfl rfl
  · -- merged before: nothing from Xero is left on the source
    have hsame : source.mergedInto = some destination.id := by
      by_contra hother
      exact hfree ⟨hopen, hother⟩
    have hkeeps : (m.saveCompany filled).Keeps ((m.saveCompany filled).saveCompany
        { source with mergedInto := some destination.id, allowJobs := false }) :=
      .saveCompany hwrites (hmerged.trans hsame)
    have hsettled := h'.keep hkeeps
    have hleft {c : Option XeroContact} {stored : ℕ} (hon : Mirror.OnFinal ((m.saveCompany filled).saveCompany
        { source with mergedInto := some destination.id, allowJobs := false }) c stored) :
        stored ≠ source.id := by
      rintro rfl
      obtain ⟨_, _, _, _, hends⟩ := hon
      have hlast := hends.last
      rw [hkeeps.pointers, hmerged, hsame] at hlast
      cases hlast
    refine ⟨hsettled.unique, hsettled.ends, fun document hmem => ?_, fun po hmem xero hraw => ?_⟩
    · obtain ⟨old, hold, rfl⟩ := List.mem_map.mp hmem
      have hon := hsettled.documents old hold
      have hstays : (old.moved source.id destination.id).company = old.company := if_neg (hleft hon)
      rw [hstays]
      exact hon
    · obtain ⟨old, hold, rfl⟩ := List.mem_map.mp hmem
      obtain ⟨supplier, hsupplier, hon⟩ := hsettled.orders old hold xero hraw
      refine ⟨supplier, ?_, hon⟩
      simp only [PurchaseOrder.moved, hsupplier, Option.some.injEq, if_neg (hleft hon)]

end Merges

/-! ### Documents -/

section Documents

variable {m : Mirror} {contact : Option XeroContact} {tenantId : String}

lemma Mirror.Settled.resolveCompany (h : m.Settled) (hsafe : m.looksUpSafely tenantId contact = true) :
    (m.resolveCompanyFromXeroContact tenantId contact).1.Settled ∧
      ∀ company, (m.resolveCompanyFromXeroContact tenantId contact).2 = some company →
        (m.resolveCompanyFromXeroContact tenantId contact).1.OnFinal contact company := by
  have hon {m' : Mirror} (h' : m'.Settled) {c : XeroContact} {company : Company}
      (hcompany : companyOfContact m'.companies c.contactId = some company) :
      m'.OnFinal (some c) (getFinalCompany m'.companies company.id) := by
    obtain ⟨final, hfinal⟩ := h'.ends company.id
    exact ⟨c, company.id, rfl, by rw [Mirror.ownerOf, hcompany]; rfl, getFinalCompany_eq hfinal ▸ hfinal⟩
  unfold Mirror.resolveCompanyFromXeroContact
  cases contact with
  | none => exact ⟨h, fun _ hnone => by cases hnone⟩
  | some c =>
      simp only
      split
      · rename_i company hcompany
        refine ⟨h, fun final hfinal => ?_⟩
        rw [← Option.some.inj hfinal]
        exact hon h hcompany
      · rename_i hnew
        have hsynced : (m.syncCompanies tenantId [c]).state.Settled := by
          refine h.syncCompanies ?_
          simpa [Mirror.looksUpSafely, hnew] using hsafe
        split
        · exact ⟨hsynced, fun _ hnone => by cases hnone⟩
        · refine ⟨hsynced, fun final hfinal => ?_⟩
          obtain ⟨company, hcompany, rfl⟩ := Option.map_eq_some_iff.mp hfinal
          exact hon hsynced hcompany

lemma Mirror.Settled.writeDocument (h : m.Settled) {table : Table Document.key} {document : Document}
    (hon : m.OnFinal document.rawJson.contact document.company)
    (hothers : ∀ other ∈ table.rows, other.key ≠ document.key → other ∈ m.documents.rows) :
    Mirror.Settled { m with documents := table.upsert document } where
  unique := h.unique
  ends := h.ends
  documents := fun other hmem => by
    by_cases hkey : other.key = document.key
    · rw [Table.eq_of_mem_upsert hmem hkey]
      exact hon
    · have hold := (Table.eq_or_mem_of_mem_upsert hmem).resolve_left fun heq => hkey (heq ▸ rfl)
      exact h.documents other (hothers other hold hkey)
  orders := h.orders

lemma Mirror.Settled.upsertDocument (h : m.Settled) {document : Document}
    (hon : m.OnFinal document.rawJson.contact document.company) :
    Mirror.Settled { m with documents := m.documents.upsert document } :=
  h.writeDocument hon fun _ hmem _ => hmem

lemma Mirror.Settled.upsertPurchaseOrder (h : m.Settled) {po : PurchaseOrder}
    (hon : ∀ xero, po.rawJson = some xero →
      ∃ supplier, po.supplier = some supplier ∧ m.OnFinal xero.contact supplier) :
    Mirror.Settled { m with purchaseOrders := m.purchaseOrders.upsert po } where
  unique := h.unique
  ends := h.ends
  documents := h.documents
  orders := fun other hmem xero hraw => by
    rcases Table.eq_or_mem_of_mem_upsert hmem with rfl | hmem
    · exact hon xero hraw
    · exact h.orders other hmem xero hraw

lemma onFinal_of_unmerged {c : XeroContact} {company : Company}
    (hcompany : companyOfContact m.companies c.contactId = some company)
    (hlive : m.contactUnmerged (some c) = true) : m.OnFinal (some c) company.id := by
  have hpointer := mergedIntoOf_of_find? (find?_of_companyOfContact hcompany)
  have hunmerged : company.mergedInto = none := by
    simpa [Mirror.contactUnmerged, hcompany] using hlive
  exact ⟨c, company.id, rfl, by rw [Mirror.ownerOf, hcompany]; rfl, .stop (hpointer.trans hunmerged)⟩

lemma Mirror.Settled.setInvoiceOrBillFields (h : m.Settled) {document : Document}
    (hlive : m.contactUnmerged document.rawJson.contact = true) :
    (m.setInvoiceOrBillFields document).Settled := by
  unfold Mirror.setInvoiceOrBillFields
  simp only
  split
  · exact h
  cases hraw : document.rawJson.contact with
  | none => exact h
  | some c =>
      simp only [Option.bind_some]
      cases hcompany : companyOfContact m.companies c.contactId with
      | none => exact h
      | some company =>
          refine h.upsertDocument ?_
          rw [hraw] at hlive ⊢
          exact onFinal_of_unmerged hcompany hlive

lemma Mirror.Settled.transformDocument (h : m.Settled) {kind : DocumentKind} {xero : XeroDocument}
    (hsafe : DocumentStep tenantId m (.transformDocument kind xero) = true) :
    (m.transformDocument tenantId kind xero).Settled := by
  rw [DocumentStep, Bool.and_eq_true] at hsafe
  obtain ⟨hresolved, hon⟩ := h.resolveCompany hsafe.1
  unfold Mirror.transformDocument
  split
  · exact h
  revert hresolved hon hsafe
  rcases m.resolveCompanyFromXeroContact tenantId xero.contact with ⟨m', _ | company⟩
  · exact fun _ hresolved _ => hresolved
  · intro hsafe hresolved hon
    simp only
    split
    · exact hresolved
    · have hstored := @Mirror.Settled.upsertDocument _ hresolved (m'.extracted tenantId kind xero company)
        (hon company rfl)
      exact hstored.setInvoiceOrBillFields hsafe.2

lemma Mirror.Settled.syncSingleInvoice (h : m.Settled) {xero : XeroDocument}
    (hsafe : DocumentStep tenantId m (.syncSingleInvoice xero) = true) :
    (m.syncSingleInvoice tenantId xero).Settled := by
  rw [DocumentStep, Bool.and_eq_true, Option.any_eq_true] at hsafe
  obtain ⟨⟨c, hc, hstored⟩, hlive⟩ := hsafe
  unfold Mirror.syncSingleInvoice
  split
  · exact h
  rename_i kind hkind
  split
  · exact h
  split
  · exact h
  · rename_i stored hfound
    have hkind' : stored.kind = kind := congrArg Prod.fst (Table.key_of_find? hfound)
    obtain ⟨company, hcompany⟩ := Option.isSome_iff_exists.mp hstored
    rw [hc] at hlive
    have hon := onFinal_of_unmerged hcompany hlive
    -- the row is written twice, and the second time with the contact's company
    unfold Mirror.setInvoiceOrBillFields
    simp only [hkind, hkind', ne_eq, not_true_eq_false, if_false, hc, Option.bind_some, hcompany]
    refine h.writeDocument (by rw [hc]; exact hon) fun other hmem hother => ?_
    have hkey : stored.key = (kind, xero.id) := Table.key_of_find? hfound
    refine (Table.eq_or_mem_of_mem_upsert hmem).resolve_left fun heq => hother ?_
    rw [heq]
    simpa [Document.key] using congrArg Prod.snd hkey

lemma Mirror.Settled.transformQuote (h : m.Settled) {xero : XeroDocument}
    (hsafe : m.looksUpSafely tenantId xero.contact = true) :
    (m.transformQuote tenantId xero).Settled := by
  obtain ⟨hresolved, hon⟩ := h.resolveCompany hsafe
  unfold Mirror.transformQuote
  revert hresolved hon
  rcases m.resolveCompanyFromXeroContact tenantId xero.contact with ⟨m', _ | company⟩
  · exact fun hresolved _ => hresolved
  · intro hresolved hon
    simp only
    split
    · exact hresolved
    · exact hresolved.upsertDocument (hon company rfl)

lemma Mirror.Settled.transformPurchaseOrder (h : m.Settled) {isLocallyRaised : String → Bool}
    {xero : XeroPurchaseOrder} {accepted : Bool}
    (hsafe : DocumentStep tenantId m (.transformPurchaseOrder xero accepted) = true) :
    (m.transformPurchaseOrder isLocallyRaised tenantId xero accepted).Settled := by
  simp only [DocumentStep, Bool.and_eq_true] at hsafe
  obtain ⟨hresolved, hon⟩ := h.resolveCompany hsafe.1
  unfold Mirror.transformPurchaseOrder
  revert hresolved hon hsafe
  rcases m.resolveCompanyFromXeroContact tenantId xero.contact with ⟨m', _ | supplier⟩
  · exact fun _ hresolved _ => hresolved
  · intro hsafe hresolved hon
    simp only
    split
    swap
    · exact hresolved
    rename_i poNumber date status hnumber hdate hstatus
    split
    · exact hresolved
    · refine hresolved.upsertPurchaseOrder fun raw hraw => ?_
      have hrow (po : PurchaseOrder) : (po.synced isLocallyRaised xero poNumber).supplier = po.supplier ∧
          (po.synced isLocallyRaised xero poNumber).rawJson = some xero := by
        unfold PurchaseOrder.synced
        simp only
        split <;> exact ⟨rfl, rfl⟩
      rw [(hrow _).2] at hraw
      obtain rfl := Option.some.inj hraw
      refine ⟨supplier, ?_, hon supplier rfl⟩
      rw [(hrow _).1]
      cases hpo : m'.purchaseOrderFor xero.id poNumber with
      | none => rfl
      | some po => simpa [hnumber, hpo] using hsafe.2

end Documents

/-! ## The runs -/

section Runs

variable {isLocallyRaised : String → Bool} {tenantId : String} {m m' : Mirror}

lemma settled_of_unsynced (h : m.Unsynced) : m.Settled where
  unique := h.unique
  ends := fun id => by
    refine ⟨id, .stop ?_⟩
    cases hfound : m.companies.find? id with
    | none => rw [mergedIntoOf, hfound]; rfl
    | some company =>
        exact (mergedIntoOf_of_find? hfound).trans (h.companies company (Table.mem_of_find? hfound))
  documents := fun document hmem => by
    rw [h.documents] at hmem
    exact absurd hmem List.not_mem_nil
  orders := fun po hmem xero hraw => by
    rw [h.purchaseOrders po hmem] at hraw
    cases hraw

lemma settled_step {action : MergeAction} (h : m.Settled) (hsafe : DocumentStep tenantId m action = true)
    (hstep : mergeSystem isLocallyRaised tenantId m action = some m') : m'.Settled := by
  cases action with
  | syncCompanies contacts => exact Option.some.inj hstep ▸ h.syncCompanies hsafe
  | syncSingleContact contact => exact Option.some.inj hstep ▸ h.syncSingleContact hsafe
  | mergeCompanies source destination =>
      exact Option.some.inj hstep ▸ h.mergeCompanies source destination
  | transformDocument kind xero =>
      simp only [mergeSystem] at hstep
      split at hstep
      · cases hstep
      · exact Option.some.inj hstep ▸ h.transformDocument hsafe
  | syncSingleInvoice xero => exact Option.some.inj hstep ▸ h.syncSingleInvoice hsafe
  | transformQuote xero => exact Option.some.inj hstep ▸ h.transformQuote hsafe
  | transformPurchaseOrder xero accepted =>
      exact Option.some.inj hstep ▸ h.transformPurchaseOrder hsafe

lemma Mirror.OnFinal.storedOnFinal {contact : Option XeroContact} {final : ℕ}
    (h : m.OnFinal contact final) : m.storedOnFinal contact (some final) = true := by
  obtain ⟨c, owner, rfl, howner, hends⟩ := h
  obtain ⟨company, hcompany, rfl⟩ := Option.map_eq_some_iff.mp howner
  simp [Mirror.storedOnFinal, hcompany, getFinalCompany_eq hends, hends.last]

lemma Mirror.Settled.followsMerges (h : m.Settled) : m.followsMerges = true := by
  rw [Mirror.followsMerges, Bool.and_eq_true, List.all_eq_true, List.all_eq_true]
  refine ⟨fun document hmem => (h.documents document hmem).storedOnFinal, fun po hmem => ?_⟩
  rw [Option.all_eq_true]
  intro xero hraw
  obtain ⟨supplier, hsupplier, hon⟩ := h.orders po hmem xero hraw
  rw [hsupplier]
  exact hon.storedOnFinal

/-- **Documents follow merges.**  Along every run of contact syncs, merges and document syncs whose steps
all meet the condition, every document and order from Xero whose contact's company was merged is stored
on the final company of the chain, which is not merged itself. -/
theorem documents_follow_merges {actions : List MergeAction} (hstart : m.Unsynced)
    (hmeet : (mergeSystem isLocallyRaised tenantId).AllMeet
      (fun m action => DocumentStep tenantId m action = true) m actions)
    (hrun : (mergeSystem isLocallyRaised tenantId).run m actions = some m') :
    m'.followsMerges = true :=
  (Machine.run_keeps_of_meet (I := Mirror.Settled) (fun _ _ _ h hsafe hstep => settled_step h hsafe hstep)
    (settled_of_unsynced hstart) hmeet hrun).followsMerges

end Runs

/-! ## Two runs -/

def mergeContact (contactId name : String) (mergedTo : Option String) : XeroContact where
  contactId
  name := some name
  contactStatus := some (if mergedTo.isSome then "ARCHIVED" else "ACTIVE")
  mergedToContactId := mergedTo
  emailAddress := none
  isCustomer := some true
  phones := []
  addresses := []
  updatedDateUtc := some 0

def documentOf (id type : String) (contact : XeroContact) : XeroDocument where
  id
  type := some type
  status := some "AUTHORISED"
  number := some id
  contact := some contact
  date := some 0
  subTotal := some 100
  totalTax := some 15
  total := some 115
  amountDue := some 115
  updatedDateUtc := some 0

def emptyMirror : Mirror := ⟨0, Table.empty, [], [], [], Table.empty, Table.empty⟩

/-- An invoice and a quote are synced, their contact is merged twice over, and the quote and an order are
synced again. -/
def mergeRun : List MergeAction :=
  let alpha := mergeContact "alpha" "Alpha" none
  let beta := mergeContact "beta" "Beta" none
  let gamma := mergeContact "gamma" "Gamma" none
  [.syncCompanies [alpha, beta, gamma],
    .transformDocument .invoice (documentOf "INV-1" "ACCREC" alpha),
    .transformQuote (documentOf "QU-1" "QUOTE" alpha),
    .syncCompanies [mergeContact "alpha" "Alpha" (some "beta")],
    .mergeCompanies 2 4,
    .transformQuote (documentOf "QU-1" "QUOTE" alpha),
    .transformPurchaseOrder ⟨"order-1", some "X-1", some "AUTHORISED", some alpha, some 0, some 0⟩ true]

theorem documents_follow_merges_chain :
    ∃ m', (mergeSystem (fun _ => false) "org").run emptyMirror mergeRun = some m' ∧
      m'.followsMerges = true := by
  have hstart : emptyMirror.Unsynced :=
    ⟨fun _ h => absurd h List.not_mem_nil, fun _ h => absurd h List.not_mem_nil, rfl,
      fun _ h => absurd h List.not_mem_nil⟩
  obtain ⟨m', hm'⟩ := Option.isSome_iff_exists.mp
    (show ((mergeSystem (fun _ => false) "org").run emptyMirror mergeRun).isSome = true by decide +kernel)
  exact ⟨m', hm', documents_follow_merges hstart (by decide +kernel) hm'⟩

/-- An invoice moved by a merge and synced once more is back on the company that was merged away. -/
theorem invoice_stored_on_merged_company :
    ((mergeSystem (fun _ => false) "org").run emptyMirror
      (mergeRun ++ [.transformDocument .invoice
        (documentOf "INV-1" "ACCREC" (mergeContact "alpha" "Alpha" none))])).any (fun m' =>
      m'.followsMerges = false ∧
        (m'.documents.find? (.invoice, "INV-1")).map Document.company =
          (companyOfContact m'.companies "alpha").map Company.id ∧
        ((companyOfContact m'.companies "alpha").bind Company.mergedInto).isSome) = true := by
  decide +kernel

end Docketworks.Xero
