import Docketworks.Company.IdentityReport

/-!
# What the duplicate-identity groups are good for

The report groups the merge pairs of companies, and of people, and then the review pairs that no
merge settles.  Its groups lose no pair: a merge pair lies in a group, and a review pair in a review
group unless a merge has it.  They are the same in whatever order the records were read.

* `regrouped_companies`, `regrouped_people` — the groups of each kind, as `Library.Regrouped`.
* `companyGroups_congr`, `personGroups_congr` — the reading order is of no account.
* `duplicate_report_sound` — the whole report.
* `two_to_merge_in_a_review` — a review group can have two members of a merge, each of them tied to
  a third record.
-/

namespace Docketworks.DuplicateIdentity

open Library

/-- The members of the groups of a recommendation. -/
def membersOf (recommendation : Recommendation) (groups : List Group) : List (Finset ℕ) :=
  (groups.filter fun group => group.recommendation = recommendation).map Group.members

variable (ctx : Context)

/-! ## Sorted groups -/

lemma membersOf_sortGroups (name : ℕ → String) (row : Recommendation → Finset ℕ → Group)
    (hrow : ∀ recommendation members, (row recommendation members).recommendation = recommendation ∧
      (row recommendation members).members = members) (merges reviews : List (Finset ℕ)) :
    (membersOf .merge (sortGroups ctx name (merges.map (row .merge) ++ reviews.map (row .review)))).Perm
        merges ∧
      (membersOf .review (sortGroups ctx name (merges.map (row .merge) ++ reviews.map (row .review)))).Perm
        reviews := by
  have hpick : ∀ kind kind' (groups : List (Finset ℕ)),
      membersOf kind (groups.map (row kind')) = if kind' = kind then groups else [] := by
    intro kind kind' groups
    by_cases hkind : kind' = kind
    · have hall : ∀ group ∈ groups.map (row kind'), decide (group.recommendation = kind) = true := by
        simp [hrow, hkind]
      have hmembers : Group.members ∘ row kind' = id := funext fun members => (hrow kind' members).2
      rw [membersOf, List.filter_eq_self.mpr hall, List.map_map, hmembers, List.map_id, if_pos hkind]
    · have hnone : ∀ group ∈ groups.map (row kind'), ¬decide (group.recommendation = kind) = true := by
        simp [hrow, hkind]
      rw [membersOf, List.filter_eq_nil_iff.mpr hnone, if_neg hkind, List.map_nil]
  have hsorted : ∀ kind, (membersOf kind
      (sortGroups ctx name (merges.map (row .merge) ++ reviews.map (row .review)))).Perm
      (membersOf kind (merges.map (row .merge)) ++ membersOf kind (reviews.map (row .review))) := by
    intro kind
    rw [membersOf, membersOf, membersOf, ← List.map_append, ← List.filter_append]
    exact ((List.perm_insertionSort _ _).filter _).map _
  constructor
  · simpa [hpick] using hsorted .merge
  · simpa [hpick] using hsorted .review

lemma canonicalOf_mem {R : Type} [LinearOrder R] {rank : ℕ → R} {members : Finset ℕ}
    (h : members.Nonempty) : canonicalOf rank members ∈ members := by
  obtain ⟨k, hk, hleast⟩ := Finset.exists_min_image members rank h
  have hsome : (members.filter fun k => ∀ m ∈ members, rank k ≤ rank m).Nonempty :=
    ⟨k, Finset.mem_filter.mpr ⟨hk, hleast⟩⟩
  obtain ⟨least, hmin⟩ := Finset.min_of_nonempty hsome
  have hmem := Finset.mem_of_min hmin
  rw [canonicalOf, hmin]
  exact (Finset.mem_filter.mp hmem).1

lemma owns_canonicalOf {R : Type} [LinearOrder R] (rank : ℕ → R) (limit : ℕ) (edges : List Pair) :
    Owns (within limit (components edges)) (ownerOf (within limit (components edges)) (canonicalOf rank)) := by
  refine owns_ownerOf (pairwise_components.filter _) fun g hg => canonicalOf_mem ?_
  obtain ⟨e, -, he, -⟩ := exists_edge_of_component (List.mem_of_mem_filter hg)
  exact ⟨e.1, he⟩

lemma PairEvidence.fst_ne_snd {evidence : PairEvidence} {p : Pair × Matches → Bool} {pair : Pair}
    (h : pair ∈ (evidence.items.filter p).map Prod.fst) : pair.1 < pair.2 := by
  obtain ⟨item, hitem, rfl⟩ := List.mem_map.mp h
  exact evidence.ordered item (List.mem_of_mem_filter hitem)

/-! ## Soundness -/

section Sound

variable (companies : ℕ → Company) (people : ℕ → Person) (ownerCount : EvidenceKind → String → ℕ)
  (effective : ℕ → ℕ) (evidence : PairEvidence)

/-- **The groups of companies.** -/
lemma regrouped_companies :
    Regrouped maxAutoGroupSize (companyEdges ctx companies evidence .merge)
      (companyEdges ctx companies evidence .review)
      (membersOf .merge (companyGroups ctx companies evidence))
      (membersOf .review (companyGroups ctx companies evidence)) := by
  have hrows := membersOf_sortGroups ctx (fun id => (companies id).name)
    (companyGroup ctx companies evidence) (fun _ _ => ⟨rfl, rfl⟩)
    (acceptedCompanies ctx companies evidence) (reviewedCompanies ctx companies evidence)
  refine Regrouped.perm (regrouped_of_components (fun pair hpair => ?_) (owns_canonicalOf _ _ _)
    fun pair hpair c hc hlarge hleft _ => ?_) hrows.1 hrows.2
  · rcases List.mem_append.mp hpair with hpair | hpair
    · exact (PairEvidence.fst_ne_snd hpair).ne
    · exact (PairEvidence.fst_ne_snd hpair).ne
  · rw [demotedCompanies, List.mem_filter]
    exact ⟨hpair, by simpa using ⟨c, hc, hlarge, .inl hleft⟩⟩

/-- **The groups of people.** -/
lemma regrouped_people :
    Regrouped maxAutoGroupSize (personEdges ctx people ownerCount effective evidence .merge)
      (personEdges ctx people ownerCount effective evidence .review)
      (membersOf .merge (personGroups ctx people ownerCount effective evidence))
      (membersOf .review (personGroups ctx people ownerCount effective evidence)) := by
  have hrows := membersOf_sortGroups ctx (fun id => (people id).name)
    (personGroup ctx people ownerCount effective evidence) (fun _ _ => ⟨rfl, rfl⟩)
    (acceptedPeople ctx people ownerCount effective evidence)
    (reviewedPeople ctx people ownerCount effective evidence)
  refine Regrouped.perm (regrouped_of_components (fun pair hpair => ?_) (owns_canonicalOf _ _ _)
    fun pair hpair c hc hlarge hleft hright => ?_) hrows.1 hrows.2
  · rcases List.mem_append.mp hpair with hpair | hpair
    · exact (PairEvidence.fst_ne_snd hpair).ne
    · exact (PairEvidence.fst_ne_snd hpair).ne
  · rw [demotedPeople, List.mem_flatMap]
    refine ⟨c, List.mem_filter.mpr ⟨hc, by simpa using hlarge⟩, List.mem_filter.mpr ⟨?_, ?_⟩⟩
    · exact List.mem_product.mpr ⟨by simpa using hleft, by simpa using hright⟩
    · simpa using PairEvidence.fst_ne_snd hpair

end Sound

/-! ## The reading order -/

section Order

variable {companies : ℕ → Company} {people : ℕ → Person} {ownerCount : EvidenceKind → String → ℕ}
  {effective : ℕ → ℕ} {evidence evidence' : PairEvidence}

/-- The same items, put in in another order. -/
def Reordered (evidence evidence' : PairEvidence) : Prop := evidence.items.Perm evidence'.items

lemma Reordered.mem_pairs (h : Reordered evidence evidence') (p : Pair × Matches → Bool) (pair : Pair) :
    pair ∈ (evidence.items.filter p).map Prod.fst ↔ pair ∈ (evidence'.items.filter p).map Prod.fst :=
  ((h.filter p).map Prod.fst).mem_iff

lemma Reordered.itemsInside (h : Reordered evidence evidence') (members : Finset ℕ) :
    itemsInside members evidence = itemsInside members evidence' :=
  List.toFinset_eq_of_perm _ _ (h.filter _)

lemma Reordered.groupOf (h : Reordered evidence evidence') {kind : EntityKind}
    {recommendation : Recommendation} {reasonCodes : List String} {canonical : ℕ} {members : Finset ℕ} :
    groupOf ctx kind evidence recommendation reasonCodes canonical members =
      groupOf ctx kind evidence' recommendation reasonCodes canonical members := by
  simp only [DuplicateIdentity.groupOf, evidenceForMembers, h.itemsInside]

lemma Reordered.reasonCodesOf (h : Reordered evidence evidence') {reasons : Pair × Matches → Finset String}
    {demoted demoted' : List Pair} (hdemoted : ∀ pair, pair ∈ demoted ↔ pair ∈ demoted')
    (members : Finset ℕ) :
    reasonCodesOf reasons demoted members evidence = reasonCodesOf reasons demoted' members evidence' := by
  simp only [DuplicateIdentity.reasonCodesOf, h.itemsInside, hdemoted]

lemma components_across_congr {owner : ℕ → ℕ} {weak weak' demoted demoted' : List Pair}
    (hweak : ∀ pair, pair ∈ weak ↔ pair ∈ weak') (hdemoted : ∀ pair, pair ∈ demoted ↔ pair ∈ demoted') :
    components (across owner (weak ++ demoted)) = components (across owner (weak' ++ demoted')) :=
  components_congr fun pair => by
    simp only [across, List.mem_filter, List.mem_append, hweak, hdemoted]

/-- **The groups of companies** are those of the dict, in whatever order it was filled. -/
lemma companyGroups_congr (h : Reordered evidence evidence') :
    companyGroups ctx companies evidence = companyGroups ctx companies evidence' ∧
      effectiveCompany ctx companies evidence = effectiveCompany ctx companies evidence' := by
  have hedges : ∀ strength pair, pair ∈ companyEdges ctx companies evidence strength ↔
      pair ∈ companyEdges ctx companies evidence' strength := fun strength => h.mem_pairs _
  have hcomponents := components_congr (hedges .merge)
  have haccepted : acceptedCompanies ctx companies evidence = acceptedCompanies ctx companies evidence' := by
    rw [acceptedCompanies, hcomponents, acceptedCompanies]
  have heffective : effectiveCompany ctx companies evidence = effectiveCompany ctx companies evidence' := by
    rw [effectiveCompany, haccepted, effectiveCompany]
  have hdemoted : ∀ pair, pair ∈ demotedCompanies ctx companies evidence ↔
      pair ∈ demotedCompanies ctx companies evidence' := by
    intro pair
    simp only [demotedCompanies, List.mem_filter, hedges .merge, hcomponents]
  have hreviewed : reviewedCompanies ctx companies evidence = reviewedCompanies ctx companies evidence' := by
    rw [reviewedCompanies, heffective, reviewedCompanies]
    exact components_across_congr (hedges .review) hdemoted
  have hrow : companyGroup ctx companies evidence = companyGroup ctx companies evidence' := by
    funext recommendation members
    simp only [companyGroup, h.reasonCodesOf hdemoted, h.groupOf ctx]
  exact ⟨by rw [companyGroups, haccepted, hreviewed, hrow, companyGroups], heffective⟩

/-- **The groups of people**, likewise. -/
lemma personGroups_congr (h : Reordered evidence evidence') :
    personGroups ctx people ownerCount effective evidence =
      personGroups ctx people ownerCount effective evidence' := by
  have hedges : ∀ strength pair, pair ∈ personEdges ctx people ownerCount effective evidence strength ↔
      pair ∈ personEdges ctx people ownerCount effective evidence' strength :=
    fun strength => h.mem_pairs _
  have hcomponents := components_congr (hedges .merge)
  have haccepted : acceptedPeople ctx people ownerCount effective evidence =
      acceptedPeople ctx people ownerCount effective evidence' := by
    rw [acceptedPeople, hcomponents, acceptedPeople]
  have hdemoted : demotedPeople ctx people ownerCount effective evidence =
      demotedPeople ctx people ownerCount effective evidence' := by
    rw [demotedPeople, hcomponents, demotedPeople]
  have hreviewed : reviewedPeople ctx people ownerCount effective evidence =
      reviewedPeople ctx people ownerCount effective evidence' := by
    rw [reviewedPeople, autoOwner, haccepted, hdemoted, reviewedPeople, autoOwner]
    exact components_across_congr (hedges .review) fun _ => .rfl
  have hrow : personGroup ctx people ownerCount effective evidence =
      personGroup ctx people ownerCount effective evidence' := by
    funext recommendation members
    simp only [personGroup, hdemoted, h.reasonCodesOf fun _ => .rfl, h.groupOf ctx]
  rw [personGroups, haccepted, hreviewed, hrow, personGroups]

end Order

/-! ## The report -/

/-- **The report's groups.**  Merge groups are apart and of at most five; a merge pair lies in a
group, and a review pair in a review group unless a merge group has it; and the review groups are
the components of pairs that no merge group has, so none lies within a merge group.  The groups, with
their ids and fingerprints, are the same in whatever order the evidence was read. -/
theorem duplicate_report_sound (companies : ℕ → Company) (people : ℕ → Person)
    (ownerCount : EvidenceKind → String → ℕ) (companyEvidence personEvidence : PairEvidence) :
    let report := duplicateReport ctx companies people ownerCount companyEvidence personEvidence
    let effective := effectiveCompany ctx companies companyEvidence
    (Regrouped maxAutoGroupSize (companyEdges ctx companies companyEvidence .merge)
        (companyEdges ctx companies companyEvidence .review)
        (membersOf .merge report.1) (membersOf .review report.1) ∧
      ∀ g ∈ membersOf .review report.1, ∀ g' ∈ membersOf .merge report.1, ¬g ⊆ g') ∧
    (Regrouped maxAutoGroupSize (personEdges ctx people ownerCount effective personEvidence .merge)
        (personEdges ctx people ownerCount effective personEvidence .review)
        (membersOf .merge report.2) (membersOf .review report.2) ∧
      ∀ g ∈ membersOf .review report.2, ∀ g' ∈ membersOf .merge report.2, ¬g ⊆ g') ∧
    ∀ companyEvidence' personEvidence', Reordered companyEvidence companyEvidence' →
      Reordered personEvidence personEvidence' →
        duplicateReport ctx companies people ownerCount companyEvidence' personEvidence' = report := by
  intro report effective
  have hcompanies := regrouped_companies ctx companies companyEvidence
  have hpeople := regrouped_people ctx people ownerCount effective personEvidence
  refine ⟨⟨hcompanies, hcompanies.not_subset⟩, ⟨hpeople, hpeople.not_subset⟩, fun _ _ hcompany hperson => ?_⟩
  obtain ⟨hgroups, heffective⟩ := companyGroups_congr ctx hcompany
  rw [duplicateReport, ← hgroups, ← heffective, ← personGroups_congr ctx hperson]
  rfl

/-- No names alike, and texts as they are. -/
def plainContext : Context where
  wratio _ _ := 0
  normalizeCompanyName name := name
  normaliseText text := text
  namesCompatible _ _ := false
  nameTokens _ := 0
  genericEmail _ := false
  casefold text := text
  sha256 text := text
  uuid id := toString id

/-- Two companies of one name, and a third: all three have one phone number and one email. -/
def threeCompanies (id : ℕ) : Company where
  id := id
  name := if id = 3 then "B" else "A"
  xeroArchived := false
  allowJobs := true
  djangoCreatedAt := 0
  jobs := 0
  links := 0

def nobody (id : ℕ) : Person where
  id := id
  name := ""
  isActive := true
  createdAt := 0
  activity := 0
  companies := 0
  methods := 0

def sharedDetails : PairEvidence where
  items := [((1, 2), {(.name, "A"), (.phone, "1"), (.email, "e")}), ((1, 3), {(.phone, "1"), (.email, "e")}),
    ((2, 3), {(.phone, "1"), (.email, "e")})]
  nodup := by decide
  ordered := by decide

def noEvidence : PairEvidence where
  items := []
  nodup := by decide
  ordered := by decide

/-- Companies 1 and 2 are to be merged, and yet are in one review group: each of them is tied to 3. -/
theorem two_to_merge_in_a_review :
    ¬∀ g ∈ membersOf .review (companyGroups plainContext threeCompanies sharedDetails),
      ∀ g' ∈ membersOf .merge (companyGroups plainContext threeCompanies sharedDetails),
        ∀ k ∈ g, ∀ m ∈ g, k ∈ g' → m ∈ g' → k = m := by
  decide +kernel

/-- The report of the three companies, read backward. -/
theorem duplicate_report_sound_backward :
    let backward : PairEvidence :=
      ⟨sharedDetails.items.reverse, by decide, by decide⟩
    duplicateReport plainContext threeCompanies nobody (fun _ _ => 0) backward noEvidence =
      duplicateReport plainContext threeCompanies nobody (fun _ _ => 0) sharedDetails noEvidence :=
  (duplicate_report_sound plainContext threeCompanies nobody (fun _ _ => 0) sharedDetails
    noEvidence).2.2 _ _ (List.reverse_perm _).symm (.refl _)

end Docketworks.DuplicateIdentity
