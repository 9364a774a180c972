import Mathlib.Algebra.Order.BigOperators.Group.Finset
import Mathlib.Data.List.Sort
import Mathlib.Logic.Relation

/-!
# Connected components of a list of edges

The keys that the edges of a list tie together, found by a traversal from each key in turn.

* `Linked edges` — tied together by a chain of edges, whichever way round each is.
* `component edges root` — what a traversal from `root` takes up; `mem_component`: the keys linked
  to it.
* `components edges` — the components, from the least key on.  They are apart, every edge lies in
  one, and they are those of the set of edges (`components_congr`).
* `within limit`, `across owner` and `Regrouped` — the small components stand as they are, and the
  edges left over are grouped a second time.
-/

namespace Library

variable {κ : Type} [LinearOrder κ]

/-! ## The traversal -/

/-- The other ends of the edges of a key. -/
def neighbours (edges : List (κ × κ)) (k : κ) : List κ :=
  edges.flatMap fun e => (if e.1 = k then [e.2] else []) ++ (if e.2 = k then [e.1] else [])

/-- Take up the first pending key, unless it was seen, with its own pending after it. -/
def visit (next : κ → List κ) : ℕ → List κ → Finset κ → Finset κ
  | 0, _, seen => seen
  | _, [], seen => seen
  | fuel + 1, k :: pending, seen =>
      if k ∈ seen then visit next fuel pending seen
      else visit next fuel (next k ++ pending) (insert k seen)

/-- The keys the edges are about. -/
def endpoints (edges : List (κ × κ)) : List κ :=
  edges.flatMap fun e => [e.1, e.2]

/-- What the traversal from `root` takes up: each key pends once for each edge at it. -/
def component (edges : List (κ × κ)) (root : κ) : Finset κ :=
  visit (neighbours edges)
    (1 + ∑ k ∈ (endpoints edges).toFinset, (neighbours edges k).length) [root] ∅

/-- One component for each root that none before has. -/
def gather (edges : List (κ × κ)) : List κ → Finset κ → List (Finset κ)
  | [], _ => []
  | root :: roots, visited =>
      if root ∈ visited then gather edges roots visited
      else component edges root :: gather edges roots (visited ∪ component edges root)

/-- The components, by their least keys. -/
def components (edges : List (κ × κ)) : List (Finset κ) :=
  gather edges ((endpoints edges).dedup.insertionSort (· ≤ ·)) ∅

/-! ## What is linked -/

variable {edges edges' : List (κ × κ)} {k m r x y : κ}

/-- An edge, whichever way round. -/
def Adjacent (edges : List (κ × κ)) (k m : κ) : Prop := (k, m) ∈ edges ∨ (m, k) ∈ edges

/-- A chain of edges. -/
def Linked (edges : List (κ × κ)) : κ → κ → Prop := Relation.ReflTransGen (Adjacent edges)

omit [LinearOrder κ] in
lemma Linked.symm (h : Linked edges k m) : Linked edges m k := by
  have : Std.Symm (Adjacent edges) := ⟨fun _ _ => Or.symm⟩
  exact Relation.ReflTransGen.stdSymm.symm _ _ h

lemma mem_neighbours : m ∈ neighbours edges k ↔ Adjacent edges k m := by
  simp only [neighbours, List.mem_flatMap, List.mem_append, Adjacent]
  constructor
  · rintro ⟨⟨a, b⟩, he, h | h⟩
    · split at h
      · obtain rfl := List.mem_singleton.mp h
        subst k
        exact .inl he
      · cases h
    · split at h
      · obtain rfl := List.mem_singleton.mp h
        subst k
        exact .inr he
      · cases h
  · rintro (h | h)
    · exact ⟨_, h, by simp⟩
    · exact ⟨_, h, by simp⟩

omit [LinearOrder κ] in
lemma mem_endpoints : k ∈ endpoints edges ↔ ∃ m, Adjacent edges k m := by
  simp only [endpoints, List.mem_flatMap, List.mem_cons, List.not_mem_nil, or_false, Adjacent]
  constructor
  · rintro ⟨⟨a, b⟩, he, rfl | rfl⟩
    · exact ⟨b, .inl he⟩
    · exact ⟨a, .inr he⟩
  · rintro ⟨m, h | h⟩
    · exact ⟨_, h, .inl rfl⟩
    · exact ⟨_, h, .inr rfl⟩

/-! ## The traversal takes up what is linked -/

lemma visit_sound {next : κ → List κ} {P : κ → Prop} (hnext : ∀ k, P k → ∀ m ∈ next k, P m) {fuel : ℕ}
    {pending : List κ} {seen : Finset κ} (hpending : ∀ k ∈ pending, P k) (hseen : ∀ k ∈ seen, P k) :
    ∀ k ∈ visit next fuel pending seen, P k := by
  induction fuel generalizing pending seen with
  | zero => exact hseen
  | succ fuel ih =>
      rcases pending with _ | ⟨k, pending⟩
      · exact hseen
      rw [List.forall_mem_cons] at hpending
      rw [visit]
      split
      · exact ih hpending.2 hseen
      · refine ih (fun m hm => ?_) fun m hm => ?_
        · rcases List.mem_append.mp hm with hm | hm
          · exact hnext k hpending.1 m hm
          · exact hpending.2 m hm
        · rcases Finset.mem_insert.mp hm with rfl | hm
          · exact hpending.1
          · exact hseen m hm

/-- With fuel for each key to pend once an edge, the traversal takes up all that is pending, and
all that follows on it. -/
lemma visit_complete {next : κ → List κ} {keys : Finset κ} (hkeys : ∀ k ∉ keys, next k = [])
    {fuel : ℕ} {pending : List κ} {seen : Finset κ}
    (hfuel : pending.length + ∑ k ∈ keys \ seen, (next k).length ≤ fuel) :
    seen ⊆ visit next fuel pending seen ∧ (∀ k ∈ pending, k ∈ visit next fuel pending seen) ∧
      ∀ k ∈ visit next fuel pending seen, k ∉ seen →
        ∀ m ∈ next k, m ∈ visit next fuel pending seen := by
  induction fuel generalizing pending seen with
  | zero =>
      obtain rfl : pending = [] := List.length_eq_zero_iff.mp (by omega)
      exact ⟨subset_rfl, by simp, fun k hk hnot => absurd hk hnot⟩
  | succ fuel ih =>
      rcases pending with _ | ⟨k, pending⟩
      · exact ⟨subset_rfl, by simp, fun k hk hnot => absurd hk hnot⟩
      rw [List.length_cons] at hfuel
      rw [visit]
      split
      · rename_i hk
        obtain ⟨hseen, hpending, hclosed⟩ := @ih pending seen (by omega)
        exact ⟨hseen, List.forall_mem_cons.mpr ⟨hseen hk, hpending⟩, hclosed⟩
      · rename_i hk
        have hrest : (next k).length + ∑ j ∈ keys \ insert k seen, (next j).length =
            ∑ j ∈ keys \ seen, (next j).length := by
          rw [Finset.sdiff_insert]
          by_cases hkey : k ∈ keys
          · exact Finset.add_sum_erase _ (fun j => (next j).length) (by simp [hkey, hk])
          · rw [hkeys k hkey, Finset.erase_eq_of_notMem (by simp [hkey])]
            simp
        obtain ⟨hseen, hpending, hclosed⟩ := @ih (next k ++ pending) (insert k seen) (by
          rw [List.length_append]
          omega)
        rw [Finset.insert_subset_iff] at hseen
        refine ⟨hseen.2, List.forall_mem_cons.mpr ⟨hseen.1, fun m hm => ?_⟩, fun j hj hnot => ?_⟩
        · exact hpending m (List.mem_append_right _ hm)
        · by_cases hsame : j = k
          · subst hsame
            exact fun m hm => hpending m (List.mem_append_left _ hm)
          · exact hclosed j hj (by simp [hsame, hnot])

/-- **A component** is what is linked to its root. -/
lemma mem_component : m ∈ component edges r ↔ Linked edges r m := by
  have hkeys : ∀ k ∉ (endpoints edges).toFinset, neighbours edges k = [] := by
    intro k hk
    rw [List.mem_toFinset, mem_endpoints] at hk
    exact List.eq_nil_iff_forall_not_mem.mpr fun m hm => hk ⟨m, mem_neighbours.mp hm⟩
  constructor
  · refine fun hm => visit_sound (P := Linked edges r) (fun k hk m hm => ?_) ?_ (by simp) m hm
    · exact hk.tail (mem_neighbours.mp hm)
    · exact List.forall_mem_singleton.mpr Relation.ReflTransGen.refl
  · obtain ⟨-, hroot, hclosed⟩ := @visit_complete κ _ (neighbours edges) _ hkeys
      (1 + ∑ k ∈ (endpoints edges).toFinset, (neighbours edges k).length) [r] ∅ (by simp)
    intro h
    induction h with
    | refl => exact hroot r (by simp)
    | tail _ hstep ih => exact hclosed _ ih (by simp) _ (mem_neighbours.mpr hstep)

/-! ## The components -/

lemma gather_spec {roots : List κ} {visited : Finset κ}
    (hvisited : ∀ k ∈ visited, ∀ m, Linked edges k m → m ∈ visited) :
    (∀ c ∈ gather edges roots visited, Disjoint c visited ∧ ∃ r ∈ roots, c = component edges r) ∧
      (gather edges roots visited).Pairwise Disjoint ∧
      ∀ r ∈ roots, r ∈ visited ∨ ∃ c ∈ gather edges roots visited, r ∈ c := by
  induction roots generalizing visited with
  | nil => simp [gather]
  | cons root roots ih =>
      rw [gather]
      split
      · rename_i hroot
        obtain ⟨hclass, hapart, hall⟩ := ih hvisited
        refine ⟨fun c hc => ?_, hapart, List.forall_mem_cons.mpr ⟨.inl hroot, hall⟩⟩
        obtain ⟨hnot, r, hr, rfl⟩ := hclass c hc
        exact ⟨hnot, r, List.mem_cons_of_mem _ hr, rfl⟩
      · rename_i hroot
        have hnew : Disjoint (component edges root) visited := by
          rw [Finset.disjoint_left]
          exact fun k hk hin => hroot (hvisited k hin root (mem_component.mp hk).symm)
        obtain ⟨hclass, hapart, hall⟩ := @ih (visited ∪ component edges root) (by
          intro k hk m hlinked
          rcases Finset.mem_union.mp hk with hk | hk
          · exact Finset.mem_union_left _ (hvisited k hk m hlinked)
          · exact Finset.mem_union_right _ (mem_component.mpr ((mem_component.mp hk).trans hlinked)))
        refine ⟨List.forall_mem_cons.mpr ⟨⟨hnew, root, by simp, rfl⟩, fun c hc => ?_⟩,
          List.pairwise_cons.mpr ⟨fun c hc => ?_, hapart⟩,
          List.forall_mem_cons.mpr ⟨.inr ⟨_, List.mem_cons_self, ?_⟩, fun r hr => ?_⟩⟩
        · obtain ⟨hnot, r, hr, rfl⟩ := hclass c hc
          exact ⟨(Finset.disjoint_union_right.mp hnot).1, r, List.mem_cons_of_mem _ hr, rfl⟩
        · exact ((Finset.disjoint_union_right.mp (hclass c hc).1).2).symm
        · exact mem_component.mpr .refl
        · rcases hall r hr with hseen | ⟨c, hc, hmem⟩
          · rcases Finset.mem_union.mp hseen with hseen | hseen
            · exact .inl hseen
            · exact .inr ⟨_, List.mem_cons_self, hseen⟩
          · exact .inr ⟨c, List.mem_cons_of_mem _ hc, hmem⟩

lemma mem_roots : k ∈ (endpoints edges).dedup.insertionSort (· ≤ ·) ↔ k ∈ endpoints edges := by
  rw [List.mem_insertionSort, List.mem_dedup]

lemma pairwise_components : (components edges).Pairwise Disjoint :=
  (gather_spec (by simp)).2.1

lemma exists_of_mem_components {c : Finset κ} (hc : c ∈ components edges) :
    ∃ r ∈ endpoints edges, c = component edges r := by
  obtain ⟨-, r, hr, rfl⟩ := (gather_spec (by simp)).1 c hc
  exact ⟨r, mem_roots.mp hr, rfl⟩

lemma exists_component_of_edge (h : (k, m) ∈ edges) : ∃ c ∈ components edges, k ∈ c ∧ m ∈ c := by
  have hk : k ∈ endpoints edges := mem_endpoints.mpr ⟨m, .inl h⟩
  have hall : ∀ r ∈ (endpoints edges).dedup.insertionSort (· ≤ ·),
      r ∈ (∅ : Finset κ) ∨ ∃ c ∈ components edges, r ∈ c := (gather_spec (by simp)).2.2
  obtain ⟨c, hc, hkc⟩ := (hall k (mem_roots.mpr hk)).resolve_left (by simp)
  obtain ⟨r, -, rfl⟩ := exists_of_mem_components hc
  exact ⟨_, hc, hkc, mem_component.mpr ((mem_component.mp hkc).tail (.inl h))⟩

lemma exists_edge_of_component {c : Finset κ} (hc : c ∈ components edges) :
    ∃ e ∈ edges, e.1 ∈ c ∧ e.2 ∈ c := by
  obtain ⟨r, hr, rfl⟩ := exists_of_mem_components hc
  obtain ⟨m, hm⟩ := mem_endpoints.mp hr
  have hroot : r ∈ component edges r := mem_component.mpr .refl
  have hother : m ∈ component edges r := mem_component.mpr (.single hm)
  rcases hm with hm | hm
  · exact ⟨_, hm, hroot, hother⟩
  · exact ⟨_, hm, hother, hroot⟩

/-- **The components are of the set of edges**, in whatever order these come. -/
lemma components_congr (h : ∀ e, e ∈ edges ↔ e ∈ edges') : components edges = components edges' := by
  have hadjacent : Adjacent edges = Adjacent edges' := by
    funext k m
    simp only [Adjacent, h]
  have hcomponent : component edges = component edges' := by
    funext r
    ext m
    rw [mem_component, mem_component, Linked, Linked, hadjacent]
  have hgather : ∀ (roots : List κ) (visited : Finset κ),
      gather edges roots visited = gather edges' roots visited := by
    intro roots
    induction roots with
    | nil => exact fun _ => rfl
    | cons root roots ih =>
        intro visited
        rw [gather, gather, ih, ih, hcomponent]
  have hroots : (endpoints edges).dedup.insertionSort (· ≤ ·) =
      (endpoints edges').dedup.insertionSort (· ≤ ·) := by
    refine List.Perm.eq_of_pairwise' (List.pairwise_insertionSort _ _) (List.pairwise_insertionSort _ _)
      ((List.perm_insertionSort _ _).trans (.trans ?_ (List.perm_insertionSort _ _).symm))
    refine (List.perm_ext_iff_of_nodup (List.nodup_dedup _) (List.nodup_dedup _)).mpr fun k => ?_
    rw [List.mem_dedup, List.mem_dedup, mem_endpoints, mem_endpoints, hadjacent]
  rw [components, components, hroots, hgather]

/-! ## Grouping what is left a second time -/

/-- The groups of at most `limit` keys. -/
def within (limit : ℕ) (groups : List (Finset κ)) : List (Finset κ) :=
  groups.filter fun g => g.card ≤ limit

/-- The edges between keys of different owners. -/
def across (owner : κ → κ) (edges : List (κ × κ)) : List (κ × κ) :=
  edges.filter fun e => owner e.1 ≠ owner e.2

/-- Both ends of an edge are in one of the groups. -/
def Together (groups : List (Finset κ)) (e : κ × κ) : Prop := ∃ g ∈ groups, e.1 ∈ g ∧ e.2 ∈ g

/-- Keys have one owner just where one of the groups has both. -/
def Owns (groups : List (Finset κ)) (owner : κ → κ) : Prop :=
  ∀ k m, owner k = owner m ↔ k = m ∨ Together groups (k, m)

/-- Two rounds of groups: the first apart and small, the second tied by edges that none of the
first has. -/
structure Regrouped (limit : ℕ) (strong weak : List (κ × κ)) (first second : List (Finset κ)) :
    Prop where
  apart : first.Pairwise Disjoint
  small : ∀ g ∈ first, g.card ≤ limit
  strong : ∀ e ∈ strong, Together first e ∨ Together second e
  /-- Every weak edge lies in a group of the second round, unless the first has it. -/
  weak : ∀ e ∈ weak, Together second e ∨ Together first e
  /-- The second round is the components of edges that no group of the first has. -/
  tied : ∃ edges, second.Perm (components edges) ∧ ∀ e ∈ edges, ¬Together first e

lemma Regrouped.not_subset {limit : ℕ} {strong weak : List (κ × κ)} {first second : List (Finset κ)}
    (h : Regrouped limit strong weak first second) :
    ∀ g ∈ second, ∀ g' ∈ first, ¬g ⊆ g' := by
  obtain ⟨edges, hperm, hnot⟩ := h.tied
  intro g hg g' hg' hsub
  obtain ⟨e, he, hleft, hright⟩ := exists_edge_of_component (hperm.mem_iff.mp hg)
  exact hnot e he ⟨g', hg', hsub hleft, hsub hright⟩

lemma Regrouped.perm {limit : ℕ} {strong weak : List (κ × κ)} {first second first' second' : List (Finset κ)}
    (h : Regrouped limit strong weak first second) (hfirst : first'.Perm first)
    (hsecond : second'.Perm second) : Regrouped limit strong weak first' second' := by
  have htogether : ∀ e, Together first' e ↔ Together first e := by simp [Together, hfirst.mem_iff]
  have htogether' : ∀ e, Together second' e ↔ Together second e := by simp [Together, hsecond.mem_iff]
  obtain ⟨edges, hperm, hnot⟩ := h.tied
  constructor
  case apart => exact (hfirst.pairwise_iff fun hdisjoint => hdisjoint.symm).mpr h.apart
  case small => exact fun g hg => h.small g (hfirst.mem_iff.mp hg)
  case strong => simpa only [htogether, htogether'] using h.strong
  case weak => simpa only [htogether, htogether'] using h.weak
  case tied => exact ⟨edges, hsecond.trans hperm, by simpa only [htogether] using hnot⟩

/-- The key that stands for `k`: the one picked of its group, or itself. -/
def ownerOf (groups : List (Finset κ)) (pick : Finset κ → κ) (k : κ) : κ :=
  match groups.find? (k ∈ ·) with
  | some g => pick g
  | none => k

lemma ownerOf_of_mem {groups : List (Finset κ)} {pick : Finset κ → κ} (hapart : groups.Pairwise Disjoint)
    {g : Finset κ} (hg : g ∈ groups) (hk : k ∈ g) : ownerOf groups pick k = pick g := by
  obtain ⟨g', hfound⟩ : ∃ g', groups.find? (k ∈ ·) = some g' := by
    rw [← Option.isSome_iff_exists, List.find?_isSome]
    exact ⟨g, hg, by simpa using hk⟩
  have hg' := List.mem_of_find?_eq_some hfound
  have hk' : k ∈ g' := by simpa using List.find?_some hfound
  have hsame : g' = g := by
    by_contra hne
    exact Finset.disjoint_left.mp (hapart.forall hg' hg hne) hk' hk
  rw [ownerOf, hfound, hsame]

lemma ownerOf_of_not_mem {groups : List (Finset κ)} {pick : Finset κ → κ} (hk : ∀ g ∈ groups, k ∉ g) :
    ownerOf groups pick k = k := by
  have hnone : groups.find? (k ∈ ·) = none := by simpa using hk
  rw [ownerOf, hnone]

/-- **Owners.**  Groups that are apart own their keys through the one picked of each. -/
lemma owns_ownerOf {groups : List (Finset κ)} {pick : Finset κ → κ} (hapart : groups.Pairwise Disjoint)
    (hpick : ∀ g ∈ groups, pick g ∈ g) : Owns groups (ownerOf groups pick) := by
  have hcases : ∀ k, (∃ g ∈ groups, k ∈ g) ∨ ∀ g ∈ groups, k ∉ g := by
    intro k
    by_cases hk : ∃ g ∈ groups, k ∈ g
    · exact .inl hk
    · exact .inr fun g hg hin => hk ⟨g, hg, hin⟩
  intro k m
  constructor
  · intro hsame
    rcases hcases k with ⟨g, hg, hk⟩ | hk <;> rcases hcases m with ⟨g', hg', hm⟩ | hm
    · rw [ownerOf_of_mem hapart hg hk, ownerOf_of_mem hapart hg' hm] at hsame
      obtain rfl : g = g' := by
        by_contra hne
        exact Finset.disjoint_left.mp (hapart.forall hg hg' hne) (hpick g hg) (hsame ▸ hpick g' hg')
      exact .inr ⟨g, hg, hk, hm⟩
    · rw [ownerOf_of_mem hapart hg hk, ownerOf_of_not_mem hm] at hsame
      exact absurd (hsame ▸ hpick g hg) (hm g hg)
    · rw [ownerOf_of_not_mem hk, ownerOf_of_mem hapart hg' hm] at hsame
      exact absurd (hsame ▸ hpick g' hg') (hk g' hg')
    · rw [ownerOf_of_not_mem hk, ownerOf_of_not_mem hm] at hsame
      exact .inl hsame
  · rintro (rfl | ⟨g, hg, hk, hm⟩)
    · rfl
    · rw [ownerOf_of_mem hapart hg hk, ownerOf_of_mem hapart hg hm]

/-- **Grouping twice.**  The small components of the strong edges stand.  The weak edges, with the
strong ones of the large components, are grouped again where no component that stands has them. -/
theorem regrouped_of_components {limit : ℕ} {strong weak demoted : List (κ × κ)} {owner : κ → κ}
    (hne : ∀ e ∈ strong ++ weak, e.1 ≠ e.2)
    (howner : Owns (within limit (components strong)) owner)
    (hdemoted : ∀ e ∈ strong, ∀ g ∈ components strong, limit < g.card → e.1 ∈ g → e.2 ∈ g → e ∈ demoted) :
    Regrouped limit strong weak (within limit (components strong))
      (components (across owner (weak ++ demoted))) := by
  have hsecond : ∀ e ∈ weak ++ demoted, e.1 ≠ e.2 →
      Together (components (across owner (weak ++ demoted))) e ∨
        Together (within limit (components strong)) e := by
    intro e he hends
    by_cases hsame : owner e.1 = owner e.2
    · exact .inr (((howner e.1 e.2).mp hsame).resolve_left hends)
    · have hacross : (e.1, e.2) ∈ across owner (weak ++ demoted) := by
        rw [across, List.mem_filter]
        exact ⟨he, by simpa using hsame⟩
      exact .inl (exists_component_of_edge hacross)
  constructor
  case apart => exact pairwise_components.filter _
  case small => exact fun g hg => of_decide_eq_true (List.mem_filter.mp hg).2
  case strong =>
    intro e he
    obtain ⟨g, hg, hleft, hright⟩ := exists_component_of_edge (show (e.1, e.2) ∈ strong from he)
    by_cases hsmall : g.card ≤ limit
    · exact .inl ⟨g, List.mem_filter.mpr ⟨hg, by simpa using hsmall⟩, hleft, hright⟩
    · have hin := hdemoted e he g hg (not_le.mp hsmall) hleft hright
      exact (hsecond e (List.mem_append_right _ hin) (hne e (List.mem_append_left _ he))).symm
  case weak =>
    exact fun e he => hsecond e (List.mem_append_left _ he) (hne e (List.mem_append_right _ he))
  case tied =>
    refine ⟨_, .rfl, fun e he htogether => ?_⟩
    have hdiffer := (List.mem_filter.mp he).2
    exact absurd ((howner e.1 e.2).mpr (.inr htogether)) (by simpa using hdiffer)

end Library
