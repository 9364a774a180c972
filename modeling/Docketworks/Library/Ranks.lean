import Mathlib.Data.List.Sort

/-!
# Lists in the order of their ranks

Items are kept in the order of a rank stored with each, highest first.  An item moves by taking a
new rank; the others keep theirs.

* `Descending rank l` — the ranks of `l` fall strictly from one item to the next.
* `Descending.eq_of_mem_iff` — such a list is determined by its members.
* `Descending.insert` — a rank strictly between those before a place and those after it puts an item
  at the place and moves nothing else.
-/

namespace Library

variable {α K : Type} [LinearOrder K] {rank : α → K} {l r : List α} {a m : α}

/-- The ranks fall strictly from one item to the next. -/
def Descending (rank : α → K) (l : List α) : Prop := l.Pairwise fun a b => rank b < rank a

namespace Descending

lemma eq_of_mem_iff {l₁ l₂ : List α} (h₁ : Descending rank l₁) (h₂ : Descending rank l₂)
    (h : ∀ a, a ∈ l₁ ↔ a ∈ l₂) : l₁ = l₂ := by
  have : Std.Antisymm fun a b : α => rank b < rank a :=
    ⟨fun _ _ hab hba => absurd hab (not_lt_of_gt hba)⟩
  have : Std.Irrefl fun a b : α => rank b < rank a := ⟨fun a => lt_irrefl (rank a)⟩
  exact List.Pairwise.eq_of_mem_iff h₁ h₂ h

lemma sublist (h : Descending rank r) (hsub : l.Sublist r) : Descending rank l :=
  List.Pairwise.sublist hsub h

lemma filter (h : Descending rank l) (p : α → Bool) : Descending rank (l.filter p) :=
  h.sublist List.filter_sublist

lemma nodup_ranks (h : Descending rank l) : (l.map rank).Nodup := by
  rw [List.nodup_iff_pairwise_ne, List.pairwise_map]
  exact List.Pairwise.imp (fun hlt => hlt.ne') h

lemma insert (h : Descending rank (l ++ r)) (hl : ∀ x ∈ l, rank m < rank x)
    (hr : ∀ x ∈ r, rank x < rank m) : Descending rank (l ++ m :: r) := by
  unfold Descending at h ⊢
  rw [List.pairwise_append] at h ⊢
  refine ⟨h.1, List.pairwise_cons.mpr ⟨hr, h.2.1⟩, fun x hx y hy => ?_⟩
  rcases List.mem_cons.mp hy with rfl | hy
  · exact hl x hx
  · exact h.2.2 x hx y hy

lemma lt_of_mem_left (h : Descending rank (l ++ a :: r)) {x : α} (hx : x ∈ l) : rank a < rank x :=
  (List.pairwise_append.mp h).2.2 x hx a List.mem_cons_self

lemma lt_of_mem_right (h : Descending rank (l ++ a :: r)) {x : α} (hx : x ∈ r) : rank x < rank a :=
  (List.pairwise_cons.mp (List.pairwise_append.mp h).2.1).1 x hx

end Descending

end Library
