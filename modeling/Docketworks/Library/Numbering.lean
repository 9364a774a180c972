import Mathlib.Data.Finset.Card
import Mathlib.Data.List.MinMax
import Mathlib.Order.Interval.Finset.Nat

/-!
# Numbers given out one after the other

`Numbered ns` — the numbers `ns` are those from one to their count, in any order.  A number at most one past
the count that is not among them is the next, and giving it out keeps the numbering.
-/

namespace Library

/-- The numbers are those from one to their count. -/
def Numbered (ns : List ℕ) : Prop := ∀ n, n ∈ ns ↔ 1 ≤ n ∧ n ≤ ns.length

namespace Numbered

variable {ns : List ℕ} {n : ℕ}

lemma nil : Numbered [] := by
  intro n
  simp only [List.not_mem_nil, List.length_nil, false_iff]
  omega

lemma le_length (h : Numbered ns) (hn : n ∈ ns) : n ≤ ns.length := ((h n).mp hn).2

lemma length_mem (h : Numbered ns) (hne : ns ≠ []) : ns.length ∈ ns :=
  (h ns.length).mpr ⟨List.length_pos_iff.mpr hne, le_rfl⟩

lemma eq_next (h : Numbered ns) (hpos : 1 ≤ n) (hreach : n ≤ ns.length + 1) (hfree : n ∉ ns) :
    n = ns.length + 1 := by
  by_contra hne
  exact hfree ((h n).mpr ⟨hpos, by omega⟩)

lemma append_next (h : Numbered ns) : Numbered (ns ++ [ns.length + 1]) := by
  intro n
  rw [List.mem_append, h n, List.mem_singleton, List.length_append, List.length_singleton]
  omega

lemma nodup (h : Numbered ns) : ns.Nodup := by
  have hset : ns.toFinset = Finset.Icc 1 ns.length := by
    ext n
    rw [List.mem_toFinset, h n, Finset.mem_Icc]
  rw [← Multiset.coe_nodup, ← Multiset.toFinset_card_eq_card_iff_nodup]
  change ns.toFinset.card = ns.length
  rw [hset, Nat.card_Icc]
  omega

lemma max?_eq (h : Numbered ns) (hne : ns ≠ []) : ns.max? = some ns.length :=
  List.max?_eq_some_iff.mpr ⟨h.length_mem hne, fun _ hn => h.le_length hn⟩

end Numbered

end Library
