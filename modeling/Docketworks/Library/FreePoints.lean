import Docketworks.Library.Stretches
import Mathlib.Data.Nat.Count
import Mathlib.Order.Interval.Finset.Nat

/-!
# Points on no stretch

How many points of a stretch of the numbers are on none of a list of half-open stretches.

* `freeCount l a b` — how many points of `[a, b)` no stretch of `l` holds.
* `freeCount_append`, `freeCount_congr` — it adds up, and depends on the covered points alone.
* `isLeast_freeCount` — a bound just past a free point is the least with its count.
* `freeCount_add_covered` — for stretches that are apart, what is covered is summed one by one.
* `freeCount_cons` — one more stretch takes its own free points.
* `freeCount_compl` — what one list leaves free another holds.
-/

namespace Library

instance {l : List (ℕ × ℕ)} : DecidablePred (Covers l) := fun _ =>
  inferInstanceAs (Decidable (∃ _ ∈ l, _))

/-- How many points of `[a, b)` are on no stretch. -/
def freeCount (l : List (ℕ × ℕ)) (a b : ℕ) : ℕ :=
  ((Finset.Ico a b).filter fun m => ¬Covers l m).card

section FreeCount

variable {l l' : List (ℕ × ℕ)} {s : ℕ × ℕ} {a b c m : ℕ}

@[simp] lemma freeCount_self : freeCount l a a = 0 := by simp [freeCount]

lemma freeCount_append (hab : a ≤ b) (hbc : b ≤ c) :
    freeCount l a c = freeCount l a b + freeCount l b c := by
  unfold freeCount
  rw [← Finset.Ico_union_Ico_eq_Ico hab hbc, Finset.filter_union]
  apply Finset.card_union_of_disjoint
  exact Finset.disjoint_filter_filter (Finset.Ico_disjoint_Ico_consecutive a b c)

lemma freeCount_congr (h : ∀ m, a ≤ m → m < b → (Covers l m ↔ Covers l' m)) :
    freeCount l a b = freeCount l' a b := by
  unfold freeCount
  congr 1
  apply Finset.filter_congr
  intro m hm
  obtain ⟨hle, hlt⟩ := Finset.mem_Ico.mp hm
  rw [h m hle hlt]

lemma freeCount_of_covers (h : ∀ m, a ≤ m → m < b → Covers l m) : freeCount l a b = 0 := by
  unfold freeCount
  rw [Finset.card_eq_zero, Finset.filter_eq_empty_iff]
  intro m hm
  obtain ⟨hle, hlt⟩ := Finset.mem_Ico.mp hm
  exact not_not.mpr (h m hle hlt)

lemma freeCount_of_free (h : ∀ m, a ≤ m → m < b → ¬Covers l m) : freeCount l a b = b - a := by
  unfold freeCount
  rw [Finset.filter_true_of_mem, Nat.card_Ico]
  intro m hm
  obtain ⟨hle, hlt⟩ := Finset.mem_Ico.mp hm
  exact h m hle hlt

lemma freeCount_mono (h : b ≤ c) : freeCount l a b ≤ freeCount l a c := by
  unfold freeCount
  apply Finset.card_le_card
  apply Finset.filter_subset_filter
  exact Finset.Ico_subset_Ico le_rfl h

lemma freeCount_succ (hm : a ≤ m) (hfree : ¬Covers l m) :
    freeCount l a (m + 1) = freeCount l a m + 1 := by
  have hone : freeCount l m (m + 1) = 1 := by
    rw [freeCount_of_free]
    · omega
    · intro k hle hlt
      obtain rfl : k = m := by omega
      exact hfree
  rw [freeCount_append hm (Nat.le_succ m), hone]

/-- **A bound just past a free point is the least with its count.** -/
lemma isLeast_freeCount (hm : a ≤ m) (hfree : ¬Covers l m) :
    IsLeast {f | a ≤ f ∧ freeCount l a f = freeCount l a (m + 1)} (m + 1) := by
  refine ⟨⟨by omega, rfl⟩, ?_⟩
  rintro f ⟨-, hcount⟩
  by_contra hlt
  have hle : freeCount l a f ≤ freeCount l a m := freeCount_mono (by omega)
  rw [freeCount_succ hm hfree] at hcount
  omega

/-- **What is covered is summed one stretch by one**, where they are apart. -/
lemma freeCount_add_covered (h : Apart l) :
    freeCount l a b + (l.map fun s => min b s.2 - max a s.1).sum = b - a := by
  have hcovered : ((Finset.Ico a b).filter (Covers l)).card =
      (l.map fun s => min b s.2 - max a s.1).sum := by
    induction l with
    | nil => simp
    | cons s rest ih =>
        obtain ⟨hs, hrest⟩ := List.pairwise_cons.mp h
        rw [List.map_cons, List.sum_cons, ← ih hrest]
        have hhere : (Finset.Ico a b).filter (fun m => s.1 ≤ m ∧ m < s.2) =
            Finset.Ico (max a s.1) (min b s.2) := by
          ext m
          simp only [Finset.mem_filter, Finset.mem_Ico, max_le_iff, lt_min_iff]
          tauto
        have hsplit : (Finset.Ico a b).filter (Covers (s :: rest)) =
            (Finset.Ico a b).filter (fun m => s.1 ≤ m ∧ m < s.2) ∪
              (Finset.Ico a b).filter (Covers rest) := by
          rw [← Finset.filter_or]
          exact Finset.filter_congr fun m _ => covers_cons
        rw [hsplit, Finset.card_union_of_disjoint, hhere, Nat.card_Ico]
        apply Finset.disjoint_filter.mpr
        rintro m - ⟨-, hlt⟩ ⟨t, ht, hle, -⟩
        exact absurd (hs t ht) (not_le.mpr (hle.trans_lt hlt))
  have hall := Finset.card_filter_add_card_filter_not (s := Finset.Ico a b) (Covers l)
  rw [Nat.card_Ico, hcovered] at hall
  unfold freeCount
  omega

/-- **One more stretch takes its own free points**, and no others. -/
lemma freeCount_cons (ha : a ≤ s.1) (hs : s.1 ≤ s.2) (hb : s.2 ≤ b) :
    freeCount (s :: l) a b + freeCount l s.1 s.2 = freeCount l a b := by
  have hbefore : freeCount (s :: l) a s.1 = freeCount l a s.1 :=
    freeCount_congr fun m _ hlt => covers_cons.trans (or_iff_right fun h => absurd h.1 hlt.not_ge)
  have hafter : freeCount (s :: l) s.2 b = freeCount l s.2 b :=
    freeCount_congr fun m hle _ => covers_cons.trans (or_iff_right fun h => absurd h.2 hle.not_gt)
  have hnone : freeCount (s :: l) s.1 s.2 = 0 :=
    freeCount_of_covers fun m hle hlt => covers_cons.mpr (.inl ⟨hle, hlt⟩)
  rw [freeCount_append ha (hs.trans hb), freeCount_append hs hb, hbefore, hafter, hnone,
    freeCount_append (l := l) ha (hs.trans hb), freeCount_append (l := l) hs hb]
  omega

lemma freeCount_compl (h : ∀ m, a ≤ m → m < b → (Covers l' m ↔ ¬Covers l m)) :
    freeCount l a b + freeCount l' a b = b - a := by
  have hheld : (Finset.Ico a b).filter (fun m => ¬Covers l' m) =
      (Finset.Ico a b).filter (Covers l) := by
    refine Finset.filter_congr fun m hm => ?_
    obtain ⟨hle, hlt⟩ := Finset.mem_Ico.mp hm
    rw [h m hle hlt, not_not]
  have hall := Finset.card_filter_add_card_filter_not (s := Finset.Ico a b) (Covers l)
  rw [Nat.card_Ico] at hall
  unfold freeCount
  rw [hheld]
  omega

end FreeCount

end Library
