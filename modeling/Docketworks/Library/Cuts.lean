import Mathlib.Order.Interval.Finset.Nat
import Docketworks.Library.Stretches

/-!
# Cutting stretches, and counting their points

* `CutInto s l` — the stretches `l` are the stretch `s` cut in pieces.  Cutting every stretch of a
  list that is apart changes neither what it joins to (`join_flatten_of_cut`) nor its length
  (`totalLength_flatten_of_cut`).
* `points l` — the natural numbers a list of stretches holds.
-/

namespace Library

/-! ## Cutting -/

section Cut

variable {α : Type} [LinearOrder α] {s : α × α} {l l' : List (α × α)} {chunks : List (List (α × α))}

/-- The stretches are the stretch `s` cut in non-empty pieces, in order. -/
structure CutInto (s : α × α) (l : List (α × α)) : Prop where
  apart : Apart l
  nonempty : ∀ t ∈ l, t.1 < t.2
  covers : ∀ m, Covers l m ↔ s.1 ≤ m ∧ m < s.2

lemma cutInto_self (h : s.1 < s.2) : CutInto s [s] where
  apart := List.pairwise_singleton _ _
  nonempty t ht := by
    obtain rfl := List.mem_singleton.mp ht
    exact h
  covers m := by simp

lemma cutInto_pair {a b c : α} (hab : a < b) (hbc : b < c) : CutInto (a, c) [(a, b), (b, c)] where
  apart := List.pairwise_pair.mpr le_rfl
  nonempty t ht := by
    rcases List.mem_pair.mp ht with rfl | rfl
    · exact hab
    · exact hbc
  covers m := by
    simp only [covers_cons, not_covers_nil, or_false]
    constructor
    · rintro (⟨hle, hlt⟩ | ⟨hle, hlt⟩)
      · exact ⟨hle, hlt.trans hbc⟩
      · exact ⟨hab.le.trans hle, hlt⟩
    · rintro ⟨hle, hlt⟩
      rcases lt_or_ge m b with h | h
      · exact .inl ⟨hle, h⟩
      · exact .inr ⟨h, hlt⟩

lemma CutInto.within (h : CutInto s l) {t : α × α} (ht : t ∈ l) : s.1 ≤ t.1 ∧ t.2 ≤ s.2 := by
  have hne : t.1 < t.2 := h.nonempty t ht
  have hstart := (h.covers t.1).mp ⟨t, ht, le_rfl, hne⟩
  refine ⟨hstart.1, ?_⟩
  by_contra hlt
  have hend := (h.covers s.2).mp ⟨t, ht, hstart.2.le, lt_of_not_ge hlt⟩
  exact lt_irrefl _ hend.2

lemma covers_flatten_of_cut (h : List.Forall₂ CutInto l chunks) {m : α} :
    Covers chunks.flatten m ↔ Covers l m := by
  induction h with
  | nil => rfl
  | cons hcut _ ih => rw [List.flatten_cons, covers_append, covers_cons, hcut.covers, ih]

lemma nonempty_flatten_of_cut (h : List.Forall₂ CutInto l chunks) :
    ∀ t ∈ chunks.flatten, t.1 < t.2 := by
  induction h with
  | nil => exact fun _ ht => absurd ht List.not_mem_nil
  | cons hcut _ ih =>
      intro t ht
      rcases List.mem_append.mp ht with ht | ht
      · exact hcut.nonempty t ht
      · exact ih t ht

lemma within_flatten_of_cut (h : List.Forall₂ CutInto l chunks) {t : α × α}
    (ht : t ∈ chunks.flatten) : ∃ s ∈ l, s.1 ≤ t.1 ∧ t.2 ≤ s.2 := by
  induction h with
  | nil => cases ht
  | cons hcut _ ih =>
      rcases List.mem_append.mp ht with ht | ht
      · exact ⟨_, List.mem_cons_self, hcut.within ht⟩
      · obtain ⟨s, hs, hwithin⟩ := ih ht
        exact ⟨s, List.mem_cons_of_mem _ hs, hwithin⟩

lemma apart_flatten_of_cut (h : List.Forall₂ CutInto l chunks) (hapart : Apart l) :
    Apart chunks.flatten := by
  induction h with
  | nil => exact List.Pairwise.nil
  | cons hcut hrest ih =>
      obtain ⟨hfirst, htail⟩ := List.pairwise_cons.mp hapart
      refine List.pairwise_append.mpr ⟨hcut.apart, ih htail, fun t ht u hu => ?_⟩
      obtain ⟨s, hs, hstart, -⟩ := within_flatten_of_cut hrest hu
      exact ((hcut.within ht).2.trans (hfirst s hs)).trans hstart

/-- **Cutting stretches leaves what they join to.** -/
theorem join_flatten_of_cut (h : List.Forall₂ CutInto l chunks) (hne : ∀ s ∈ l, s.1 < s.2) :
    join chunks.flatten = join l :=
  join_eq_of_covers (nonempty_flatten_of_cut h) hne fun _ => covers_flatten_of_cut h

lemma totalLength_flatten_of_cut {l : List (ℕ × ℕ)} {chunks : List (List (ℕ × ℕ))}
    (h : List.Forall₂ CutInto l chunks) (hapart : Apart l) :
    totalLength (join chunks.flatten) = totalLength chunks.flatten :=
  totalLength_join (apart_flatten_of_cut h hapart) (nonempty_flatten_of_cut h)

end Cut

/-! ## Points -/

/-- The natural numbers a list of stretches holds. -/
def points : List (ℕ × ℕ) → Finset ℕ
  | [] => ∅
  | s :: l => Finset.Ico s.1 s.2 ∪ points l

variable {l : List (ℕ × ℕ)} {m : ℕ}

@[simp] lemma mem_points : m ∈ points l ↔ Covers l m := by
  induction l with
  | nil => simp [points]
  | cons s l ih => simp [points, ih]

lemma card_points_cons (s : ℕ × ℕ) (l : List (ℕ × ℕ)) :
    (points (s :: l)).card + (Finset.Ico s.1 s.2 ∩ points l).card =
      (s.2 - s.1) + (points l).card := by
  have h := Finset.card_union_add_card_inter (Finset.Ico s.1 s.2) (points l)
  rw [Nat.card_Ico] at h
  exact h

lemma totalLength_cons (s : ℕ × ℕ) (l : List (ℕ × ℕ)) :
    totalLength (s :: l) = ((s.2 : ℤ) - s.1) + totalLength l := by
  simp [totalLength]

lemma card_points_le (h : Ordered l) : ((points l).card : ℤ) ≤ totalLength l := by
  induction l with
  | nil => simp [points, totalLength]
  | cons s l ih =>
      have hs : s.1 ≤ s.2 := h s List.mem_cons_self
      have hl := ih fun t ht => h t (List.mem_cons_of_mem _ ht)
      have hcard := card_points_cons s l
      rw [totalLength_cons]
      omega

lemma card_points_of_separated (h : Separated l) (hordered : Ordered l) :
    ((points l).card : ℤ) = totalLength l := by
  induction l with
  | nil => simp [points, totalLength]
  | cons s l ih =>
      obtain ⟨hfirst, hrest⟩ := List.pairwise_cons.mp h
      have hs : s.1 ≤ s.2 := hordered s List.mem_cons_self
      have hl := ih hrest fun t ht => hordered t (List.mem_cons_of_mem _ ht)
      have hdisjoint : Finset.Ico s.1 s.2 ∩ points l = ∅ := by
        rw [Finset.eq_empty_iff_forall_notMem]
        intro m hm
        obtain ⟨hin, hcovers⟩ := Finset.mem_inter.mp hm
        obtain ⟨t, ht, hle, -⟩ := mem_points.mp hcovers
        have hafter : s.2 < t.1 := hfirst t ht
        have hbefore : m < s.2 := (Finset.mem_Ico.mp hin).2
        omega
      have hcard := card_points_cons s l
      rw [hdisjoint, Finset.card_empty] at hcard
      rw [totalLength_cons]
      omega

lemma totalLength_join_eq_card (h : Ordered l) : totalLength (join l) = (points l).card := by
  rw [← card_points_of_separated (separated_join h) (ordered_join h)]
  congr 2
  ext m
  rw [mem_points, mem_points, covers_join]

/-- No point is held twice. -/
def Once (l : List (ℕ × ℕ)) : Prop :=
  l.Pairwise fun s t => ∀ m, ¬((s.1 ≤ m ∧ m < s.2) ∧ t.1 ≤ m ∧ m < t.2)

/-- **A list no longer than what it joins to holds no point twice.** -/
theorem once_of_totalLength (h : Ordered l) (htotal : totalLength (join l) = totalLength l) :
    Once l := by
  rw [totalLength_join_eq_card h] at htotal
  induction l with
  | nil => exact List.Pairwise.nil
  | cons s l ih =>
      have hs : s.1 ≤ s.2 := h s List.mem_cons_self
      have hordered : Ordered l := fun t ht => h t (List.mem_cons_of_mem _ ht)
      have hle := card_points_le hordered
      have hcard := card_points_cons s l
      rw [totalLength_cons] at htotal
      -- both the shared points and the excess of the rest are none
      have hshared : (Finset.Ico s.1 s.2 ∩ points l).card = 0 := by omega
      refine List.pairwise_cons.mpr ⟨fun t ht m hm => ?_, ih hordered (by omega)⟩
      have hin : m ∈ Finset.Ico s.1 s.2 ∩ points l :=
        Finset.mem_inter.mpr ⟨Finset.mem_Ico.mpr hm.1, mem_points.mpr ⟨t, ht, hm.2⟩⟩
      rw [Finset.card_eq_zero.mp hshared] at hin
      exact absurd hin (Finset.notMem_empty m)

end Library
