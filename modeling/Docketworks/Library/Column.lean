import Mathlib.Algebra.Order.BigOperators.Group.List
import Docketworks.Library.Decimal

/-!
# The values of a decimal column

`Column d p` is what a column of `d` digits, `p` of them after the point, can hold.  The digits are a
field of the value, so nothing outside the column can be stored and no later proof checks it again.

* `Column.store?` — the value a write leaves, if the column has room for it.
* `Decimals p` — sums of such values, of any number of digits.
* `monotone_roundHalfAway` — a larger amount is not rounded to less.
* `roundHalfAway_sub_le` — what is left of a limit rounds to no more than itself, if the limit does.
-/

namespace Library

/-- What a column of `d` digits with `p` after the point holds. -/
structure Column (d p : ℕ) where
  val : ℚ
  fits : Fits d p val
deriving DecidableEq

namespace Column

variable {d p : ℕ}

/-- Store a value: rounded to the column's scale, and refused where its digits do not fit. -/
def store? (q : ℚ) : Option (Column d p) :=
  if h : |roundHalfAway p q| < 10 ^ (d - p) then
    some ⟨roundHalfAway p q, isDecimal_roundHalfAway, h⟩
  else none

/-- The column's zero. -/
def zero : Column d p := ⟨0, isDecimal_zero, by simp⟩

variable {c : Column d p} {q : ℚ}

lemma isDecimal (c : Column d p) : IsDecimal p c.val := c.fits.1

lemma val_of_store? (h : store? q = some c) : c.val = roundHalfAway p q := by
  unfold store? at h
  split at h
  · rw [← Option.some.inj h]
  · cases h

lemma store?_val (c : Column d p) : store? c.val = some c := by
  have hsame : roundHalfAway p c.val = c.val := roundHalfAway_of_isDecimal c.isDecimal
  obtain ⟨val, fits⟩ := c
  simp only at hsame
  unfold store?
  simp only [hsame]
  exact dif_pos fits.2

lemma val_lt (c : Column d p) : c.val < 10 ^ (d - p) := lt_of_abs_lt c.fits.2

end Column

/-! ## Sums of columns -/

/-- The multiples of `10⁻ᵖ`: what adding up columns of one scale gives. -/
@[ext] structure Decimals (p : ℕ) where
  val : ℚ
  isDecimal : IsDecimal p val
deriving DecidableEq

namespace Decimals

variable {p : ℕ}

instance : Zero (Decimals p) := ⟨⟨0, isDecimal_zero⟩⟩

instance : Add (Decimals p) := ⟨fun a b => ⟨a.val + b.val, a.isDecimal.add b.isDecimal⟩⟩

/-- What a column holds, to be added up. -/
def ofColumn {d : ℕ} (c : Column d p) : Decimals p := ⟨c.val, c.isDecimal⟩

/-- Quantize a value, halves to even. -/
def quantize (p : ℕ) (q : ℚ) : Decimals p := ⟨roundHalfEven p q, isDecimal_roundHalfEven⟩

end Decimals

variable {p q : ℕ} {a b limit used : ℚ}

/-! ## Whole numbers of units -/

lemma IsDecimal.list_sum : ∀ {as : List ℚ}, (∀ a ∈ as, IsDecimal p a) → IsDecimal p as.sum
  | [], _ => isDecimal_zero
  | a :: as, h => by
      rw [List.sum_cons]
      exact (h a List.mem_cons_self).add
        (IsDecimal.list_sum fun b hb => h b (List.mem_cons_of_mem _ hb))

lemma IsDecimal.mul (ha : IsDecimal p a) (hb : IsDecimal q b) : IsDecimal (p + q) (a * b) := by
  obtain ⟨m, hm⟩ := isDecimal_iff.mp ha
  obtain ⟨n, hn⟩ := isDecimal_iff.mp hb
  refine isDecimal_iff.mpr ⟨m * n, ?_⟩
  push_cast
  rw [← hm, ← hn, pow_add]
  ring

lemma IsDecimal.mono (h : p ≤ q) (ha : IsDecimal p a) : IsDecimal q a := by
  obtain ⟨n, hn⟩ := isDecimal_iff.mp ha
  obtain ⟨k, rfl⟩ := Nat.exists_eq_add_of_le h
  refine isDecimal_iff.mpr ⟨n * 10 ^ k, ?_⟩
  push_cast
  rw [← hn, pow_add]
  ring

/-! ## Rounding under a limit -/

lemma monotone_roundHalfAway (p : ℕ) : Monotone (roundHalfAway p) := by
  intro a b hab
  have hunits : a * 10 ^ p ≤ b * 10 ^ p := by gcongr
  unfold roundHalfAway
  by_cases ha : 0 ≤ a
  · rw [if_pos ha, if_pos (ha.trans hab)]
    gcongr
  · rw [if_neg ha]
    have hdown : ⌈a * 10 ^ p - 1 / 2⌉ ≤ 0 := by
      have hneg : a * 10 ^ p ≤ 0 := mul_nonpos_of_nonpos_of_nonneg (not_le.mp ha).le (by positivity)
      exact Int.ceil_le.mpr (by push_cast; linarith)
    by_cases hb : 0 ≤ b
    · have hup : 0 ≤ ⌊b * 10 ^ p + 1 / 2⌋ := Int.floor_nonneg.mpr (by positivity)
      rw [if_pos hb]
      gcongr
      exact_mod_cast hdown.trans hup
    · rw [if_neg hb]
      gcongr

/-- What a limit leaves, beside units already used, rounds to no more than itself if the limit
does. -/
lemma roundHalfAway_sub_le (hlimit : roundHalfAway p limit ≤ limit) (hused : IsDecimal p used)
    (hused0 : 0 ≤ used) (hle : used ≤ limit) : roundHalfAway p (limit - used) ≤ limit - used := by
  have hsplit := roundHalfAway_add hused hused0 (sub_nonneg.mpr hle)
  rw [add_sub_cancel] at hsplit
  linarith

end Library
