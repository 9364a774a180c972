import Mathlib.Algebra.Order.Round
import Mathlib.Data.Rat.Floor
import Mathlib.Tactic.Linarith
import Mathlib.Tactic.Ring
import Mathlib.Tactic.FieldSimp

/-!
# Decimal columns

A decimal column holds the multiples of `10⁻ᵖ` below a bound.  A value is an exact rational here;
what a column or a rounding does to it is a function of that rational.

* `IsDecimal p q` — `q` is a whole number of units of `10⁻ᵖ`.
* `Fits d p q` — `q` is such a value with at most `d` digits in all.
* `roundHalfAway p q` — the rounding a database column of scale `p` applies when it is assigned.
* `roundHalfEven p q` — the rounding a decimal library applies when it quantizes.
-/

namespace Library

/-- `q` is a whole number of units of `10⁻ᵖ`. -/
def IsDecimal (p : ℕ) (q : ℚ) : Prop := (q * 10 ^ p).den = 1

instance (p : ℕ) (q : ℚ) : Decidable (IsDecimal p q) :=
  inferInstanceAs (Decidable (_ = _))

/-- `q` has at most `p` digits after the point and `d` digits in all. -/
def Fits (d p : ℕ) (q : ℚ) : Prop := IsDecimal p q ∧ |q| < 10 ^ (d - p)

instance (d p : ℕ) (q : ℚ) : Decidable (Fits d p q) :=
  inferInstanceAs (Decidable (_ ∧ _))

/-- The nearest multiple of `10⁻ᵖ`, halves away from zero. -/
def roundHalfAway (p : ℕ) (q : ℚ) : ℚ :=
  (if 0 ≤ q then (⌊q * 10 ^ p + 1 / 2⌋ : ℚ) else (⌈q * 10 ^ p - 1 / 2⌉ : ℚ)) / 10 ^ p

/-- The nearest multiple of `10⁻ᵖ`, halves to the even one. -/
def roundHalfEven (p : ℕ) (q : ℚ) : ℚ :=
  let low := ⌊q * 10 ^ p⌋
  let rest := q * 10 ^ p - low
  (if rest < 1 / 2 ∨ (rest = 1 / 2 ∧ low % 2 = 0) then (low : ℚ) else low + 1) / 10 ^ p

variable {p : ℕ} {q r : ℚ}

/-! ## Whole numbers of units -/

lemma isDecimal_iff : IsDecimal p q ↔ ∃ n : ℤ, q * 10 ^ p = n := by
  unfold IsDecimal
  constructor
  · exact fun h => ⟨(q * 10 ^ p).num, (Rat.den_eq_one_iff _).mp h ▸ by simp⟩
  · rintro ⟨n, hn⟩
    rw [hn]
    exact Rat.den_intCast n

@[simp] lemma isDecimal_zero : IsDecimal p 0 := isDecimal_iff.mpr ⟨0, by simp⟩

lemma IsDecimal.add (hq : IsDecimal p q) (hr : IsDecimal p r) : IsDecimal p (q + r) := by
  obtain ⟨m, hm⟩ := isDecimal_iff.mp hq
  obtain ⟨n, hn⟩ := isDecimal_iff.mp hr
  exact isDecimal_iff.mpr ⟨m + n, by push_cast; rw [add_mul, hm, hn]⟩

lemma IsDecimal.neg (hq : IsDecimal p q) : IsDecimal p (-q) := by
  obtain ⟨m, hm⟩ := isDecimal_iff.mp hq
  exact isDecimal_iff.mpr ⟨-m, by push_cast; rw [neg_mul, hm]⟩

lemma IsDecimal.sub (hq : IsDecimal p q) (hr : IsDecimal p r) : IsDecimal p (q - r) := by
  rw [sub_eq_add_neg]
  exact hq.add hr.neg

/-! ## Rounding -/

lemma roundHalfAway_of_isDecimal (h : IsDecimal p q) : roundHalfAway p q = q := by
  obtain ⟨n, hn⟩ := isDecimal_iff.mp h
  have hp : (10 : ℚ) ^ p ≠ 0 := by positivity
  have hfloor : ⌊(n : ℚ) + 1 / 2⌋ = n := by
    rw [Int.floor_eq_iff]
    constructor <;> linarith
  have hceil : ⌈(n : ℚ) - 1 / 2⌉ = n := by
    rw [Int.ceil_eq_iff]
    constructor <;> linarith
  unfold roundHalfAway
  rw [hn, hfloor, hceil, ite_self, ← hn]
  field_simp

lemma isDecimal_roundHalfAway : IsDecimal p (roundHalfAway p q) := by
  have hp : (10 : ℚ) ^ p ≠ 0 := by positivity
  unfold roundHalfAway
  rw [isDecimal_iff]
  split
  · exact ⟨_, div_mul_cancel₀ _ hp⟩
  · exact ⟨_, div_mul_cancel₀ _ hp⟩

lemma roundHalfAway_nonneg (h : 0 ≤ q) : 0 ≤ roundHalfAway p q := by
  unfold roundHalfAway
  rw [if_pos h]
  have : (0 : ℤ) ≤ ⌊q * 10 ^ p + 1 / 2⌋ := Int.floor_nonneg.mpr (by positivity)
  positivity

lemma isDecimal_roundHalfEven : IsDecimal p (roundHalfEven p q) := by
  have hp : (10 : ℚ) ^ p ≠ 0 := by positivity
  unfold roundHalfEven
  rw [isDecimal_iff]
  simp only
  split
  · exact ⟨_, div_mul_cancel₀ _ hp⟩
  · refine ⟨⌊q * 10 ^ p⌋ + 1, ?_⟩
    rw [div_mul_cancel₀ _ hp]
    push_cast
    rfl

lemma roundHalfEven_of_isDecimal (h : IsDecimal p q) : roundHalfEven p q = q := by
  obtain ⟨n, hn⟩ := isDecimal_iff.mp h
  have hp : (10 : ℚ) ^ p ≠ 0 := by positivity
  unfold roundHalfEven
  simp only [hn, Int.floor_intCast, sub_self]
  rw [if_pos (.inl (by norm_num)), ← hn]
  exact mul_div_cancel_right₀ q hp

lemma abs_roundHalfEven_sub_le (p : ℕ) (q : ℚ) : |roundHalfEven p q - q| ≤ 1 / 2 / 10 ^ p := by
  have hp : (0 : ℚ) < 10 ^ p := by positivity
  have hlow : (⌊q * 10 ^ p⌋ : ℚ) ≤ q * 10 ^ p := Int.floor_le _
  have hhigh : q * 10 ^ p < ⌊q * 10 ^ p⌋ + 1 := Int.lt_floor_add_one _
  have hunits : ∀ n : ℚ, |n - q * 10 ^ p| ≤ 1 / 2 → |n / 10 ^ p - q| ≤ 1 / 2 / 10 ^ p := by
    intro n h
    have hq : n / 10 ^ p - q = (n - q * 10 ^ p) / 10 ^ p := by field_simp
    rw [hq, abs_div, abs_of_pos hp]
    exact div_le_div_of_nonneg_right h hp.le
  unfold roundHalfEven
  simp only
  split
  · rename_i hdown
    have hrest : q * 10 ^ p - ⌊q * 10 ^ p⌋ ≤ 1 / 2 := by
      rcases hdown with h | ⟨h, -⟩ <;> linarith
    exact hunits _ (abs_le.mpr ⟨by linarith, by linarith⟩)
  · rename_i hup
    have hrest : 1 / 2 ≤ q * 10 ^ p - ⌊q * 10 ^ p⌋ := by
      by_contra h
      exact hup (.inl (lt_of_not_ge h))
    exact hunits _ (abs_le.mpr ⟨by linarith, by linarith⟩)

lemma roundHalfAway_add (hq : IsDecimal p q) (hq0 : 0 ≤ q) (hr0 : 0 ≤ r) :
    roundHalfAway p (q + r) = q + roundHalfAway p r := by
  obtain ⟨n, hn⟩ := isDecimal_iff.mp hq
  have hp : (10 : ℚ) ^ p ≠ 0 := by positivity
  unfold roundHalfAway
  rw [if_pos (add_nonneg hq0 hr0), if_pos hr0, add_mul, hn, add_assoc, Int.floor_intCast_add,
    Int.cast_add, add_div, ← hn]
  congr 1
  field_simp

end Library
