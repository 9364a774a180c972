import Mathlib.Algebra.Group.Int.Even
import Mathlib.Algebra.BigOperators.Group.List.Basic
import Mathlib.Tactic.Push
import Docketworks.Library.Decimal

/-!
# Rounded figures and their sums

A report rounds each of its figures and rounds their total on its own.  Rounding is to the nearest
multiple of `10⁻ᵖ`, halves to the even one; this file says when the two agree.

* `units p q` — the number of units `q` is rounded to; `units_eq_iff` is its characterization.
* `RoundsAsOne p qs` — what rounding takes off the members of `qs` comes to less than half a unit, or to
  half a unit beside an even number of them.  `roundHalfEven_sum_iff`: exactly then the rounded total is the
  total of the rounded members.
* `swing p a b` — by how many units a difference `a - b` is rounded otherwise than `a`, for `b` in whole
  units.  `sum_roundHalfEven_sub_iff`: a list of differences adds up if its swings cancel, and only then.
-/

namespace Library

/-- The number of units of `10⁻ᵖ` that `q` is rounded to. -/
def units (p : ℕ) (q : ℚ) : ℤ :=
  let low := ⌊q * 10 ^ p⌋
  let rest := q * 10 ^ p - low
  if rest < 1 / 2 ∨ (rest = 1 / 2 ∧ low % 2 = 0) then low else low + 1

/-- What rounding takes off `q`, in units. -/
def lost (p : ℕ) (q : ℚ) : ℚ := q * 10 ^ p - units p q

/-- What is taken off the members is not enough to move their total. -/
def RoundsAsOne (p : ℕ) (qs : List ℚ) : Prop :=
  |(qs.map (lost p)).sum| < 1 / 2 ∨
    (|(qs.map (lost p)).sum| = 1 / 2 ∧ Even (qs.map (units p)).sum)

instance (p : ℕ) (qs : List ℚ) : Decidable (RoundsAsOne p qs) :=
  inferInstanceAs (Decidable (_ ∨ _))

/-- `a` is half way between two units. -/
def IsTie (p : ℕ) (a : ℚ) : Prop := a * 10 ^ p - ⌊a * 10 ^ p⌋ = 1 / 2

instance (p : ℕ) (a : ℚ) : Decidable (IsTie p a) := inferInstanceAs (Decidable (_ = _))

/-- A tie less an odd number of units is rounded the other way than the tie. -/
def swing (p : ℕ) (a b : ℚ) : ℤ :=
  if IsTie p a ∧ ¬Even (units p b) then if Even ⌊a * 10 ^ p⌋ then 1 else -1 else 0

variable {p : ℕ} {a b q : ℚ} {qs : List ℚ} {n : ℤ}

lemma roundHalfEven_eq (p : ℕ) (q : ℚ) : roundHalfEven p q = units p q / 10 ^ p := by
  unfold roundHalfEven units
  simp only
  split <;> push_cast <;> rfl

lemma units_eq_iff :
    units p q = n ↔ |q * 10 ^ p - n| < 1 / 2 ∨ (|q * 10 ^ p - n| = 1 / 2 ∧ Even n) := by
  have hlow : (⌊q * 10 ^ p⌋ : ℚ) ≤ q * 10 ^ p := Int.floor_le _
  have hhigh : q * 10 ^ p < ⌊q * 10 ^ p⌋ + 1 := Int.lt_floor_add_one _
  unfold units
  simp only
  generalize q * 10 ^ p = r at *
  generalize ⌊r⌋ = low at *
  -- a number within half of `r` is one of the two around it
  have hnear : |r - n| ≤ 1 / 2 → n = low ∨ n = low + 1 := by
    intro h
    obtain ⟨h₁, h₂⟩ := abs_le.mp h
    have hn₁ : (low : ℚ) - 1 < n := by linarith
    have hn₂ : (n : ℚ) < low + 2 := by linarith
    have hz₁ : low - 1 < n := by exact_mod_cast hn₁
    have hz₂ : n < low + 2 := by exact_mod_cast hn₂
    omega
  have heven : Even (low + 1) ↔ ¬Even low := Int.even_add_one
  constructor
  · intro h
    subst h
    split
    · rename_i hdown
      rw [abs_of_nonneg (by linarith)]
      exact hdown.imp id fun ⟨hhalf, hmod⟩ => ⟨hhalf, Int.even_iff.mpr hmod⟩
    · rename_i hup
      push Not at hup
      rw [abs_of_nonpos (by push_cast; linarith)]
      push_cast
      rcases eq_or_lt_of_le hup.1 with hhalf | hmore
      · refine .inr ⟨by linarith, heven.mpr fun he => hup.2 hhalf.symm (Int.even_iff.mp he)⟩
      · exact .inl (by linarith)
  · intro h
    have hle : |r - n| ≤ 1 / 2 := h.elim (fun h => h.le) fun h => h.1.le
    rcases hnear hle with rfl | rfl
    · rw [if_pos]
      rw [abs_of_nonneg (by linarith)] at h
      exact h.imp id fun ⟨hhalf, he⟩ => ⟨hhalf, Int.even_iff.mp he⟩
    · rw [if_neg]
      rw [abs_of_nonpos (by push_cast; linarith)] at h
      push_cast at h
      rintro (hless | ⟨hhalf, hmod⟩)
      · rcases h with h | ⟨h, -⟩ <;> linarith
      · rcases h with h | ⟨-, he⟩
        · linarith
        · exact heven.mp he (Int.even_iff.mpr hmod)

/-! ## Totals -/

lemma sum_roundHalfEven (p : ℕ) (qs : List ℚ) :
    (qs.map (roundHalfEven p)).sum = ((qs.map (units p)).sum : ℤ) / 10 ^ p := by
  induction qs with
  | nil => simp
  | cons q qs ih =>
      rw [List.map_cons, List.sum_cons, List.map_cons, List.sum_cons, ih, roundHalfEven_eq]
      push_cast
      ring

lemma sum_lost (p : ℕ) (qs : List ℚ) :
    (qs.map (lost p)).sum = qs.sum * 10 ^ p - ((qs.map (units p)).sum : ℤ) := by
  induction qs with
  | nil => simp
  | cons q qs ih =>
      simp only [List.map_cons, List.sum_cons, ih, lost]
      push_cast
      ring

lemma div_pow_eq_iff {m : ℤ} : (n : ℚ) / 10 ^ p = m / 10 ^ p ↔ n = m := by
  rw [div_left_inj' (by positivity), Int.cast_inj]

/-- **The total of rounded figures.** -/
theorem roundHalfEven_sum_iff :
    roundHalfEven p qs.sum = (qs.map (roundHalfEven p)).sum ↔ RoundsAsOne p qs := by
  rw [roundHalfEven_eq, sum_roundHalfEven, div_pow_eq_iff, units_eq_iff, RoundsAsOne, sum_lost]

/-! ## Whole units -/

lemma units_of_isDecimal (h : IsDecimal p b) : b * 10 ^ p = units p b := by
  obtain ⟨n, hn⟩ := isDecimal_iff.mp h
  have hunits : units p b = n := units_eq_iff.mpr (.inl (by rw [hn, sub_self]; norm_num))
  rw [hn, hunits]

lemma roundHalfEven_sum_of_isDecimal (h : ∀ q ∈ qs, IsDecimal p q) :
    roundHalfEven p qs.sum = (qs.map (roundHalfEven p)).sum := by
  have hzero : qs.map (lost p) = List.replicate qs.length 0 := by
    refine List.eq_replicate_iff.mpr ⟨by simp, fun r hr => ?_⟩
    obtain ⟨q, hq, rfl⟩ := List.mem_map.mp hr
    rw [lost, units_of_isDecimal (h q hq), sub_self]
  rw [roundHalfEven_sum_iff, RoundsAsOne, hzero]
  simp

/-! ## Differences -/

lemma units_eq_or (p : ℕ) (a : ℚ) :
    units p a = ⌊a * 10 ^ p⌋ ∨ units p a = ⌊a * 10 ^ p⌋ + 1 := by
  unfold units
  simp only
  split
  · exact .inl rfl
  · exact .inr rfl

lemma units_of_isTie (h : IsTie p a) :
    units p a = if Even ⌊a * 10 ^ p⌋ then ⌊a * 10 ^ p⌋ else ⌊a * 10 ^ p⌋ + 1 := by
  unfold IsTie at h
  unfold units
  simp only [h, lt_irrefl, false_or, true_and, Int.even_iff]

lemma isTie_iff : IsTie p a ↔ |a * 10 ^ p - units p a| = 1 / 2 := by
  have hlow : (⌊a * 10 ^ p⌋ : ℚ) ≤ a * 10 ^ p := Int.floor_le _
  have hhigh : a * 10 ^ p < ⌊a * 10 ^ p⌋ + 1 := Int.lt_floor_add_one _
  unfold IsTie
  rcases units_eq_or p a with h | h
  · rw [h, abs_of_nonneg (by linarith)]
  · rw [h]
    push_cast
    rw [abs_of_nonpos (by linarith)]
    constructor <;> intro <;> linarith

lemma units_sub (hb : IsDecimal p b) : units p (a - b) = units p a - units p b + swing p a b := by
  have hsub : (a - b) * 10 ^ p = a * 10 ^ p - units p b := by rw [sub_mul, units_of_isDecimal hb]
  rw [units_eq_iff, hsub]
  by_cases htie : IsTie p a
  · have hunits := units_of_isTie htie
    have hhalf : a * 10 ^ p - ⌊a * 10 ^ p⌋ = 1 / 2 := htie
    right
    unfold swing
    by_cases hodd : Even (units p b)
    · -- an even number of units leaves a tie the parity it has
      rw [if_neg (by simp [hodd]), add_zero]
      push_cast
      rw [sub_sub_sub_cancel_right]
      have heven : Even (units p a) := by
        rcases units_eq_iff.mp (rfl : units p a = units p a) with hnear | ⟨-, heven⟩
        · exact absurd hnear (by rw [isTie_iff.mp htie]; exact lt_irrefl _)
        · exact heven
      exact ⟨isTie_iff.mp htie, heven.sub hodd⟩
    · rw [if_pos ⟨htie, hodd⟩]
      by_cases hlow : Even ⌊a * 10 ^ p⌋
      · rw [if_pos hlow] at hunits ⊢
        rw [hunits]
        constructor
        · push_cast
          rw [abs_of_nonpos (by linarith)]
          linarith
        · rw [Int.even_add_one, Int.even_sub]
          tauto
      · rw [if_neg hlow] at hunits ⊢
        rw [hunits]
        constructor
        · push_cast
          rw [abs_of_nonneg (by linarith)]
          linarith
        · have heq : ⌊a * 10 ^ p⌋ + 1 - units p b + -1 = ⌊a * 10 ^ p⌋ - units p b := by ring
          rw [heq, Int.even_sub]
          tauto
  · rcases units_eq_iff.mp (rfl : units p a = units p a) with hnear | ⟨hhalf, -⟩
    · left
      rw [swing, if_neg (fun h => htie h.1), add_zero]
      push_cast
      rwa [sub_sub_sub_cancel_right]
    · exact absurd (isTie_iff.mpr hhalf) htie

lemma roundHalfEven_sub (hb : IsDecimal p b) :
    roundHalfEven p (a - b) = roundHalfEven p a - b + swing p a b / 10 ^ p := by
  have hwhole : (units p b : ℚ) / 10 ^ p = b :=
    (eq_div_of_mul_eq (by positivity) (units_of_isDecimal hb)).symm
  rw [roundHalfEven_eq, roundHalfEven_eq, units_sub hb]
  push_cast
  rw [add_div, sub_div, hwhole]

/-- **The total of rounded differences.**  The swings cancel, or the differences do not add up. -/
theorem sum_roundHalfEven_sub_iff {ι : Type} {is : List ι} {a b : ι → ℚ}
    (hb : ∀ i ∈ is, IsDecimal p (b i)) :
    (is.map fun i => roundHalfEven p (a i)).sum - (is.map b).sum =
        (is.map fun i => roundHalfEven p (a i - b i)).sum ↔
      (is.map fun i => swing p (a i) (b i)).sum = 0 := by
  have hsplit : (is.map fun i => roundHalfEven p (a i - b i)).sum =
      (is.map fun i => roundHalfEven p (a i)).sum - (is.map b).sum +
        ((is.map fun i => swing p (a i) (b i)).sum : ℤ) / 10 ^ p := by
    induction is with
    | nil => simp
    | cons i is ih =>
        have hhead := roundHalfEven_sub (a := a i) (hb i List.mem_cons_self)
        have htail := ih fun j hj => hb j (List.mem_cons_of_mem _ hj)
        simp only [List.map_cons, List.sum_cons, hhead, htail]
        push_cast
        ring
  rw [hsplit, left_eq_add, div_eq_zero_iff]
  have hten : (10 : ℚ) ^ p ≠ 0 := pow_ne_zero p (by norm_num)
  exact ⟨fun h => Int.cast_eq_zero.mp (h.resolve_right hten), fun h => .inl (Int.cast_eq_zero.mpr h)⟩

lemma sum_eq_zero_of_each_key {ι κ : Type} [DecidableEq κ] (key : ι → κ) (f : ι → ℤ) {is : List ι}
    (h : ∀ k, ((is.filter fun i => key i = k).map f).sum = 0) : (is.map f).sum = 0 := by
  induction hn : is.length using Nat.strong_induction_on generalizing is with
  | _ n ih =>
      cases is with
      | nil => rfl
      | cons i is =>
          -- the items of the first key cancel, and the others are fewer
          have hsplit := List.sum_map_filter_add_sum_map_filter_not (fun j => key j = key i) f (i :: is)
          have hshort : ((i :: is).filter fun j => key j ≠ key i).length < n := by
            rw [← hn, List.filter_cons_of_neg (by simp), List.length_cons]
            exact Nat.lt_succ_of_le (List.length_filter_le _ _)
          have hothers := ih _ hshort (fun k => by
            rw [List.filter_filter]
            by_cases hk : k = key i
            · have hnone :
                  ((i :: is).filter fun j => decide (key j = k) && decide (key j ≠ key i)) = [] :=
                List.filter_eq_nil_iff.mpr fun j _ => by simp [hk]
              rw [hnone]
              rfl
            · have hsame : ((i :: is).filter fun j => decide (key j = k) && decide (key j ≠ key i)) =
                  (i :: is).filter fun j => key j = k := by
                refine List.filter_congr fun j _ => ?_
                by_cases hj : key j = k
                · simp [hj, hk]
                · simp [hj]
              rw [hsame]
              exact h k) rfl
          rw [← hsplit, h (key i), zero_add]
          exact hothers

end Library
