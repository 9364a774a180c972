import Mathlib.Algebra.Order.Field.Power
import Mathlib.Data.Prod.Lex
import Mathlib.Tactic.GCongr
import Mathlib.Tactic.Positivity
import Docketworks.Library.Decimal
import Docketworks.Library.Rounding

/-!
# Double-precision numbers

The binary64 format over the rationals: a finite value is `m · 2ᵉ` with a mantissa below `2⁵³` and
an exponent from `-1074`, and an operation is the exact one followed by rounding to nearest, ties
to even.  From `2¹⁰²⁴` on the result is an infinity.

* `IsBinary64 q` — `q` is such a value, the exponent unbounded above.
* `round64` — the rounding; `round64_nearest` says it is `NearestIn` the format.
* `Float64` — the stored values with their infinities and the not-a-number, in the order a database
  sorts them in.
* `Float64.midpoint_between` — a computed midpoint lies strictly between its ends as long as any
  value does and the sum does not overflow.
-/

namespace Library

/-- `q` is `m · 2ᵉ` with `|m| < 2⁵³` and `-1074 ≤ e`. -/
def IsBinary64 (q : ℚ) : Prop := ∃ m e : ℤ, |m| < 2 ^ 53 ∧ -1074 ≤ e ∧ q = m * 2 ^ e

def leadingExponent (q : ℚ) : ℤ :=
  let k : ℤ := q.num.natAbs.log2 - q.den.log2
  if (2 : ℚ) ^ k ≤ |q| then k else k - 1

/-- The exponent of the last of 53 bits, not below that of the smallest subnormal. -/
def ulpExponent (q : ℚ) : ℤ := max (leadingExponent q - 52) (-1074)

/-- Round to nearest, ties to even. -/
def round64 (q : ℚ) : ℚ :=
  let ulp := (2 : ℚ) ^ ulpExponent q
  ulp * roundHalfEven 0 (q / ulp)

variable {q r : ℚ}

/-! ## The format -/

lemma IsBinary64.double (h : IsBinary64 q) : IsBinary64 (2 * q) := by
  obtain ⟨m, e, hm, he, rfl⟩ := h
  refine ⟨m, e + 1, hm, by omega, ?_⟩
  rw [zpow_add_one₀ two_ne_zero]
  ring

lemma IsBinary64.neg (h : IsBinary64 q) : IsBinary64 (-q) := by
  obtain ⟨m, e, hm, he, rfl⟩ := h
  exact ⟨-m, e, by rwa [abs_neg], he, by push_cast; ring⟩

lemma isBinary64_two_zpow {e : ℤ} (he : -1074 ≤ e) : IsBinary64 (2 ^ e) :=
  ⟨1, e, by norm_num, he, by simp⟩

lemma isBinary64_of_le {m e : ℤ} (hm : |m| ≤ 2 ^ 53) (he : -1074 ≤ e) :
    IsBinary64 (m * 2 ^ e) := by
  rcases lt_or_eq_of_le hm with hlt | heq
  · exact ⟨m, e, hlt, he, rfl⟩
  · obtain ⟨n, hn, hnabs⟩ : ∃ n : ℤ, m = 2 * n ∧ |n| < 2 ^ 53 := by
      rcases abs_eq (by norm_num : (0 : ℤ) ≤ 2 ^ 53) |>.mp heq with h | h
      · exact ⟨2 ^ 52, by rw [h]; norm_num, by norm_num⟩
      · exact ⟨-2 ^ 52, by rw [h]; norm_num, by norm_num⟩
    refine ⟨n, e + 1, hnabs, by omega, ?_⟩
    rw [hn, zpow_add_one₀ two_ne_zero]
    push_cast
    ring

lemma exists_units {m e k : ℤ} (hk : k ≤ e) : ∃ n : ℤ, (m : ℚ) * 2 ^ e = n * 2 ^ k := by
  obtain ⟨d, rfl⟩ := Int.le.dest hk
  refine ⟨m * 2 ^ d, ?_⟩
  rw [zpow_add₀ two_ne_zero, zpow_natCast]
  push_cast
  ring

/-! ## Rounding -/

lemma leadingExponent_spec (hq : q ≠ 0) :
    (2 : ℚ) ^ leadingExponent q ≤ |q| ∧ |q| < 2 ^ (leadingExponent q + 1) := by
  have hnum : q.num.natAbs ≠ 0 := by simpa using hq
  have hden : q.den ≠ 0 := q.den_nz
  have hdenpos : (0 : ℚ) < q.den := by exact_mod_cast q.den_pos
  have habs : |q| = (q.num.natAbs : ℚ) / q.den := by
    conv_lhs => rw [← Rat.num_div_den q]
    rw [abs_div, abs_of_pos hdenpos, Nat.cast_natAbs]
    push_cast
    rfl
  have hn1 : ((2 : ℚ) ^ (q.num.natAbs.log2 : ℤ)) ≤ q.num.natAbs := by
    rw [zpow_natCast]
    exact_mod_cast Nat.log2_self_le hnum
  have hn2 : (q.num.natAbs : ℚ) < 2 ^ ((q.num.natAbs.log2 : ℤ) + 1) := by
    have := Nat.lt_log2_self (n := q.num.natAbs)
    exact_mod_cast this
  have hd1 : ((2 : ℚ) ^ (q.den.log2 : ℤ)) ≤ q.den := by
    rw [zpow_natCast]
    exact_mod_cast Nat.log2_self_le hden
  have hd2 : (q.den : ℚ) < 2 ^ ((q.den.log2 : ℤ) + 1) := by
    have := Nat.lt_log2_self (n := q.den)
    exact_mod_cast this
  have htwo : (2 : ℚ) ≠ 0 := two_ne_zero
  have hupper : |q| < 2 ^ ((q.num.natAbs.log2 : ℤ) - q.den.log2 + 1) := by
    rw [habs, div_lt_iff₀ hdenpos]
    calc (q.num.natAbs : ℚ) < 2 ^ ((q.num.natAbs.log2 : ℤ) + 1) := hn2
      _ = 2 ^ ((q.num.natAbs.log2 : ℤ) - q.den.log2 + 1) * 2 ^ (q.den.log2 : ℤ) := by
          rw [← zpow_add₀ htwo]
          congr 1
          ring
      _ ≤ 2 ^ ((q.num.natAbs.log2 : ℤ) - q.den.log2 + 1) * q.den := by gcongr
  have hlower : (2 : ℚ) ^ ((q.num.natAbs.log2 : ℤ) - q.den.log2 - 1) ≤ |q| := by
    rw [habs, le_div_iff₀ hdenpos]
    calc (2 : ℚ) ^ ((q.num.natAbs.log2 : ℤ) - q.den.log2 - 1) * q.den
        ≤ 2 ^ ((q.num.natAbs.log2 : ℤ) - q.den.log2 - 1) * 2 ^ ((q.den.log2 : ℤ) + 1) := by gcongr
      _ = 2 ^ (q.num.natAbs.log2 : ℤ) := by
          rw [← zpow_add₀ htwo]
          congr 1
          ring
      _ ≤ q.num.natAbs := hn1
  unfold leadingExponent
  simp only
  split
  · exact ⟨‹_›, hupper⟩
  · exact ⟨hlower, by rw [sub_add_cancel]; exact lt_of_not_ge ‹_›⟩

lemma abs_lt_units (q : ℚ) : |q| < 2 ^ 53 * 2 ^ ulpExponent q := by
  rcases eq_or_ne q 0 with rfl | hq
  · rw [abs_zero]
    positivity
  · calc |q| < 2 ^ (leadingExponent q + 1) := (leadingExponent_spec hq).2
      _ ≤ 2 ^ (53 + ulpExponent q) := by
          refine zpow_le_zpow_right₀ (by norm_num) ?_
          have := le_max_left (leadingExponent q - 52) (-1074)
          unfold ulpExponent
          omega
      _ = 2 ^ 53 * 2 ^ ulpExponent q := by
          rw [zpow_add₀ two_ne_zero]
          norm_num

lemma roundHalfEven_zero_nearest (y : ℚ) :
    ∃ n : ℤ, roundHalfEven 0 y = n ∧ |(n : ℚ) - y| ≤ 1 / 2 ∧ ∀ k : ℤ, |(n : ℚ) - y| ≤ |k - y| := by
  obtain ⟨n, hn⟩ := isDecimal_iff.mp (isDecimal_roundHalfEven (p := 0) (q := y))
  rw [pow_zero, mul_one] at hn
  have hhalf : |(n : ℚ) - y| ≤ 1 / 2 := by
    have := abs_roundHalfEven_sub_le 0 y
    rwa [hn, pow_zero, div_one] at this
  refine ⟨n, hn, hhalf, fun k => ?_⟩
  by_contra hlt
  have hclose : |(n : ℚ) - k| < 1 := by
    calc |(n : ℚ) - k| = |((n : ℚ) - y) - (k - y)| := by ring_nf
      _ ≤ |(n : ℚ) - y| + |k - y| := abs_sub _ _
      _ < 1 := by linarith
  have heq : n = k := by
    have : |n - k| < 1 := by exact_mod_cast hclose
    have := Int.abs_lt_one_iff.mp this
    omega
  exact hlt (by rw [heq])

/-- The unit a value is rounded in, the whole number of units it is rounded to, and that no whole
number of units is nearer. -/
lemma round64_spec (q : ℚ) :
    ∃ n : ℤ, round64 q = n * 2 ^ ulpExponent q ∧ |n| ≤ 2 ^ 53 ∧
      ∀ k : ℤ, |round64 q - q| ≤ |k * 2 ^ ulpExponent q - q| := by
  obtain ⟨n, hn, hhalf, hnear⟩ := roundHalfEven_zero_nearest (q / 2 ^ ulpExponent q)
  have hpos : (0 : ℚ) < 2 ^ ulpExponent q := by positivity
  have hround : round64 q = n * 2 ^ ulpExponent q := by
    unfold round64
    simp only
    rw [hn, mul_comm]
  have hscale : ∀ k : ℚ, |k * 2 ^ ulpExponent q - q|
      = |k - q / 2 ^ ulpExponent q| * 2 ^ ulpExponent q := by
    intro k
    rw [← abs_of_pos hpos, ← abs_mul, abs_of_pos hpos, sub_mul, div_mul_cancel₀ _ hpos.ne']
  refine ⟨n, hround, ?_, fun k => ?_⟩
  · have hy : |q / 2 ^ ulpExponent q| < 2 ^ 53 := by
      rw [abs_div, abs_of_pos hpos, div_lt_iff₀ hpos]
      exact abs_lt_units q
    have hlt : |(n : ℚ)| < 2 ^ 53 + 1 := by
      calc |(n : ℚ)| = |((n : ℚ) - q / 2 ^ ulpExponent q) + q / 2 ^ ulpExponent q| := by ring_nf
        _ ≤ |(n : ℚ) - q / 2 ^ ulpExponent q| + |q / 2 ^ ulpExponent q| := abs_add_le _ _
        _ < 2 ^ 53 + 1 := by linarith
    have : |n| < 2 ^ 53 + 1 := by exact_mod_cast hlt
    omega
  · rw [hround, hscale, hscale]
    exact mul_le_mul_of_nonneg_right (hnear k) hpos.le

/-- **Rounding is to nearest.** -/
theorem round64_nearest : NearestIn {q : ℚ | IsBinary64 q} round64 where
  mem q := by
    obtain ⟨n, hn, habs, -⟩ := round64_spec q
    rw [Set.mem_ofPred_eq, hn]
    exact isBinary64_of_le habs (le_max_right _ _)
  nearest {x} q hx := by
    obtain ⟨n, hn, habs, hnear⟩ := round64_spec q
    obtain ⟨m, e, hm, he, rfl⟩ := hx
    rcases eq_or_ne q 0 with rfl | hq
    · refine (hnear 0).trans ?_
      rw [Int.cast_zero, zero_mul, sub_zero, abs_zero]
      exact abs_nonneg _
    by_cases hunit : ulpExponent q ≤ e
    · obtain ⟨k, hk⟩ := exists_units (m := m) hunit
      rw [hk]
      exact hnear k
    -- a smaller unit: the value lies below the leading bit, which is a whole number of units
    · have hlead : ulpExponent q = leadingExponent q - 52 := by
        unfold ulpExponent at hunit ⊢
        omega
      have hsmall : |(m : ℚ) * 2 ^ e| ≤ 2 ^ leadingExponent q := by
        have hmq : |(m : ℚ)| ≤ 2 ^ 53 := by exact_mod_cast hm.le
        calc |(m : ℚ) * 2 ^ e| = |(m : ℚ)| * 2 ^ e := by
              rw [abs_mul, abs_of_pos (by positivity : (0 : ℚ) < 2 ^ e)]
          _ ≤ 2 ^ 53 * 2 ^ e := by gcongr
          _ = 2 ^ (53 + e) := by rw [zpow_add₀ two_ne_zero]; norm_num
          _ ≤ 2 ^ leadingExponent q := zpow_le_zpow_right₀ (by norm_num) (by omega)
      have hbit := (leadingExponent_spec hq).1
      have hbitunits : (2 : ℚ) ^ leadingExponent q = (2 ^ 52 : ℤ) * 2 ^ ulpExponent q := by
        have : leadingExponent q = 52 + ulpExponent q := by omega
        rw [this, zpow_add₀ two_ne_zero]
        norm_num
      rcases le_total 0 q with hpos | hneg
      · rw [abs_of_nonneg hpos] at hbit
        have hle := hnear (2 ^ 52)
        rw [← hbitunits, abs_of_nonpos (a := (2 : ℚ) ^ leadingExponent q - q) (by linarith)] at hle
        have hx := le_of_abs_le hsmall
        rw [abs_of_nonpos (a := (m : ℚ) * 2 ^ e - q) (by linarith)]
        linarith
      · rw [abs_of_nonpos hneg] at hbit
        have hle := hnear (-2 ^ 52)
        have hunits : (((-2 ^ 52 : ℤ) : ℚ)) * 2 ^ ulpExponent q = -2 ^ leadingExponent q := by
          rw [hbitunits]
          push_cast
          ring
        rw [hunits, abs_of_nonneg (a := -(2 : ℚ) ^ leadingExponent q - q) (by linarith)] at hle
        have hx := neg_le_of_abs_le hsmall
        rw [abs_of_nonneg (a := (m : ℚ) * 2 ^ e - q) (by linarith)]
        linarith

lemma isBinary64_round64 (q : ℚ) : IsBinary64 (round64 q) := round64_nearest.mem q

lemma IsBinary64.units (h : IsBinary64 q) : ∃ n : ℤ, q = n * 2 ^ (-1074 : ℤ) := by
  obtain ⟨m, e, -, he, rfl⟩ := h
  exact exists_units he

lemma half_exact_or_sum_exact {a b : ℚ} (ha : IsBinary64 a) (hb : IsBinary64 b) :
    IsBinary64 (round64 (a + b) / 2) ∨ IsBinary64 (a + b) := by
  obtain ⟨m, e, hm, he, hs⟩ := isBinary64_round64 (a + b)
  by_cases hsub : -1073 ≤ e
  · refine .inl ⟨m, e - 1, hm, by omega, ?_⟩
    rw [hs, zpow_sub_one₀ two_ne_zero]
    ring
  -- a subnormal sum is a whole number of smallest subnormals, few enough to be exact
  · obtain rfl : e = -1074 := by omega
    obtain ⟨i, hi⟩ := ha.units
    obtain ⟨j, hj⟩ := hb.units
    have hsum : a + b = (i + j : ℤ) * 2 ^ (-1074 : ℤ) := by
      rw [hi, hj, Int.cast_add, add_mul]
    have hpos : (0 : ℚ) < 2 ^ (-1074 : ℤ) := by positivity
    have hlimit : IsBinary64 ((2 : ℚ) ^ 53 * 2 ^ (-1074 : ℤ)) := by
      have hpow : (2 : ℚ) ^ 53 * 2 ^ (-1074 : ℤ) = 2 ^ (-1021 : ℤ) := by
        rw [← zpow_natCast, ← zpow_add₀ two_ne_zero]
        congr 1
      rw [hpow]
      exact isBinary64_two_zpow (by norm_num)
    have hmq : |(m : ℚ)| < 2 ^ 53 := by exact_mod_cast hm
    obtain ⟨hm1, hm2⟩ := abs_lt.mp hmq
    have hupper : a + b < 2 ^ 53 * 2 ^ (-1074 : ℤ) := by
      by_contra hge
      have := round64_nearest.le_rnd hlimit (not_lt.mp hge)
      rw [hs] at this
      exact absurd (le_of_mul_le_mul_right this hpos) (not_le.mpr hm2)
    have hlower : -(2 ^ 53 * 2 ^ (-1074 : ℤ)) < a + b := by
      by_contra hge
      have := round64_nearest.rnd_le hlimit.neg (not_lt.mp hge)
      rw [hs, ← neg_mul] at this
      exact absurd (le_of_mul_le_mul_right this hpos) (not_le.mpr hm1)
    refine .inr ⟨i + j, -1074, ?_, le_rfl, hsum⟩
    rw [hsum] at hupper hlower
    rw [← neg_mul] at hlower
    have h1 := lt_of_mul_lt_mul_right hupper hpos.le
    have h2 := lt_of_mul_lt_mul_right hlower hpos.le
    rw [abs_lt]
    exact ⟨by exact_mod_cast h2, by exact_mod_cast h1⟩

/-! ## The stored values -/

/-- From here on a value is not finite. -/
def overflowBound : ℚ := 2 ^ 53 * 2 ^ (971 : ℤ)

@[ext]
structure Finite64 where
  value : ℚ
  isBinary64 : IsBinary64 value
  abs_lt_bound : |value| < overflowBound
  deriving DecidableEq

/-- A stored double: a finite value, an infinity or the not-a-number. -/
inductive Float64 where
  | negInf
  | finite (v : Finite64)
  | posInf
  | nan
  deriving DecidableEq

namespace Float64

/-- The order a database sorts doubles in: the not-a-number is above everything. -/
def rank : Float64 → ℕ ×ₗ ℚ
  | .negInf => toLex (0, 0)
  | .finite v => toLex (1, v.value)
  | .posInf => toLex (2, 0)
  | .nan => toLex (3, 0)

lemma rank_injective : Function.Injective rank := by
  intro x y h
  have h := toLex.injective h
  cases x <;> cases y <;> simp_all [rank]
  exact Finite64.ext h

instance : LinearOrder Float64 := LinearOrder.lift' rank rank_injective

@[simp] lemma finite_lt_finite {v w : Finite64} : finite v < finite w ↔ v.value < w.value := by
  change rank (finite v) < rank (finite w) ↔ _
  simp [rank, Prod.Lex.toLex_lt_toLex]

/-- The double nearest to `q`. -/
def ofRat (q : ℚ) : Float64 :=
  if h : |round64 q| < overflowBound then .finite ⟨round64 q, isBinary64_round64 q, h⟩
  else if 0 < q then .posInf else .negInf

/-- `-x`. -/
def neg : Float64 → Float64
  | .finite v => .finite ⟨-v.value, v.isBinary64.neg, by rw [abs_neg]; exact v.abs_lt_bound⟩
  | .posInf => .negInf
  | .negInf => .posInf
  | .nan => .nan

/-- `x + y`. -/
def add : Float64 → Float64 → Float64
  | .finite v, .finite w => ofRat (v.value + w.value)
  | .nan, _ => .nan
  | _, .nan => .nan
  | .posInf, .negInf => .nan
  | .negInf, .posInf => .nan
  | .posInf, _ => .posInf
  | _, .posInf => .posInf
  | .negInf, _ => .negInf
  | _, .negInf => .negInf

/-- `x / 2`. -/
def half : Float64 → Float64
  | .finite v => ofRat (v.value / 2)
  | x => x

/-- `(x + y) / 2`. -/
def midpoint (x y : Float64) : Float64 := (x.add y).half

/-- The sum of the two stays finite. -/
def SumInRange (x y : Float64) : Prop :=
  match x, y with
  | .finite v, .finite w => |round64 (v.value + w.value)| < overflowBound
  | _, _ => False

instance : ∀ x y, Decidable (SumInRange x y)
  | .finite v, .finite w => inferInstanceAs (Decidable (|round64 (v.value + w.value)| < overflowBound))
  | .negInf, _ | .posInf, _ | .nan, _ => .isFalse id
  | .finite _, .negInf | .finite _, .posInf | .finite _, .nan => .isFalse id

@[simp] lemma add_finite (v w : Finite64) : add (.finite v) (.finite w) = ofRat (v.value + w.value) := rfl

@[simp] lemma half_finite (v : Finite64) : half (.finite v) = ofRat (v.value / 2) := rfl

lemma ofRat_of_lt (h : |round64 q| < overflowBound) :
    ofRat q = .finite ⟨round64 q, isBinary64_round64 q, h⟩ := dif_pos h

variable {a b x d : Finite64}

/-- **Midpoints.**  A computed midpoint is strictly between its ends if some value is. -/
theorem midpoint_between (hax : a.value < x.value) (hxb : x.value < b.value)
    (hrange : SumInRange (.finite a) (.finite b)) :
    finite a < midpoint (.finite a) (.finite b) ∧ midpoint (.finite a) (.finite b) < .finite b := by
  obtain ⟨hlow, hhigh⟩ := round64_nearest.between_of_halved_sum a.isBinary64 b.isBinary64 x.isBinary64
    a.isBinary64.double b.isBinary64.double x.isBinary64.double hax hxb (half_exact_or_sum_exact a.isBinary64 b.isBinary64)
  have hfinite : |round64 (round64 (a.value + b.value) / 2)| < overflowBound := by
    have ha := (abs_lt.mp a.abs_lt_bound).1
    have hb := (abs_lt.mp b.abs_lt_bound).2
    exact abs_lt.mpr ⟨by linarith, by linarith⟩
  have hmid : midpoint (.finite a) (.finite b) = .finite ⟨_, isBinary64_round64 _, hfinite⟩ := by
    rw [midpoint, add_finite, ofRat_of_lt hrange, half_finite]
    exact ofRat_of_lt hfinite
  rw [hmid]
  exact ⟨finite_lt_finite.mpr hlow, finite_lt_finite.mpr hhigh⟩

lemma midpoint_comm : midpoint (.finite a) (.finite b) = midpoint (.finite b) (.finite a) := by
  rw [midpoint, midpoint, add_finite, add_finite, add_comm]

lemma sumInRange_comm :
    SumInRange (.finite a) (.finite b) ↔ SumInRange (.finite b) (.finite a) := by
  simp only [SumInRange]
  rw [add_comm]

lemma le_overflowBound_sub (a : Finite64) : a.value ≤ overflowBound - 2 ^ (971 : ℤ) := by
  obtain ⟨m, e, hm, he, heq⟩ := a.isBinary64
  have hlt := a.abs_lt_bound
  have hpos : (0 : ℚ) < 2 ^ (971 : ℤ) := by positivity
  have hmq : (m : ℚ) ≤ 2 ^ 53 - 1 := by
    have : m ≤ 2 ^ 53 - 1 := by have := (abs_lt.mp hm).2; omega
    exact_mod_cast this
  have hbound : overflowBound - 2 ^ (971 : ℤ) = (2 ^ 53 - 1) * 2 ^ (971 : ℤ) := by
    rw [overflowBound, sub_mul, one_mul]
  rw [hbound, heq]
  rcases le_total e 971 with hle | hge
  · rcases le_total 0 m with hm0 | hm0
    · have hm0q : (0 : ℚ) ≤ m := by exact_mod_cast hm0
      calc (m : ℚ) * 2 ^ e ≤ m * 2 ^ (971 : ℤ) :=
            mul_le_mul_of_nonneg_left (zpow_le_zpow_right₀ one_le_two hle) hm0q
        _ ≤ (2 ^ 53 - 1) * 2 ^ (971 : ℤ) := mul_le_mul_of_nonneg_right hmq hpos.le
    · have hm0q : (m : ℚ) ≤ 0 := by exact_mod_cast hm0
      calc (m : ℚ) * 2 ^ e ≤ 0 := mul_nonpos_of_nonpos_of_nonneg hm0q (by positivity)
        _ ≤ (2 ^ 53 - 1) * 2 ^ (971 : ℤ) := mul_nonneg (by norm_num) hpos.le
  · obtain ⟨n, hn⟩ := exists_units (m := m) hge
    have hnlt : (n : ℚ) < 2 ^ 53 := by
      have := (abs_lt.mp hlt).2
      rw [heq, hn, overflowBound] at this
      exact lt_of_mul_lt_mul_right this hpos.le
    have hnle : (n : ℚ) ≤ 2 ^ 53 - 1 := by
      have : n < 2 ^ 53 := by exact_mod_cast hnlt
      have : n ≤ 2 ^ 53 - 1 := by omega
      exact_mod_cast this
    rw [hn]
    exact mul_le_mul_of_nonneg_right hnle hpos.le

lemma isBinary64_overflowBound : IsBinary64 overflowBound := by
  have h := isBinary64_of_le (m := 2 ^ 53) (e := 971) (by norm_num) (by norm_num)
  rw [Int.cast_pow, Int.cast_ofNat] at h
  exact h

lemma ofRat_of_isBinary64 (h : IsBinary64 q) (hlt : |q| < overflowBound) :
    ofRat q = .finite ⟨q, h, hlt⟩ := by
  have hround : round64 q = q := round64_nearest.eq_of_mem h
  have hlt' : |round64 q| < overflowBound := by rwa [hround]
  rw [ofRat_of_lt hlt']
  congr 1
  exact Finite64.ext hround

lemma ofRat_intCast {n : ℤ} (hn : |n| < 2 ^ 53) :
    ∃ x : Finite64, ofRat n = .finite x ∧ x.value = n := by
  have hformat : IsBinary64 (n : ℚ) := ⟨n, 0, hn, by norm_num, by simp⟩
  have hunit : (1 : ℚ) ≤ 2 ^ (971 : ℤ) := one_le_zpow₀ (by norm_num) (by norm_num)
  have hcast : |(n : ℚ)| < 2 ^ 53 := by exact_mod_cast hn
  have hbound : |(n : ℚ)| < overflowBound := by
    unfold overflowBound
    calc |(n : ℚ)| < 2 ^ 53 * 1 := by rw [mul_one]; exact hcast
      _ ≤ 2 ^ 53 * 2 ^ (971 : ℤ) := mul_le_mul_of_nonneg_left hunit (by positivity)
  exact ⟨_, ofRat_of_isBinary64 hformat hbound, rfl⟩

/-- A fraction over a power of two, all of whose bits are kept, is a finite double. -/
lemma exact_of_dyadic {b k : ℕ} {m : ℤ} (hq : q * 2 ^ k = m) (hbound : |q| ≤ b) (hb : 0 < b)
    (hbits : b * 2 ^ k ≤ 2 ^ 53) : IsBinary64 q ∧ |q| < overflowBound := by
  have hbitsq : (b * 2 ^ k : ℚ) ≤ 2 ^ 53 := by exact_mod_cast hbits
  have hk : k ≤ 53 := by
    refine (Nat.pow_le_pow_iff_right (by norm_num : 1 < 2)).mp (le_trans ?_ hbits)
    exact Nat.le_mul_of_pos_left _ hb
  have hm : |(m : ℚ)| ≤ 2 ^ 53 := by
    rw [← hq, abs_mul, abs_of_pos (by positivity : (0 : ℚ) < 2 ^ k)]
    exact (mul_le_mul_of_nonneg_right hbound (by positivity)).trans hbitsq
  constructor
  · have hvalue : q = m * 2 ^ (-(k : ℤ)) := by
      rw [← hq, zpow_neg, zpow_natCast, mul_assoc, mul_inv_cancel₀ (by positivity), mul_one]
    rw [hvalue]
    exact isBinary64_of_le (by exact_mod_cast hm) (by omega)
  · have hone : (1 : ℚ) ≤ 2 ^ k := one_le_pow₀ (by norm_num)
    have hunit : (1 : ℚ) < 2 ^ (971 : ℤ) := one_lt_zpow₀ (by norm_num) (by norm_num)
    unfold overflowBound
    calc |q| ≤ b * 1 := by rw [mul_one]; exact hbound
      _ ≤ b * 2 ^ k := mul_le_mul_of_nonneg_left hone (by positivity)
      _ ≤ 2 ^ 53 * 1 := by rw [mul_one]; exact hbitsq
      _ < 2 ^ 53 * 2 ^ (971 : ℤ) := mul_lt_mul_of_pos_left hunit (by norm_num)

lemma ofRat_of_dyadic {b k : ℕ} {m : ℤ} (hq : q * 2 ^ k = m) (hbound : |q| ≤ b) (hb : 0 < b)
    (hbits : b * 2 ^ k ≤ 2 ^ 53) : ∃ x : Finite64, ofRat q = .finite x ∧ x.value = q := by
  obtain ⟨hformat, hfinite⟩ := exact_of_dyadic hq hbound hb hbits
  exact ⟨_, ofRat_of_isBinary64 hformat hfinite, rfl⟩

/-- **Steps up.**  A small step up from `a` is not lost if some value lies less than two of them
above `a`. -/
theorem lt_add (hd : 0 < d.value) (hsmall : 4 * d.value ≤ 2 ^ (971 : ℤ)) (hax : a.value < x.value)
    (hxd : x.value < a.value + 2 * d.value) : finite a < add (.finite a) (.finite d) := by
  have hgap := le_overflowBound_sub a
  generalize (2 : ℚ) ^ (971 : ℤ) = unit at hgap hsmall
  have hlow : a.value < round64 (a.value + d.value) :=
    round64_nearest.lt_rnd a.isBinary64 x.isBinary64 hax (by linarith) (by linarith)
  have hhigh : round64 (a.value + d.value) < overflowBound :=
    round64_nearest.rnd_lt isBinary64_overflowBound a.isBinary64 (by linarith) (by linarith)
      (by linarith)
  have hbound := (abs_lt.mp a.abs_lt_bound).1
  rw [add_finite, ofRat_of_lt (abs_lt.mpr ⟨by linarith, hhigh⟩)]
  exact finite_lt_finite.mpr hlow

/-- **Steps down.**  A small step down from `a` is not lost if some value lies less than two of
them below `a`. -/
theorem add_neg_lt (hd : 0 < d.value) (hsmall : 4 * d.value ≤ 2 ^ (971 : ℤ))
    (hxa : x.value < a.value) (hxd : a.value - 2 * d.value < x.value) :
    add (.finite a) (neg (.finite d)) < finite a := by
  have hgap := le_overflowBound_sub
    ⟨-a.value, a.isBinary64.neg, by rw [abs_neg]; exact a.abs_lt_bound⟩
  simp only at hgap
  generalize (2 : ℚ) ^ (971 : ℤ) = unit at hgap hsmall
  have hhigh : round64 (a.value + -d.value) < a.value :=
    round64_nearest.rnd_lt a.isBinary64 x.isBinary64 hxa (by linarith) (by linarith)
  have hlow : -overflowBound < round64 (a.value + -d.value) :=
    round64_nearest.lt_rnd isBinary64_overflowBound.neg a.isBinary64 (by linarith) (by linarith)
      (by linarith)
  have hbound := (abs_lt.mp a.abs_lt_bound).2
  rw [neg, add_finite, ofRat_of_lt (abs_lt.mpr ⟨hlow, by linarith⟩)]
  exact finite_lt_finite.mpr hhigh

end Float64

end Library
