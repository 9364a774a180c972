import Mathlib.Algebra.Order.Field.Basic
import Mathlib.Data.Set.Basic
import Mathlib.Tactic.Linarith
import Mathlib.Tactic.Ring

/-!
# Rounding to the nearest member of a set

A number format is a set of values; an operation of it computes exactly and then takes a nearest
member.  Nothing more than that is used here: no radix, no precision, no rule for ties.

* `NearestIn F rnd` — `rnd` takes every value to a nearest member of `F`.
* `NearestIn.between` — a value midway between two members that have a third between them is
  rounded strictly between them.
* `NearestIn.between_of_halved_sum` — so is the midpoint computed as a sum and then a half, each
  of them rounded.
-/

namespace Library

variable {K : Type} [Field K] [LinearOrder K] [IsStrictOrderedRing K]

/-- `rnd` takes every value to a nearest member of `F`. -/
structure NearestIn (F : Set K) (rnd : K → K) : Prop where
  mem (q : K) : rnd q ∈ F
  nearest {x : K} (q : K) (hx : x ∈ F) : |rnd q - q| ≤ |x - q|

namespace NearestIn

variable {F : Set K} {rnd : K → K} {a b q x : K}

lemma eq_of_mem (h : NearestIn F rnd) (hq : q ∈ F) : rnd q = q := by
  have hle : |rnd q - q| ≤ 0 := by simpa using h.nearest q hq
  have hzero : rnd q - q = 0 := abs_nonpos_iff.mp hle
  linarith

lemma le_rnd (h : NearestIn F rnd) (hx : x ∈ F) (hxq : x ≤ q) : x ≤ rnd q := by
  by_contra hlt
  have hnear := h.nearest q hx
  rw [abs_of_nonpos (by linarith), abs_of_nonpos (by linarith)] at hnear
  linarith

lemma rnd_le (h : NearestIn F rnd) (hx : x ∈ F) (hqx : q ≤ x) : rnd q ≤ x := by
  by_contra hlt
  have hnear := h.nearest q hx
  rw [abs_of_nonneg (by linarith), abs_of_nonneg (by linarith)] at hnear
  linarith

lemma lt_rnd (h : NearestIn F rnd) (ha : a ∈ F) (hx : x ∈ F) (hax : a < x) (haq : a ≤ q)
    (hnear : x - q < q - a) : a < rnd q := by
  refine lt_of_le_of_ne (h.le_rnd ha haq) fun heq => ?_
  have hdist := h.nearest q hx
  rw [← heq, abs_of_nonpos (by linarith)] at hdist
  rcases le_total x q with hxq | hqx
  · rw [abs_of_nonpos (by linarith)] at hdist
    linarith
  · rw [abs_of_nonneg (by linarith)] at hdist
    linarith

lemma rnd_lt (h : NearestIn F rnd) (hb : b ∈ F) (hx : x ∈ F) (hxb : x < b) (hqb : q ≤ b)
    (hnear : q - x < b - q) : rnd q < b := by
  refine lt_of_le_of_ne (h.rnd_le hb hqb) fun heq => ?_
  have hdist := h.nearest q hx
  rw [heq, abs_of_nonneg (by linarith)] at hdist
  rcases le_total x q with hxq | hqx
  · rw [abs_of_nonpos (by linarith)] at hdist
    linarith
  · rw [abs_of_nonneg (by linarith)] at hdist
    linarith

lemma between (h : NearestIn F rnd) (ha : a ∈ F) (hb : b ∈ F) (hx : x ∈ F) (hax : a < x)
    (hxb : x < b) (hq : 2 * q = a + b) : a < rnd q ∧ rnd q < b :=
  ⟨h.lt_rnd ha hx hax (by linarith) (by linarith),
    h.rnd_lt hb hx hxb (by linarith) (by linarith)⟩

/-- The midpoint computed by adding, rounding, halving and rounding again.  Halving is exact
unless the sum was. -/
lemma between_of_halved_sum (h : NearestIn F rnd) (ha : a ∈ F) (hb : b ∈ F) (hx : x ∈ F)
    (ha2 : 2 * a ∈ F) (hb2 : 2 * b ∈ F) (hx2 : 2 * x ∈ F) (hax : a < x) (hxb : x < b)
    (hexact : rnd (a + b) / 2 ∈ F ∨ a + b ∈ F) :
    a < rnd (rnd (a + b) / 2) ∧ rnd (rnd (a + b) / 2) < b := by
  rcases hexact with hhalf | hsum
  · obtain ⟨hlow, hhigh⟩ := h.between ha2 hb2 hx2 (q := a + b) (by linarith) (by linarith) (by ring)
    rw [h.eq_of_mem hhalf]
    constructor <;> linarith
  · rw [h.eq_of_mem hsum]
    exact h.between ha hb hx hax hxb (by ring)

end NearestIn

end Library
