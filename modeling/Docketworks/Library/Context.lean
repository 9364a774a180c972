import Docketworks.Library.Column
import Mathlib.Data.Int.Log

/-!
# Decimal arithmetic in a context

A decimal library keeps 28 digits of a result and rounds the rest, halves to even.

* `inContext`, `sumInContext` — a result, and a running sum, as the library has them.
* `inContext_of_fits`, `sumInContext_of_fits` — of no more digits, they are exact.
-/

namespace Library

variable {p : ℕ} {q : ℚ} {values : List ℚ}

/-- A result of more digits than its context has: 28, halves to even. -/
def inContext (q : ℚ) : ℚ := roundHalfEven (27 - Int.log 10 |q|).toNat q

def sumInContext (values : List ℚ) : ℚ := values.foldl (fun sum value => inContext (sum + value)) 0

lemma inContext_of_fits (hp : p ≤ 28) (h : Fits 28 p q) : inContext q = q := by
  refine roundHalfEven_of_isDecimal ?_
  rcases eq_or_ne q 0 with rfl | hq
  · exact isDecimal_zero
  · have hlog : Int.log 10 |q| < ((28 - p : ℕ) : ℤ) :=
      (Int.lt_zpow_iff_log_lt (by decide) (abs_pos.mpr hq)).mp (by exact_mod_cast h.2)
    exact h.1.mono (by omega)

lemma sumInContext_of_fits (hp : p ≤ 28) (hvalues : ∀ value ∈ values, IsDecimal p value)
    (hsum : (values.map abs).sum < 10 ^ (28 - p)) : sumInContext values = values.sum := by
  suffices h : ∀ start : ℚ, IsDecimal p start → |start| + (values.map abs).sum < 10 ^ (28 - p) →
      values.foldl (fun sum value => inContext (sum + value)) start = start + values.sum by
    exact (h 0 isDecimal_zero (by simpa using hsum)).trans (zero_add _)
  clear hsum
  induction values with
  | nil => exact fun start _ _ => (add_zero _).symm
  | cons value values ih =>
      intro start hstart hbound
      rw [List.map_cons, List.sum_cons] at hbound
      have hrest : 0 ≤ (values.map abs).sum := List.sum_nonneg (by simp)
      have hnext : IsDecimal p (start + value) := hstart.add (hvalues _ List.mem_cons_self)
      have habs : |start + value| ≤ |start| + |value| := abs_add_le _ _
      have hexact : inContext (start + value) = start + value :=
        inContext_of_fits hp ⟨hnext, by linarith⟩
      rw [List.foldl_cons, hexact, ih (fun v hv => hvalues v (List.mem_cons_of_mem _ hv)) _ hnext (by linarith),
        List.sum_cons, add_assoc]

end Library
