import Docketworks.Core.Text
import Mathlib.Algebra.Group.Nat.Defs
import Mathlib.Data.List.DropRight
import Mathlib.Tactic.Common
import Mathlib.Data.Int.Notation

/-!
# Decimals as text

A decimal of some places, given as its number of units in the last place: `str(value)`, which keeps every
place, and `format(value.normalize(), "f")`, which drops the zeros at the end.

* `fixedText`, `normalText` — the two texts.
* `normalText_eq_fixedText_iff` — they are the same exactly where the last place is not zero.
* `Spaceless` — a text without white space, which `strip` leaves alone.
-/

namespace Docketworks

/-! ## Digits -/

/-- The last decimal digits of a number. -/
def fractionDigits : ℕ → ℕ → List Char
  | 0, _ => []
  | places + 1, n => fractionDigits places (n / 10) ++ [Nat.digitChar (n % 10)]

/-- The sign and the whole part. -/
def wholeText (places : ℕ) (units : ℤ) : String :=
  (if units < 0 then "-" else "") ++ toString (units.natAbs / 10 ^ places)

/-- `str(value)`. -/
def fixedText (places : ℕ) (units : ℤ) : String :=
  wholeText places units ++ "." ++ String.ofList (fractionDigits places units.natAbs)

/-- `format(value.normalize(), "f")`. -/
def normalText (places : ℕ) (units : ℤ) : String :=
  match (fractionDigits places units.natAbs).rdropWhile (· = '0') with
  | [] => wholeText places units
  | c :: digits => wholeText places units ++ "." ++ String.ofList (c :: digits)

lemma digitChar_eq_zero_iff : ∀ n < 10, Nat.digitChar n = '0' ↔ n = 0 := by decide

/-- **The two texts are the same** exactly where the last place is not zero. -/
theorem normalText_eq_fixedText_iff (places : ℕ) (units : ℤ) :
    normalText (places + 1) units = fixedText (places + 1) units ↔ units.natAbs % 10 ≠ 0 := by
  have hzero := digitChar_eq_zero_iff (units.natAbs % 10) (Nat.mod_lt _ (by decide))
  unfold normalText fixedText
  simp only [fractionDigits]
  by_cases hlast : units.natAbs % 10 = 0
  · -- the last zero goes, and with it at least a character
    rw [List.rdropWhile_concat_pos _ _ _ (by simpa using hzero.mpr hlast)]
    have hshort := (List.rdropWhile_prefix (· = '0')
      (l := fractionDigits places (units.natAbs / 10))).length_le
    refine ⟨fun h => ?_, fun h => absurd hlast h⟩
    have hlength := congrArg (fun text => text.toList.length) h
    split at hlength
    · simp at hlength
    · rename_i hkept
      rw [hkept] at hshort
      simp at hlength hshort
      omega
  · rw [List.rdropWhile_concat_neg _ _ _ (by simpa using fun h => hlast (hzero.mp h))]
    refine iff_of_true ?_ hlast
    split
    · rename_i hnil
      simp at hnil
    · rename_i hkept
      rw [← hkept]

/-! ## Texts without white space -/

/-- There is no white space in the text. -/
def Spaceless (text : String) : Prop := ∀ c ∈ text.toList, isPythonSpace c = false

instance (text : String) : Decidable (Spaceless text) :=
  decidable_of_iff (text.toList.all fun c => !isPythonSpace c) (by simp [Spaceless])

lemma Spaceless.append {text text' : String} (h : Spaceless text) (h' : Spaceless text') :
    Spaceless (text ++ text') := by
  intro c hc
  rw [String.toList_append, List.mem_append] at hc
  exact hc.elim (h c) (h' c)

lemma Spaceless.strip {text : String} (h : Spaceless text) : pythonStrip text = text := by
  have hdrop : ∀ cs : List Char, (∀ c ∈ cs, isPythonSpace c = false) → cs.dropWhile isPythonSpace = cs := by
    intro cs hcs
    rcases cs with _ | ⟨c, cs⟩
    · rfl
    · rw [List.dropWhile_cons_of_neg]
      rw [hcs c List.mem_cons_self]
      exact Bool.false_ne_true
  unfold pythonStrip
  rw [hdrop _ h, hdrop _ fun c hc => h c (List.mem_reverse.mp hc), List.reverse_reverse,
    String.ofList_toList]

lemma spaceless_digitChar : ∀ n < 10, isPythonSpace (Nat.digitChar n) = false := by decide

lemma spaceless_fractionDigits (places n : ℕ) :
    ∀ c ∈ fractionDigits places n, isPythonSpace c = false := by
  induction places generalizing n with
  | zero => exact fun c hc => absurd hc List.not_mem_nil
  | succ places ih =>
      intro c hc
      rcases List.mem_append.mp hc with hc | hc
      · exact ih _ c hc
      · rw [List.mem_singleton.mp hc]
        exact spaceless_digitChar _ (Nat.mod_lt _ (by decide))

lemma spaceless_toString (n : ℕ) : Spaceless (toString n) := by
  intro c hc
  rw [Nat.toString_eq_ofList_toDigits, String.toList_ofList] at hc
  have hdigit : c.isDigit = true := Nat.isDigit_of_mem_toDigits (by decide) (by decide) hc
  simp only [Char.isDigit, ge_iff_le, Bool.and_eq_true, decide_eq_true_eq, UInt32.le_iff_toNat_le] at hdigit
  have hlow : 48 ≤ c.toNat := hdigit.1
  have hhigh : c.toNat ≤ 57 := hdigit.2
  simp only [isPythonSpace, Bool.or_eq_false_iff, Bool.and_eq_false_iff, decide_eq_false_iff_not,
    beq_eq_false_iff_ne]
  omega

lemma spaceless_fixedText (places : ℕ) (units : ℤ) : Spaceless (fixedText places units) := by
  have hsign : Spaceless (if units < 0 then "-" else "") := by
    split <;> decide
  refine ((hsign.append (spaceless_toString _)).append (by decide)).append fun c hc => ?_
  rw [String.toList_ofList] at hc
  exact spaceless_fractionDigits places _ c hc

end Docketworks
