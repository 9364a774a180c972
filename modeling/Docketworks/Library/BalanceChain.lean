import Mathlib.Algebra.BigOperators.Group.List.Basic
import Mathlib.Tactic.Abel

/-!
# Chains of balance entries

A ledger account as the list of its entries.  An entry records the balance it met, the change it
made and the balance it left; the entries chain when each meets what the one before it left.

* `Entry M` — the balance before, the change and the balance after.
* `Chains opening entries` — the first entry meets `opening`, each later one the balance its
  predecessor left, and each entry leaves what it met plus its change.
* `Chains.append` — posting an entry at the closing balance keeps the chain.
* `Chains.closing_eq` — the closing balance is the opening one plus the sum of the changes.
-/

namespace Library

/-- An entry of an account: the balance it met, the change, the balance it left. -/
structure Entry (M : Type) where
  before : M
  change : M
  after : M

namespace Entry

variable {M : Type} [AddCommGroup M]

/-- Each entry meets the balance the previous one left, and adds its change to it. -/
def Chains (opening : M) : List (Entry M) → Prop
  | [] => True
  | e :: es => e.before = opening ∧ e.after = e.before + e.change ∧ Chains e.after es

/-- The balance the last entry left. -/
def closing (opening : M) : List (Entry M) → M
  | [] => opening
  | e :: es => closing e.after es

variable {opening : M} {es : List (Entry M)}

lemma Chains.closing_eq (h : Chains opening es) :
    closing opening es = opening + (es.map Entry.change).sum := by
  induction es generalizing opening with
  | nil => simp [closing]
  | cons e es ih =>
      obtain ⟨hbefore, hafter, hrest⟩ := h
      calc closing opening (e :: es)
          = e.after + (es.map Entry.change).sum := ih hrest
        _ = opening + ((e :: es).map Entry.change).sum := by
            rw [hafter, hbefore, List.map_cons, List.sum_cons, add_assoc]

omit [AddCommGroup M] in
lemma closing_concat (opening : M) (es : List (Entry M)) (e : Entry M) :
    closing opening (es ++ [e]) = e.after := by
  induction es generalizing opening with
  | nil => rfl
  | cons x xs ih => exact ih x.after

lemma Chains.append (h : Chains opening es) {e : Entry M} (hbefore : e.before = closing opening es)
    (hafter : e.after = e.before + e.change) : Chains opening (es ++ [e]) := by
  induction es generalizing opening with
  | nil => exact ⟨hbefore, hafter, trivial⟩
  | cons x xs ih => exact ⟨h.1, h.2.1, ih h.2.2 hbefore⟩

lemma Chains.of_append {es' : List (Entry M)} (h : Chains opening (es ++ es')) : Chains opening es := by
  induction es generalizing opening with
  | nil => trivial
  | cons x xs ih => exact ⟨h.1, h.2.1, ih h.2.2⟩

lemma Chains.before_of_concat {e : Entry M} (h : Chains opening (es ++ [e])) :
    e.before = closing opening es := by
  induction es generalizing opening with
  | nil => exact h.1
  | cons x xs ih => exact ih h.2.2

lemma Chains.after_of_mem (h : Chains opening es) {e : Entry M} (he : e ∈ es) :
    e.after = e.before + e.change := by
  induction es generalizing opening with
  | nil => cases he
  | cons x xs ih =>
      rcases List.mem_cons.mp he with rfl | hmem
      · exact h.2.1
      · exact ih h.2.2 hmem

end Entry

end Library
