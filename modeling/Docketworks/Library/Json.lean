import Mathlib.Data.Rat.Defs
import Mathlib.Tactic.Common

/-!
# JSON values

The values of a JSON document, with numbers read exactly, the look-up of a key in an object, and
the comparison of two values.
-/

namespace Library

/-- A JSON value.  An object keeps its members in the order they were written. -/
inductive Json where
  | null
  | bool (b : Bool)
  | number (q : ℚ)
  | string (s : String)
  | array (items : List Json)
  | object (members : List (String × Json))
deriving Repr, Inhabited

namespace Json

/-- The members of a JSON object. -/
abbrev Members := List (String × Json)

/-- The value under `k`, the way a Python dictionary answers `get`. -/
def Members.get? (m : Members) (k : String) : Option Json :=
  (m.find? (fun member => member.1 = k)).map Prod.snd

/-- Whether a value is present and counts as true: false, null, zero and the empty string,
list and object do not. -/
def truthy : Json → Bool
  | .null => false
  | .bool b => b
  | .number q => q ≠ 0
  | .string s => s ≠ ""
  | .array items => !items.isEmpty
  | .object members => !members.isEmpty

/-! ## Equality -/

mutual
def same : Json → Json → Bool
  | .null, .null => true
  | .bool a, .bool b => a = b
  | .number a, .number b => a = b
  | .string a, .string b => a = b
  | .array as, .array bs => sameItems as bs
  | .object as, .object bs => sameMembers as bs
  | _, _ => false

def sameItems : List Json → List Json → Bool
  | [], [] => true
  | a :: as, b :: bs => same a b && sameItems as bs
  | _, _ => false

def sameMembers : List (String × Json) → List (String × Json) → Bool
  | [], [] => true
  | (k, a) :: as, (l, b) :: bs => k = l && same a b && sameMembers as bs
  | _, _ => false
end

mutual
lemma same_iff : ∀ a b : Json, same a b = true ↔ a = b
  | .null, b => by cases b <;> simp [same]
  | .bool a, b => by cases b <;> simp [same]
  | .number a, b => by cases b <;> simp [same]
  | .string a, b => by cases b <;> simp [same]
  | .array as, b => by cases b <;> simp [same, sameItems_iff as]
  | .object as, b => by cases b <;> simp [same, sameMembers_iff as]

lemma sameItems_iff : ∀ as bs : List Json, sameItems as bs = true ↔ as = bs
  | [], bs => by cases bs <;> simp [sameItems]
  | a :: as, bs => by cases bs <;> simp [sameItems, same_iff a, sameItems_iff as]

lemma sameMembers_iff : ∀ as bs : List (String × Json), sameMembers as bs = true ↔ as = bs
  | [], bs => by cases bs <;> simp [sameMembers]
  | (k, a) :: as, bs => by
      cases bs with
      | nil => simp [sameMembers]
      | cons b bs => obtain ⟨l, b⟩ := b; simp [sameMembers, same_iff a, sameMembers_iff as, and_assoc]
end

instance : DecidableEq Json := fun a b => decidable_of_iff _ (same_iff a b)

end Json

end Library
