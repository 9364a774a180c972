import Mathlib.Tactic.Common

/-!
# A key held on a lease

A key of a shared cache, set for a time.  Whoever adds it while it is free holds it until the time is
over; touching it gives it more time, whoever holds it, and deleting it frees it, whoever holds it.

* `Lease` — who holds the key, and until when.
* `get`, `add`, `touch`, `delete` — the cache's calls, each atomic.
* `foreign` — somebody else holds the key.
* `get_of_le` — who holds the key later holds it now.
-/

namespace Library

/-- Who holds a key, and from when on no longer. -/
structure Lease (ω : Type) where
  owner : ω
  expires : ℕ
deriving DecidableEq, Repr

namespace Lease

variable {ω : Type}

/-- The owner of the key, while the lease runs. -/
def get (key : Option (Lease ω)) (now : ℕ) : Option ω :=
  key.bind fun lease => if now < lease.expires then some lease.owner else none

/-- The key set for a time, if nobody holds it: whether it was, and the key. -/
def add (key : Option (Lease ω)) (now : ℕ) (owner : ω) (timeout : ℕ) : Bool × Option (Lease ω) :=
  match get key now with
  | none => (true, some ⟨owner, now + timeout⟩)
  | some _ => (false, key)

/-- The key's time set anew, if anybody holds it: whether somebody does, and the key. -/
def touch (key : Option (Lease ω)) (now timeout : ℕ) : Bool × Option (Lease ω) :=
  match get key now with
  | none => (false, key)
  | some owner => (true, some ⟨owner, now + timeout⟩)

/-- The key removed. -/
def delete : Option (Lease ω) := none

/-- Somebody else holds the key. -/
def foreign [DecidableEq ω] (key : Option (Lease ω)) (now : ℕ) (who : ω) : Bool :=
  (get key now).any fun owner => owner ≠ who

variable {key : Option (Lease ω)} {now later timeout : ℕ} {owner who : ω}

@[simp] lemma get_none : get (none : Option (Lease ω)) now = none := rfl

lemma get_eq_some_iff :
    get key now = some owner ↔ ∃ lease, key = some lease ∧ lease.owner = owner ∧ now < lease.expires := by
  unfold get
  rw [Option.bind_eq_some_iff]
  refine exists_congr fun lease => and_congr_right fun _ => ?_
  split
  · rename_i hnow
    simp [hnow]
  · rename_i hnow
    simp [hnow]

lemma get_of_le (hle : now ≤ later) (h : get key later = some owner) : get key now = some owner := by
  obtain ⟨lease, hkey, howner, hlater⟩ := get_eq_some_iff.mp h
  exact get_eq_some_iff.mpr ⟨lease, hkey, howner, Nat.lt_of_le_of_lt hle hlater⟩

lemma add_of_free (h : get key now = none) :
    add key now who timeout = (true, some ⟨who, now + timeout⟩) := by
  unfold add
  rw [h]

lemma add_of_held (h : get key now = some owner) : add key now who timeout = (false, key) := by
  unfold add
  rw [h]

lemma touch_of_free (h : get key now = none) : touch key now timeout = (false, key) := by
  unfold touch
  rw [h]

lemma touch_of_held (h : get key now = some owner) :
    touch key now timeout = (true, some ⟨owner, now + timeout⟩) := by
  unfold touch
  rw [h]

lemma eq_of_get_set (h : get (some ⟨who, now + timeout⟩) later = some owner) : owner = who := by
  obtain ⟨lease, hkey, howner, -⟩ := get_eq_some_iff.mp h
  rw [← howner, ← Option.some.inj hkey]

lemma foreign_eq_false_iff [DecidableEq ω] :
    foreign key now who = false ↔ ∀ owner, get key now = some owner → owner = who := by
  unfold foreign
  cases hget : get key now with
  | none => simp
  | some owner => simp

end Lease

end Library
