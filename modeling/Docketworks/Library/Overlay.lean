import Mathlib.Data.List.Induction
import Docketworks.Library.Table

/-!
# Writes that are not committed

A transaction reads the table under its own writes, and the table becomes what it read when it commits.

* `Write`, `overlay t ws` — the table under some writes, the last of a key deciding.
* `written ws k` — what the writes leave under a key: nothing said, gone, or a row.
* `find?_overlay` — a key is read from the writes, else from the table.
-/

namespace Library

variable {ρ κ : Type} [DecidableEq κ] {key : ρ → κ}

/-- A row written, or a key deleted. -/
inductive Write (ρ κ : Type) where
  | put (row : ρ)
  | erase (k : κ)
deriving DecidableEq, Repr

namespace Table

def write (t : Table key) : Write ρ κ → Table key
  | .put row => t.upsert row
  | .erase k => t.erase k

/-- The table under some writes, the oldest first. -/
def overlay (t : Table key) (ws : List (Write ρ κ)) : Table key := ws.foldl write t

end Table

def Write.leaves (key : ρ → κ) (k : κ) : Write ρ κ → Option (Option ρ)
  | .put row => if key row = k then some (some row) else none
  | .erase k' => if k' = k then some none else none

/-- What the writes leave under a key: the last that touches it. -/
def written (key : ρ → κ) (ws : List (Write ρ κ)) (k : κ) : Option (Option ρ) :=
  ws.reverse.findSome? (Write.leaves key k)

namespace Table

variable {t : Table key} {ws : List (Write ρ κ)} {w : Write ρ κ} {k : κ} {r : ρ}

lemma find?_write : (t.write w).find? k = (w.leaves key k).getD (t.find? k) := by
  cases w with
  | put row =>
      simp only [write, Write.leaves]
      by_cases hkey : key row = k
      · rw [if_pos hkey, ← hkey, find?_upsert_self]
        rfl
      · rw [if_neg hkey, find?_upsert_of_ne fun heq => hkey heq.symm]
        rfl
  | erase k' =>
      simp only [write, Write.leaves]
      by_cases hkey : k' = k
      · rw [if_pos hkey, ← hkey, find?_erase_self]
        rfl
      · rw [if_neg hkey, find?_erase_of_ne fun heq => hkey heq.symm]
        rfl

@[simp] lemma overlay_nil : t.overlay [] = t := rfl

lemma overlay_append_singleton : t.overlay (ws ++ [w]) = (t.overlay ws).write w := by
  simp [overlay]

end Table

section Written

variable {ws : List (Write ρ κ)} {w : Write ρ κ} {k : κ} {r : ρ}

@[simp] lemma written_nil : written key ([] : List (Write ρ κ)) k = none := rfl

lemma written_append_singleton : written key (ws ++ [w]) k = (w.leaves key k).or (written key ws k) := by
  unfold written
  rw [List.reverse_append, List.reverse_singleton, List.singleton_append, List.findSome?_cons]
  cases w.leaves key k <;> rfl

end Written

/-- **Reading under one's own writes.** -/
theorem Table.find?_overlay {t : Table key} {ws : List (Write ρ κ)} {k : κ} :
    (t.overlay ws).find? k = (written key ws k).getD (t.find? k) := by
  induction ws using List.reverseRecOn with
  | nil => rfl
  | append_singleton ws w ih =>
      rw [overlay_append_singleton, find?_write, ih, written_append_singleton]
      cases w.leaves key k <;> rfl

end Library
