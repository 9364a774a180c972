import Mathlib.Algebra.BigOperators.Group.List.Basic
import Mathlib.Data.List.Nodup
import Mathlib.Tactic.Abel
import Mathlib.Tactic.Common

/-!
# Registers that name their own records

A register gives each record it makes the next number as its name and never gives a number twice.
The number moves on with every change, so a register that stands at the number it stood at has not
been changed.

* `find?`, `add`, `update`, `remove` — read a record by its name, make, change and remove one.
* `next_add`, `next_update`, `next_remove` — every change moves the number on.
* `sum` — a total over the records, and what each change does to it.
-/

namespace Library

/-- The records of a register and the next name it gives. -/
structure Register {ρ : Type} (key : ρ → ℕ) where
  rows : List ρ
  next : ℕ
  nodup : (rows.map key).Nodup
  below : ∀ r ∈ rows, key r < next

namespace Register

variable {ρ : Type} {key : ρ → ℕ}

/-- The register before its first record. -/
def empty : Register key := ⟨[], 0, List.nodup_nil, by simp⟩

/-- The record of a name. -/
def find? (t : Register key) (k : ℕ) : Option ρ := t.rows.find? fun r => key r = k

/-- Make a record. -/
def add (t : Register key) (make : ℕ → ρ) (hkey : ∀ k, key (make k) = k := by intro; rfl) :
    Register key where
  rows := t.rows ++ [make t.next]
  next := t.next + 1
  nodup := by
    rw [List.map_append, List.map_singleton, hkey]
    refine List.Nodup.append t.nodup (List.nodup_singleton _) (List.disjoint_singleton.mpr ?_)
    intro h
    obtain ⟨r, hr, hrk⟩ := List.mem_map.mp h
    have := t.below r hr
    omega
  below := by
    intro r hr
    rcases List.mem_append.mp hr with hr | hr
    · have := t.below r hr
      omega
    · obtain rfl := List.mem_singleton.mp hr
      rw [hkey]
      omega

/-- Change the record of a name. -/
def update (t : Register key) (k : ℕ) (f : ρ → ρ)
    (hkey : ∀ r, key (f r) = key r := by intro; rfl) : Register key where
  rows := t.rows.map fun r => if key r = k then f r else r
  next := t.next + 1
  nodup := by
    have h : (t.rows.map fun r => if key r = k then f r else r).map key = t.rows.map key := by
      rw [List.map_map]
      refine List.map_congr_left fun r _ => ?_
      by_cases hr : key r = k <;> simp [hr, hkey]
    rw [h]
    exact t.nodup
  below := by
    intro r hr
    obtain ⟨r', hr', rfl⟩ := List.mem_map.mp hr
    have := t.below r' hr'
    split
    · rw [hkey]
      omega
    · omega

/-- Remove the record of a name. -/
def remove (t : Register key) (k : ℕ) : Register key where
  rows := t.rows.filter fun r => key r ≠ k
  next := t.next + 1
  nodup := t.nodup.sublist (List.filter_sublist.map key)
  below := by
    intro r hr
    have := t.below r (List.mem_of_mem_filter hr)
    omega

variable {t : Register key} {k : ℕ} {r r' : ρ} {make : ℕ → ρ} {f : ρ → ρ}
  {hmake : ∀ k, key (make k) = k}

@[simp] lemma rows_add : (t.add make hmake).rows = t.rows ++ [make t.next] := rfl

@[simp] lemma rows_update {hf : ∀ r, key (f r) = key r} :
    (t.update k f hf).rows = t.rows.map fun r => if key r = k then f r else r := rfl

@[simp] lemma rows_remove : (t.remove k).rows = t.rows.filter fun r => key r ≠ k := rfl

@[simp] lemma next_add : (t.add make hmake).next = t.next + 1 := rfl

@[simp] lemma next_update {hf : ∀ r, key (f r) = key r} : (t.update k f hf).next = t.next + 1 := rfl

@[simp] lemma next_remove : (t.remove k).next = t.next + 1 := rfl

lemma eq_of_key_eq (h : r ∈ t.rows) (h' : r' ∈ t.rows) (hkey : key r = key r') : r = r' :=
  List.inj_on_of_nodup_map t.nodup h h' hkey

lemma find?_of_mem (h : r ∈ t.rows) : t.find? (key r) = some r := by
  rcases hfind : t.find? (key r) with _ | r'
  · have := List.find?_eq_none.mp hfind r h
    simp at this
  · have hmem : r' ∈ t.rows := List.mem_of_find?_eq_some hfind
    have hkey : key r' = key r := by simpa using List.find?_some hfind
    rw [eq_of_key_eq hmem h hkey]

lemma mem_update (hf : ∀ r, key (f r) = key r) : r ∈ (t.update k f hf).rows ↔
    (r ∈ t.rows ∧ key r ≠ k) ∨ ∃ r' ∈ t.rows, key r' = k ∧ r = f r' := by
  simp only [rows_update, List.mem_map]
  constructor
  · rintro ⟨r', hr', rfl⟩
    by_cases hk : key r' = k
    · exact .inr ⟨r', hr', hk, by simp [hk]⟩
    · exact .inl (by simp [hk, hr'])
  · rintro (⟨hr, hk⟩ | ⟨r', hr', hk, rfl⟩)
    · exact ⟨r, hr, by simp [hk]⟩
    · exact ⟨r', hr', by simp [hk]⟩

lemma filter_update {p : ρ → Bool} (hf : ∀ r, key (f r) = key r)
    (hbefore : ∀ r ∈ t.rows, key r = k → p r = false)
    (hafter : ∀ r ∈ t.rows, key r = k → p (f r) = false) :
    (t.update k f hf).rows.filter p = t.rows.filter p := by
  rw [rows_update]
  generalize t.rows = rows at hbefore hafter
  induction rows with
  | nil => rfl
  | cons r rows ih =>
      have ih := ih (fun r hr => hbefore r (List.mem_cons_of_mem _ hr))
        fun r hr => hafter r (List.mem_cons_of_mem _ hr)
      rw [List.map_cons]
      by_cases hk : key r = k
      · have hr := hbefore r List.mem_cons_self hk
        have hr' := hafter r List.mem_cons_self hk
        rw [if_pos hk, List.filter_cons_of_neg (by simp [hr']), List.filter_cons_of_neg (by simp [hr]),
          ih]
      · rw [if_neg hk, List.filter_cons, List.filter_cons, ih]

lemma filter_remove {p : ρ → Bool} (h : ∀ r ∈ t.rows, key r = k → p r = false) :
    (t.remove k).rows.filter p = t.rows.filter p := by
  rw [rows_remove, List.filter_filter]
  refine List.filter_congr fun r hr => ?_
  by_cases hk : key r = k
  · simp [h r hr hk]
  · simp [hk]

/-! ## Totals -/

section Sum

variable {M : Type} [AddCommGroup M] {w : ρ → M}

/-- The total of the weight `w` over the records. -/
def sum (t : Register key) (w : ρ → M) : M := (t.rows.map w).sum

@[simp] lemma sum_add : (t.add make hmake).sum w = t.sum w + w (make t.next) := by
  simp [sum]

lemma sum_update (hf : ∀ r, key (f r) = key r) (hr : r ∈ t.rows) :
    (t.update (key r) f hf).sum w = t.sum w - w r + w (f r) := by
  have hnodup := t.nodup
  unfold sum
  rw [rows_update]
  generalize t.rows = rows at hr hnodup
  induction rows with
  | nil => cases hr
  | cons first rows ih =>
      rw [List.map_cons, List.nodup_cons] at hnodup
      simp only [List.map_cons, List.sum_cons]
      rcases List.mem_cons.mp hr with rfl | hr
      · have hrest : (rows.map fun x => if key x = key r then f x else x) = rows := by
          refine (List.map_congr_left fun x hx => if_neg fun h => hnodup.1 ?_).trans (List.map_id _)
          exact h ▸ List.mem_map_of_mem hx
        rw [if_pos rfl, hrest]
        abel
      · have hne : key first ≠ key r := fun h => hnodup.1 (h ▸ List.mem_map_of_mem hr)
        rw [if_neg hne, ih hr hnodup.2]
        abel

lemma sum_remove (hr : r ∈ t.rows) : (t.remove (key r)).sum w = t.sum w - w r := by
  have hnodup := t.nodup
  unfold sum
  rw [rows_remove]
  generalize t.rows = rows at hr hnodup
  induction rows with
  | nil => cases hr
  | cons first rows ih =>
      rw [List.map_cons, List.nodup_cons] at hnodup
      rcases List.mem_cons.mp hr with rfl | hr
      · have hrest : (rows.filter fun x => key x ≠ key r) = rows := by
          refine List.filter_eq_self.mpr fun x hx => ?_
          simpa using fun h : key x = key r => hnodup.1 (h ▸ List.mem_map_of_mem hx)
        rw [List.filter_cons_of_neg (by simp), hrest]
        simp
      · have hne : key first ≠ key r := fun h => hnodup.1 (h ▸ List.mem_map_of_mem hr)
        rw [List.filter_cons_of_pos (by simpa using hne), List.map_cons, List.sum_cons, ih hr hnodup.2,
          List.map_cons, List.sum_cons]
        abel

end Sum

end Register

end Library
