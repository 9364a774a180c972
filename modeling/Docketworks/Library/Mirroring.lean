import Mathlib.Data.List.Count
import Mathlib.Data.List.Nodup
import Mathlib.Data.List.Perm.Basic
import Mathlib.Data.Option.Basic

/-!
# Rows written over from a list of items

Each item of a list is written over the row of its identity, or put as a new row; no row is taken away.

* `Mirror` — how an item finds its row, writes it and makes it, and what is read of either.
* `Mirror.put`, `Mirror.puts` — one item, and a list of them.
* `Mirror.perm_iff` — when the rows say exactly what the items ask for.

**Design.**  Some rows are held: what is asked of the others is that they are the items of no held row.
An identity may be missing from a row, never from an item.
-/

namespace Library

/-- Rows `ρ` under identities `κ`, written over from items `ι`; `σ` is what is read of both. -/
structure Mirror (ρ ι κ σ : Type) where
  ident : ρ → Option κ
  key : ι → κ
  write : ι → ρ → ρ
  make : ι → ρ
  said : ρ → σ
  asked : ι → σ
  held : ρ → Bool
  ident_write : ∀ i r, ident r = some (key i) → ident (write i r) = some (key i)
  ident_make : ∀ i, ident (make i) = some (key i)
  said_write : ∀ i r, ident r = some (key i) → said (write i r) = said (make i)
  held_write : ∀ i r, held (write i r) = held r
  held_make : ∀ i, held (make i) = false
  identOf : σ → Option κ
  identOf_said : ∀ r, identOf (said r) = ident r
  identOf_asked : ∀ i, identOf (asked i) = some (key i)

namespace Mirror

variable {ρ ι κ σ : Type} [DecidableEq κ] (m : Mirror ρ ι κ σ)

/-- The row is the item's. -/
def IsOf (i : ι) (r : ρ) : Prop := m.ident r = some (m.key i)

instance (i : ι) (r : ρ) : Decidable (m.IsOf i r) := inferInstanceAs (Decidable (_ = _))

/-- One item: written over the rows that are its, or put as a new one. -/
def put (rows : List ρ) (i : ι) : List ρ :=
  if rows.any fun r => m.IsOf i r then rows.map fun r => if m.IsOf i r then m.write i r else r
  else rows ++ [m.make i]

/-- A list of items, one after another. -/
def puts (rows : List ρ) (items : List ι) : List ρ :=
  items.foldl m.put rows

/-- How many rows are under an identity. -/
def count (rows : List ρ) (k : κ) : ℕ :=
  rows.countP fun r => m.ident r = some k

/-- The items that no held row is of. -/
def wanted (rows : List ρ) (items : List ι) : List ι :=
  items.filter fun i => !rows.any fun r => m.held r && m.IsOf i r

variable {m} {rows : List ρ} {items : List ι} {i : ι} {r : ρ} {k : κ}

/-! ## One item -/

lemma mem_put : r ∈ m.put rows i ↔
    (r ∈ rows ∧ ¬m.IsOf i r) ∨ (∃ r' ∈ rows, m.IsOf i r' ∧ r = m.write i r') ∨
      (∀ r' ∈ rows, ¬m.IsOf i r') ∧ r = m.make i := by
  unfold put
  split <;> rename_i hany
  · rw [List.any_eq_true] at hany
    obtain ⟨old, hold, hof⟩ := hany
    have hof : m.IsOf i old := of_decide_eq_true hof
    rw [List.mem_map]
    constructor
    · rintro ⟨r', hr', rfl⟩
      split <;> rename_i h
      exacts [.inr (.inl ⟨r', hr', h, rfl⟩), .inl ⟨hr', h⟩]
    · rintro (⟨hr, hnot⟩ | ⟨r', hr', h, rfl⟩ | ⟨hnone, -⟩)
      · exact ⟨r, hr, if_neg hnot⟩
      · exact ⟨r', hr', if_pos h⟩
      · exact absurd hof (hnone old hold)
  · have hnone : ∀ r' ∈ rows, ¬m.IsOf i r' := by simpa using hany
    rw [List.mem_append, List.mem_singleton]
    constructor
    · rintro (hr | rfl)
      exacts [.inl ⟨hr, hnone r hr⟩, .inr (.inr ⟨hnone, rfl⟩)]
    · rintro (⟨hr, -⟩ | ⟨r', hr', h, -⟩ | ⟨-, rfl⟩)
      exacts [.inl hr, absurd h (hnone r' hr'), .inr rfl]

lemma exists_put_of_mem (m : Mirror ρ ι κ σ) (i : ι) (hr : r ∈ rows) :
    ∃ r' ∈ m.put rows i, m.ident r' = m.ident r ∧ m.held r' = m.held r := by
  by_cases hof : m.IsOf i r
  · refine ⟨m.write i r, mem_put.mpr (.inr (.inl ⟨r, hr, hof, rfl⟩)), ?_, m.held_write i r⟩
    rw [m.ident_write i r hof, show m.ident r = _ from hof]
  · exact ⟨r, mem_put.mpr (.inl ⟨hr, hof⟩), rfl, rfl⟩

lemma exists_put (m : Mirror ρ ι κ σ) (rows : List ρ) (i : ι) : ∃ r ∈ m.put rows i, m.IsOf i r := by
  by_cases h : ∃ r' ∈ rows, m.IsOf i r'
  · obtain ⟨r', hr', hof⟩ := h
    exact ⟨m.write i r', mem_put.mpr (.inr (.inl ⟨r', hr', hof, rfl⟩)), m.ident_write i r' hof⟩
  · push Not at h
    exact ⟨m.make i, mem_put.mpr (.inr (.inr ⟨h, rfl⟩)), m.ident_make i⟩

lemma held_of_mem_put (hr : r ∈ m.put rows i) (hheld : m.held r = true) :
    ∃ r' ∈ rows, m.held r' = true ∧ m.ident r' = m.ident r := by
  obtain ⟨hr, -⟩ | ⟨r', hr', hof, rfl⟩ | ⟨-, rfl⟩ := mem_put.mp hr
  · exact ⟨r, hr, hheld, rfl⟩
  · exact ⟨r', hr', m.held_write i r' ▸ hheld, hof.trans (m.ident_write i r' hof).symm⟩
  · rw [m.held_make] at hheld
    cases hheld

lemma count_put : m.count (m.put rows i) k =
    if k = m.key i ∧ m.count rows k = 0 then 1 else m.count rows k := by
  unfold put count
  split <;> rename_i hany
  · rw [List.countP_map]
    have hsame : rows.countP ((fun r => decide (m.ident r = some k)) ∘
        fun r => if m.IsOf i r then m.write i r else r) = rows.countP fun r => m.ident r = some k := by
      refine List.countP_congr fun r _ => ?_
      simp only [Function.comp_apply, decide_eq_true_eq]
      split <;> rename_i h
      · rw [m.ident_write i r h, show m.ident r = _ from h]
      · rfl
    rw [hsame, if_neg]
    rintro ⟨rfl, hzero⟩
    obtain ⟨r, hr, hof⟩ := List.any_eq_true.mp hany
    exact List.countP_eq_zero.mp hzero r hr hof
  · have hnone : ∀ r ∈ rows, ¬m.IsOf i r := by simpa using hany
    rw [List.countP_append, List.countP_singleton, m.ident_make]
    by_cases hk : k = m.key i
    · subst hk
      have hzero : rows.countP (fun r => m.ident r = some (m.key i)) = 0 :=
        List.countP_eq_zero.mpr fun r hr => by simpa [IsOf] using hnone r hr
      simp [hzero]
    · simp [hk, Ne.symm hk]

lemma count_le_count_put : m.count rows k ≤ m.count (m.put rows i) k := by
  rw [count_put]
  split <;> omega

lemma count_put_le (h : m.count rows k ≤ 1) : m.count (m.put rows i) k ≤ 1 := by
  rw [count_put]
  split <;> omega

lemma count_puts_le (h : m.count rows k ≤ 1) : m.count (m.puts rows items) k ≤ 1 := by
  induction items generalizing rows with
  | nil => exact h
  | cons i items ih => exact ih (count_put_le h)

/-! ## A list of items -/

lemma exists_puts_of_mem (m : Mirror ρ ι κ σ) (items : List ι) (hr : r ∈ rows) :
    ∃ r' ∈ m.puts rows items, m.ident r' = m.ident r ∧ m.held r' = m.held r := by
  induction items generalizing rows r with
  | nil => exact ⟨r, hr, rfl, rfl⟩
  | cons i items ih =>
      obtain ⟨r', hr', hident, hheld⟩ := m.exists_put_of_mem i hr
      obtain ⟨r'', hr'', hident', hheld'⟩ := ih hr'
      exact ⟨r'', hr'', hident'.trans hident, hheld'.trans hheld⟩

lemma exists_puts (m : Mirror ρ ι κ σ) (rows : List ρ) (hi : i ∈ items) :
    ∃ r ∈ m.puts rows items, m.IsOf i r := by
  induction items generalizing rows with
  | nil => cases hi
  | cons first items ih =>
      obtain rfl | hi := List.mem_cons.mp hi
      · obtain ⟨r, hr, hof⟩ := m.exists_put rows i
        obtain ⟨r', hr', hident, -⟩ := m.exists_puts_of_mem items hr
        exact ⟨r', hr', hident.trans hof⟩
      · exact ih _ hi

lemma held_of_mem_puts (hr : r ∈ m.puts rows items) (hheld : m.held r = true) :
    ∃ r' ∈ rows, m.held r' = true ∧ m.ident r' = m.ident r := by
  induction items generalizing rows with
  | nil => exact ⟨r, hr, hheld, rfl⟩
  | cons i items ih =>
      obtain ⟨r', hr', hheld', hident⟩ := ih hr
      obtain ⟨r'', hr'', hheld'', hident'⟩ := held_of_mem_put hr' hheld'
      exact ⟨r'', hr'', hheld'', hident'.trans hident⟩

lemma of_mem_puts (hr : r ∈ m.puts rows items) :
    (r ∈ rows ∧ ∀ i ∈ items, ¬m.IsOf i r) ∨ ∃ i ∈ items, m.IsOf i r ∧ m.said r = m.said (m.make i) := by
  induction items generalizing rows with
  | nil => exact .inl ⟨hr, nofun⟩
  | cons first items ih =>
      obtain ⟨hput, hnone⟩ | ⟨i, hi, hsaid⟩ := ih hr
      · obtain ⟨hold, hnot⟩ | ⟨r', -, hof, rfl⟩ | ⟨-, rfl⟩ := mem_put.mp hput
        · refine .inl ⟨hold, fun i hi => ?_⟩
          obtain rfl | hi := List.mem_cons.mp hi
          exacts [hnot, hnone i hi]
        · exact .inr ⟨first, List.mem_cons_self, m.ident_write first r' hof, m.said_write first r' hof⟩
        · exact .inr ⟨first, List.mem_cons_self, m.ident_make first, rfl⟩
      · exact .inr ⟨i, List.mem_cons_of_mem _ hi, hsaid⟩

lemma eq_of_count_le {r' : ρ} (hcount : m.count rows k ≤ 1) (hr : r ∈ rows) (hr' : r' ∈ rows)
    (hk : m.ident r = some k) (hk' : m.ident r' = some k) : r = r' := by
  unfold count at hcount
  rw [List.countP_eq_length_filter] at hcount
  have hmem : r ∈ rows.filter fun r => m.ident r = some k := List.mem_filter.mpr ⟨hr, decide_eq_true hk⟩
  have hmem' : r' ∈ rows.filter fun r => m.ident r = some k :=
    List.mem_filter.mpr ⟨hr', decide_eq_true hk'⟩
  match rows.filter fun r => m.ident r = some k, hcount, hmem, hmem' with
  | [_], _, hmem, hmem' => exact (List.mem_singleton.mp hmem).trans (List.mem_singleton.mp hmem').symm

lemma mem_wanted : i ∈ m.wanted rows items ↔
    i ∈ items ∧ ∀ r ∈ rows, m.held r = true → ¬m.IsOf i r := by
  simp [wanted]

/-! ## Exactly what is asked for -/

section Exactly

variable (hcount : ∀ i ∈ items, m.count rows (m.key i) ≤ 1)
include hcount

lemma wanted_of_free (hi : i ∈ items) (hr : r ∈ m.puts rows items) (hof : m.IsOf i r)
    (hfree : m.held r = false) : i ∈ m.wanted rows items := by
  refine mem_wanted.mpr ⟨hi, fun r' hr' hheld hof' => ?_⟩
  obtain ⟨r'', hr'', hident, hheld'⟩ := m.exists_puts_of_mem items hr'
  have heq : r = r'' := eq_of_count_le (count_puts_le (hcount i hi)) hr hr'' hof (hident.trans hof')
  rw [heq, hheld', hheld] at hfree
  cases hfree

lemma count_ident_le (hi : i ∈ items) :
    (((m.puts rows items).filter fun r => !m.held r).map m.ident).count (some (m.key i)) ≤ 1 := by
  calc (((m.puts rows items).filter fun r => !m.held r).map m.ident).count (some (m.key i))
      ≤ ((m.puts rows items).map m.ident).count (some (m.key i)) :=
        (List.filter_sublist.map m.ident).count_le _
    _ = m.count (m.puts rows items) (m.key i) := by
        unfold count List.count
        rw [List.countP_map]
        exact List.countP_congr fun r _ => by simp
    _ ≤ 1 := count_puts_le (hcount i hi)

/-- **Exactly the items.**  The rows that are not held say what the wanted items ask for just when each
of them was an item's before, no two wanted items are of one identity, and a wanted item makes what it asks
for. -/
theorem perm_iff :
    (((m.puts rows items).filter fun r => !m.held r).map m.said).Perm ((m.wanted rows items).map m.asked) ↔
      (∀ r ∈ rows, m.held r = false → ∃ i ∈ items, m.IsOf i r) ∧
        ((m.wanted rows items).map m.key).Nodup ∧
          ∀ i ∈ m.wanted rows items, m.said (m.make i) = m.asked i := by
  have hasked (s : σ) (hs : s ∈ (m.wanted rows items).map m.asked) :
      ∃ i ∈ m.wanted rows items, m.asked i = s := List.mem_map.mp hs
  have hkeys : ((m.wanted rows items).map m.asked).map m.identOf =
      ((m.wanted rows items).map m.key).map some := by
    rw [List.map_map, List.map_map]
    exact List.map_congr_left fun i _ => m.identOf_asked i
  have hidents : (((m.puts rows items).filter fun r => !m.held r).map m.said).map m.identOf =
      ((m.puts rows items).filter fun r => !m.held r).map m.ident := by
    rw [List.map_map]
    exact List.map_congr_left fun r _ => m.identOf_said r
  -- with distinct keys, what a free row says is what its one wanted item makes
  have hmade (hnodup : ((m.wanted rows items).map m.key).Nodup) {i : ι} {r : ρ}
      (hi : i ∈ m.wanted rows items) (hr : r ∈ m.puts rows items) (hof : m.IsOf i r)
      (hfree : m.held r = false) : m.said r = m.said (m.make i) := by
    obtain ⟨-, hnone⟩ | ⟨j, hj, hofj, hsaid⟩ := of_mem_puts hr
    · exact absurd hof (hnone i (mem_wanted.mp hi).1)
    · have hkey : m.key j = m.key i := Option.some.inj (hofj.symm.trans hof)
      have hj : j ∈ m.wanted rows items := wanted_of_free hcount hj hr hofj hfree
      rw [hsaid, List.inj_on_of_nodup_map hnodup hj hi hkey]
  constructor
  · intro hperm
    have hnodup : ((m.wanted rows items).map m.key).Nodup := by
      refine List.Nodup.of_map some (List.nodup_iff_count_le_one.mpr fun o => ?_)
      by_cases ho : o ∈ ((m.wanted rows items).map m.key).map some
      · obtain ⟨_, hk, rfl⟩ := List.mem_map.mp ho
        obtain ⟨i, hi, rfl⟩ := List.mem_map.mp hk
        rw [← hkeys, ← (hperm.map m.identOf).count_eq, hidents]
        exact count_ident_le hcount (mem_wanted.mp hi).1
      · rw [List.count_eq_zero_of_not_mem ho]
        exact Nat.zero_le 1
    refine ⟨fun r hr hfree => ?_, hnodup, fun i hi => ?_⟩
    · obtain ⟨r', hr', hident, hheld⟩ := m.exists_puts_of_mem items hr
      have hsaid : m.said r' ∈ ((m.puts rows items).filter fun r => !m.held r).map m.said :=
        List.mem_map_of_mem (List.mem_filter.mpr ⟨hr', by rw [hheld, hfree]; rfl⟩)
      obtain ⟨i, hi, heq⟩ := hasked _ (hperm.mem_iff.mp hsaid)
      refine ⟨i, (mem_wanted.mp hi).1, ?_⟩
      rw [IsOf, ← hident, ← m.identOf_said, ← heq, m.identOf_asked]
    · obtain ⟨r, hr, heq⟩ := List.mem_map.mp (hperm.mem_iff.mpr (List.mem_map_of_mem hi))
      obtain ⟨hr, hfree⟩ := List.mem_filter.mp hr
      have hof : m.IsOf i r := by
        rw [IsOf, ← m.identOf_said, heq, m.identOf_asked]
      rw [← heq]
      exact (hmade hnodup hi hr hof (by simpa using hfree)).symm
  · rintro ⟨hold, hnodup, hsays⟩
    -- each free row is a wanted item's
    have hfrees {r : ρ} (hr : r ∈ m.puts rows items) (hfree : m.held r = false) :
        ∃ i ∈ m.wanted rows items, m.IsOf i r := by
      obtain ⟨hr', hnone⟩ | ⟨i, hi, hof, -⟩ := of_mem_puts hr
      · obtain ⟨i, hi, hof⟩ := hold r hr' hfree
        exact absurd hof (hnone i hi)
      · exact ⟨i, wanted_of_free hcount hi hr hof hfree, hof⟩
    have hright : ((m.wanted rows items).map m.asked).Nodup := by
      refine List.Nodup.of_map m.identOf ?_
      rw [hkeys]
      exact hnodup.map (Option.some_injective _)
    have hleft : (((m.puts rows items).filter fun r => !m.held r).map m.said).Nodup := by
      refine List.Nodup.of_map m.identOf ?_
      rw [hidents]
      refine List.nodup_iff_count_le_one.mpr fun o => ?_
      by_cases ho : o ∈ ((m.puts rows items).filter fun r => !m.held r).map m.ident
      · obtain ⟨r, hr, rfl⟩ := List.mem_map.mp ho
        obtain ⟨hr, hfree⟩ := List.mem_filter.mp hr
        obtain ⟨i, hi, hof⟩ := hfrees hr (by simpa using hfree)
        rw [show m.ident r = _ from hof]
        exact count_ident_le hcount (mem_wanted.mp hi).1
      · rw [List.count_eq_zero_of_not_mem ho]
        exact Nat.zero_le 1
    refine (List.perm_ext_iff_of_nodup hleft hright).mpr fun s => ⟨fun hs => ?_, fun hs => ?_⟩
    · obtain ⟨r, hr, rfl⟩ := List.mem_map.mp hs
      obtain ⟨hr, hfree⟩ := List.mem_filter.mp hr
      have hfree : m.held r = false := by simpa using hfree
      obtain ⟨i, hi, hof⟩ := hfrees hr hfree
      rw [hmade hnodup hi hr hof hfree, hsays i hi]
      exact List.mem_map_of_mem hi
    · obtain ⟨i, hi, rfl⟩ := hasked s hs
      obtain ⟨hin, hnone⟩ := mem_wanted.mp hi
      obtain ⟨r, hr, hof⟩ := m.exists_puts rows hin
      have hfree : m.held r = false := by
        by_contra hheld
        obtain ⟨r', hr', hheld', hident⟩ := held_of_mem_puts hr (Bool.not_eq_false _ |>.mp hheld)
        exact hnone r' hr' hheld' (hident.trans hof)
      rw [← hsays i hi, ← hmade hnodup hi hr hof hfree]
      exact List.mem_map_of_mem (List.mem_filter.mpr ⟨hr, by rw [hfree]; rfl⟩)

end Exactly

end Mirror

end Library
