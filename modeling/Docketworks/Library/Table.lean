import Mathlib.Algebra.BigOperators.Group.List.Basic
import Mathlib.Algebra.Order.BigOperators.Group.List
import Mathlib.Algebra.Order.Group.Nat
import Mathlib.Data.List.Nodup
import Mathlib.Tactic.Abel

/-!
# Tables under a primary key

A table is a list of rows no two of which share their key.  The key of a row is a field of the
row, and the uniqueness is a field of the table, so every operation here carries it along and no
later proof re-establishes it.

* `find?`, `insert?`, `put`, `erase`, `filter`, `modify` — read by key, add a row under a new key,
  replace the row of a key, remove it, keep some of the rows, rewrite them all.
* `sum w` — the total of a weight over the rows.  `sum_insert?`, `sum_put` and `sum_erase` say
  what each write does to it: the new row's weight is added and the old row's taken off.
-/

namespace Library

/-- A list of rows, no two under the same key. -/
structure Table {ρ κ : Type} (key : ρ → κ) where
  rows : List ρ
  nodup : (rows.map key).Nodup

namespace Table

variable {ρ κ : Type} [DecidableEq κ] {key : ρ → κ}

/-! ## Operations -/

/-- The table without rows. -/
def empty : Table key := ⟨[], List.nodup_nil⟩

/-- The row under `k`. -/
def find? (t : Table key) (k : κ) : Option ρ :=
  t.rows.find? (fun r => key r = k)

/-- Replace the row under the key of `r` by `r`. -/
def put (t : Table key) (r : ρ) : Table key where
  rows := t.rows.map (fun x => if key x = key r then r else x)
  nodup := by
    have h : (t.rows.map (fun x => if key x = key r then r else x)).map key = t.rows.map key := by
      rw [List.map_map]
      refine List.map_congr_left fun x _ => ?_
      by_cases hx : key x = key r <;> simp [hx]
    rw [h]
    exact t.nodup

/-- Remove the row under `k`. -/
def erase (t : Table key) (k : κ) : Table key where
  rows := t.rows.filter (fun x => key x ≠ k)
  nodup := t.nodup.sublist (List.filter_sublist.map key)

/-- Keep the rows that pass a test. -/
def filter (t : Table key) (p : ρ → Bool) : Table key where
  rows := t.rows.filter p
  nodup := t.nodup.sublist (List.filter_sublist.map key)

/-- Add the row `r`; there is no such table where its key is in use. -/
def insert? (t : Table key) (r : ρ) : Option (Table key) :=
  if h : key r ∈ t.rows.map key then none
  else some ⟨t.rows ++ [r], by
    rw [List.map_append, List.map_singleton]
    exact List.Nodup.append t.nodup (List.nodup_singleton _) (by simpa using h)⟩

/-- Write the row `r`: over the row of its key, or as a new one. -/
def upsert (t : Table key) (r : ρ) : Table key :=
  (t.insert? r).getD (t.put r)

/-- Rewrite every row, each under the key it has. -/
def modify (t : Table key) (f : ρ → ρ) (hf : ∀ r, key (f r) = key r) : Table key where
  rows := t.rows.map f
  nodup := by
    have h : key ∘ f = key := funext hf
    rw [List.map_map, h]
    exact t.nodup

/-- A number no row has as its key. -/
def freshKey {key : ρ → ℕ} (t : Table key) : ℕ :=
  (t.rows.map key).sum + 1

/-- The total of the weight `w` over the rows. -/
def sum {M : Type} [AddCommMonoid M] (t : Table key) (w : ρ → M) : M :=
  (t.rows.map w).sum

/-! ## Reading -/

variable {t t' : Table key} {r r' : ρ} {k : κ}

lemma key_of_find? (h : t.find? k = some r) : key r = k := by
  simpa using List.find?_some h

lemma mem_of_find? (h : t.find? k = some r) : r ∈ t.rows :=
  List.mem_of_find?_eq_some h

lemma find?_of_mem (h : r ∈ t.rows) : t.find? (key r) = some r := by
  obtain ⟨rows, hnodup⟩ := t
  unfold find?
  simp only at h ⊢
  induction rows with
  | nil => simp at h
  | cons x xs ih =>
      rw [List.map_cons, List.nodup_cons] at hnodup
      rcases List.mem_cons.mp h with rfl | hmem
      · simp
      · have hne : key x ≠ key r := fun heq =>
          hnodup.1 (heq ▸ List.mem_map_of_mem (f := key) hmem)
        rw [List.find?_cons_of_neg (by simpa using hne)]
        exact ih hnodup.2 hmem

lemma find?_eq_some_iff : t.find? k = some r ↔ r ∈ t.rows ∧ key r = k := by
  constructor
  · exact fun h => ⟨mem_of_find? h, key_of_find? h⟩
  · rintro ⟨h, rfl⟩
    exact find?_of_mem h

lemma find?_eq_none_iff : t.find? k = none ↔ ∀ x ∈ t.rows, key x ≠ k := by
  simp [find?]

lemma eq_of_key_eq (h : r ∈ t.rows) (h' : r' ∈ t.rows) (hkey : key r = key r') : r = r' := by
  have hr := find?_of_mem h
  rw [hkey, find?_of_mem h'] at hr
  exact (Option.some.inj hr).symm

omit [DecidableEq κ] in
@[simp] lemma rows_empty : (empty : Table key).rows = [] := rfl

/-! ## Writing -/

@[simp] lemma rows_put :
    (t.put r).rows = t.rows.map (fun x => if key x = key r then r else x) := rfl

@[simp] lemma rows_erase : (t.erase k).rows = t.rows.filter (fun x => key x ≠ k) := rfl

omit [DecidableEq κ] in
@[simp] lemma rows_filter {p : ρ → Bool} : (t.filter p).rows = t.rows.filter p := rfl

lemma rows_insert? (h : t.insert? r = some t') : t'.rows = t.rows ++ [r] := by
  unfold insert? at h
  split at h
  · cases h
  · rw [← Option.some.inj h]

lemma find?_of_insert? (h : t.insert? r = some t') : t.find? (key r) = none := by
  unfold insert? at h
  split at h
  · cases h
  · rename_i hnew
    rw [find?_eq_none_iff]
    exact fun x hx heq => hnew (heq ▸ List.mem_map_of_mem (f := key) hx)

lemma exists_insert? (h : t.find? (key r) = none) : ∃ t', t.insert? r = some t' := by
  have hfree : key r ∉ t.rows.map key := by
    intro hin
    obtain ⟨x, hx, hkey⟩ := List.mem_map.mp hin
    exact find?_eq_none_iff.mp h x hx hkey
  exact ⟨_, dif_neg hfree⟩

lemma mem_insert? (h : t.insert? r = some t') {x : ρ} :
    x ∈ t'.rows ↔ x ∈ t.rows ∨ x = r := by
  rw [rows_insert? h]
  simp

lemma forall_insert? (h : t.insert? r = some t') {P : ρ → Prop} (hold : ∀ x ∈ t.rows, P x) (hnew : P r) :
    ∀ x ∈ t'.rows, P x := by
  intro x hx
  rcases (mem_insert? h).mp hx with hx | rfl
  · exact hold x hx
  · exact hnew

lemma mem_put {x : ρ} :
    x ∈ (t.put r).rows ↔ (x ∈ t.rows ∧ key x ≠ key r) ∨ (x = r ∧ (t.find? (key r)).isSome) := by
  simp only [rows_put, List.mem_map]
  constructor
  · rintro ⟨y, hy, rfl⟩
    by_cases hk : key y = key r
    · refine .inr ⟨by simp [hk], ?_⟩
      rw [← hk, find?_of_mem hy]
      rfl
    · exact .inl (by simp [hk, hy])
  · rintro (⟨hx, hk⟩ | ⟨rfl, hfound⟩)
    · exact ⟨x, hx, by simp [hk]⟩
    · obtain ⟨y, hy⟩ := Option.isSome_iff_exists.mp hfound
      exact ⟨y, mem_of_find? hy, by simp [key_of_find? hy]⟩

lemma mem_erase {x : ρ} : x ∈ (t.erase k).rows ↔ x ∈ t.rows ∧ key x ≠ k := by
  simp

lemma find?_put_self (h : t.find? (key r) = some r') : (t.put r).find? (key r) = some r :=
  find?_eq_some_iff.mpr ⟨mem_put.mpr (.inr ⟨rfl, by simp [h]⟩), rfl⟩

lemma find?_put_of_ne (h : k ≠ key r) : (t.put r).find? k = t.find? k := by
  refine Option.ext fun x => ?_
  simp only [find?_eq_some_iff, mem_put]
  constructor
  · rintro ⟨⟨hx, -⟩ | ⟨rfl, -⟩, rfl⟩
    · exact ⟨hx, rfl⟩
    · exact absurd rfl h
  · rintro ⟨hx, rfl⟩
    exact ⟨.inl ⟨hx, h⟩, rfl⟩

lemma find?_insert?_self (h : t.insert? r = some t') : t'.find? (key r) = some r :=
  find?_eq_some_iff.mpr ⟨(mem_insert? h).mpr (.inr rfl), rfl⟩

lemma find?_insert?_of_ne (h : t.insert? r = some t') (hk : k ≠ key r) :
    t'.find? k = t.find? k := by
  refine Option.ext fun x => ?_
  simp only [find?_eq_some_iff, mem_insert? h]
  constructor
  · rintro ⟨hx | rfl, rfl⟩
    · exact ⟨hx, rfl⟩
    · exact absurd rfl hk
  · rintro ⟨hx, rfl⟩
    exact ⟨.inl hx, rfl⟩

lemma isSome_find?_put (h : t.find? (key r) = some r') (hk : (t.find? k).isSome) :
    ((t.put r).find? k).isSome := by
  by_cases hsame : k = key r
  · rw [hsame, find?_put_self h]
    rfl
  · rwa [find?_put_of_ne hsame]

lemma isSome_find?_insert? (h : t.insert? r = some t') (hk : (t.find? k).isSome) :
    (t'.find? k).isSome := by
  by_cases hsame : k = key r
  · rw [hsame, find?_insert?_self h]
    rfl
  · rwa [find?_insert?_of_ne h hsame]

@[simp] lemma find?_erase_self : (t.erase k).find? k = none := by
  rw [find?_eq_none_iff]
  exact fun x hx => (mem_erase.mp hx).2

lemma find?_upsert_self : (t.upsert r).find? (key r) = some r := by
  unfold upsert
  cases h : t.insert? r with
  | some t' => exact find?_insert?_self h
  | none =>
      have hmem : key r ∈ t.rows.map key := by
        by_contra hmem
        simp [insert?, hmem] at h
      obtain ⟨r', hr', hkey⟩ := List.mem_map.mp hmem
      exact @find?_put_self _ _ _ _ _ _ r' (hkey ▸ find?_of_mem hr')

lemma eq_of_mem_upsert {x : ρ} (hx : x ∈ (t.upsert r).rows) (hkey : key x = key r) : x = r := by
  have hfound := find?_of_mem hx
  rw [hkey, find?_upsert_self] at hfound
  exact (Option.some.inj hfound).symm

lemma find?_upsert_of_ne (hk : k ≠ key r) : (t.upsert r).find? k = t.find? k := by
  unfold upsert
  cases h : t.insert? r with
  | some t' => exact find?_insert?_of_ne h hk
  | none => exact find?_put_of_ne hk

omit [DecidableEq κ] in
@[simp] lemma rows_modify {f : ρ → ρ} {hf : ∀ r, key (f r) = key r} :
    (t.modify f hf).rows = t.rows.map f := rfl

lemma find?_modify {f : ρ → ρ} {hf : ∀ r, key (f r) = key r} :
    (t.modify f hf).find? k = (t.find? k).map f := by
  have hkey : (fun r => decide (key r = k)) ∘ f = fun r => decide (key r = k) :=
    funext fun r => by simp [hf r]
  simp only [find?, rows_modify, List.find?_map, hkey]

lemma freshKey_not_mem {key : ρ → ℕ} (t : Table key) : t.freshKey ∉ t.rows.map key := by
  intro h
  have hle := List.le_sum_of_mem h
  unfold freshKey at hle
  omega

lemma find?_freshKey {key : ρ → ℕ} (t : Table key) : t.find? t.freshKey = none :=
  find?_eq_none_iff.mpr fun _ hx heq => t.freshKey_not_mem (heq ▸ List.mem_map_of_mem hx)

lemma rows_upsert_of_mem (h : key r ∈ t.rows.map key) :
    (t.upsert r).rows = t.rows.map (fun x => if key x = key r then r else x) := by
  simp [upsert, insert?, h]

lemma rows_upsert_of_not_mem (h : key r ∉ t.rows.map key) : (t.upsert r).rows = t.rows ++ [r] := by
  simp [upsert, insert?, h]

lemma eq_or_mem_of_mem_upsert {x : ρ} (hx : x ∈ (t.upsert r).rows) : x = r ∨ x ∈ t.rows := by
  by_cases h : key r ∈ t.rows.map key
  · rw [rows_upsert_of_mem h, List.mem_map] at hx
    obtain ⟨y, hy, rfl⟩ := hx
    split
    · exact .inl rfl
    · exact .inr hy
  · rw [rows_upsert_of_not_mem h, List.mem_append, List.mem_singleton] at hx
    exact hx.symm

lemma mem_upsert {x : ρ} : x ∈ (t.upsert r).rows ↔ x = r ∨ (x ∈ t.rows ∧ key x ≠ key r) := by
  constructor
  · intro hx
    by_cases hkey : key x = key r
    · exact .inl (eq_of_mem_upsert hx hkey)
    · exact (eq_or_mem_of_mem_upsert hx).imp_right fun h => ⟨h, hkey⟩
  · rintro (rfl | ⟨hx, hkey⟩)
    · exact mem_of_find? find?_upsert_self
    · have hfound := find?_of_mem hx
      rw [← find?_upsert_of_ne hkey] at hfound
      exact mem_of_find? hfound

lemma filter_rows_upsert {p : ρ → Bool} (hr : p r = false)
    (hold : ∀ x ∈ t.rows, key x = key r → p x = false) :
    (t.upsert r).rows.filter p = t.rows.filter p := by
  by_cases h : key r ∈ t.rows.map key
  · rw [rows_upsert_of_mem h, List.filter_map]
    have hsame : t.rows.filter (p ∘ fun x => if key x = key r then r else x) = t.rows.filter p := by
      refine List.filter_congr fun x hx => ?_
      rw [Function.comp_apply]
      split
      · rename_i hkey
        rw [hr, hold x hx hkey]
      · rfl
    rw [hsame]
    refine (List.map_congr_left fun x hx => if_neg fun hkey => ?_).trans (List.map_id _)
    have hpass := (List.mem_filter.mp hx).2
    rw [hold x (List.mem_of_mem_filter hx) hkey] at hpass
    cases hpass
  · rw [rows_upsert_of_not_mem h, List.filter_append, List.filter_cons_of_neg (by simp [hr]),
      List.filter_nil, List.append_nil]

lemma upsert_of_find? (h : t.find? k = some r') (hkey : key r = key r') : t.upsert r = t.put r := by
  have hmem : key r ∈ t.rows.map key := hkey ▸ List.mem_map_of_mem (mem_of_find? h)
  simp [upsert, insert?, hmem]

omit [DecidableEq κ] in
lemma eq_of_rows (h : t.rows = t'.rows) : t = t' := by
  obtain ⟨rows, hnodup⟩ := t
  obtain ⟨rows', hnodup'⟩ := t'
  cases h
  rfl

omit [DecidableEq κ] in
lemma modify_eq_self {f : ρ → ρ} {hf : ∀ r, key (f r) = key r} (h : ∀ r ∈ t.rows, f r = r) :
    t.modify f hf = t := by
  apply eq_of_rows
  exact (List.map_congr_left h).trans (List.map_id _)

lemma find?_rows_upsert_self {p : ρ → Bool} (hp : p r = true)
    (hfirst : ∀ x, t.rows.find? p = some x → key x = key r) :
    (t.upsert r).rows.find? p = some r := by
  by_cases h : key r ∈ t.rows.map key
  · obtain ⟨y, hy, hkey⟩ := List.mem_map.mp h
    obtain ⟨before, after, hrows⟩ := List.append_of_mem hy
    have hother : ∀ x ∈ before, key x ≠ key r := fun x hx heq => by
      have hnodup := t.nodup
      rw [hrows, List.map_append, List.map_cons, List.nodup_append] at hnodup
      exact hnodup.2.2 _ (List.mem_map_of_mem hx) _ List.mem_cons_self (heq.trans hkey.symm)
    rw [rows_upsert_of_mem h, hrows, List.find?_eq_some_iff_append]
    refine ⟨hp, before.map (fun x => if key x = key r then r else x),
      after.map (fun x => if key x = key r then r else x), by simp [hkey], fun x hx => ?_⟩
    obtain ⟨y', hy', rfl⟩ := List.mem_map.mp hx
    rw [if_neg (hother y' hy')]
    cases hpy : p y' with
    | false => rfl
    | true =>
        -- the first row to pass would be one of these, under another key
        have hsome : (before.find? p).isSome := List.find?_isSome.mpr ⟨y', hy', hpy⟩
        obtain ⟨x', hx'⟩ := Option.isSome_iff_exists.mp hsome
        have hkey' := hfirst x' (by rw [hrows, List.find?_append, hx']; rfl)
        exact absurd hkey' (hother x' (List.mem_of_find?_eq_some hx'))
  · rw [rows_upsert_of_not_mem h, List.find?_append]
    cases hfind : t.rows.find? p with
    | none => simp [hp]
    | some x =>
        exact absurd (hfirst x hfind ▸ List.mem_map_of_mem (List.mem_of_find?_eq_some hfind)) h

lemma find?_rows_upsert_of_ne {p : ρ → Bool} {x : ρ} (hx : t.rows.find? p = some x)
    (hkey : key x ≠ key r) (hr : p r = false) : (t.upsert r).rows.find? p = some x := by
  by_cases h : key r ∈ t.rows.map key
  · obtain ⟨hpx, before, after, hrows, hbefore⟩ := List.find?_eq_some_iff_append.mp hx
    rw [rows_upsert_of_mem h, hrows, List.find?_eq_some_iff_append]
    refine ⟨hpx, before.map (fun x => if key x = key r then r else x),
      after.map (fun x => if key x = key r then r else x), by simp [hkey], fun y hy => ?_⟩
    obtain ⟨y', hy', rfl⟩ := List.mem_map.mp hy
    split
    · simp [hr]
    · exact hbefore y' hy'
  · rw [rows_upsert_of_not_mem h, List.find?_append, hx]
    rfl

lemma find?_erase_of_ne {k' : κ} (h : k' ≠ k) : (t.erase k).find? k' = t.find? k' := by
  refine Option.ext fun x => ?_
  simp only [find?_eq_some_iff, mem_erase]
  constructor
  · rintro ⟨⟨hx, -⟩, rfl⟩
    exact ⟨hx, rfl⟩
  · rintro ⟨hx, rfl⟩
    exact ⟨⟨hx, h⟩, rfl⟩

/-! ## Totals -/

section Sum

variable {M : Type}

omit [DecidableEq κ] in
@[simp] lemma sum_empty [AddCommMonoid M] (w : ρ → M) : (empty : Table key).sum w = 0 := rfl

lemma sum_insert? [AddCommMonoid M] (h : t.insert? r = some t') (w : ρ → M) :
    t'.sum w = t.sum w + w r := by
  simp [sum, rows_insert? h]

lemma sum_put [AddCommGroup M] (h : t.find? (key r) = some r') (w : ρ → M) :
    (t.put r).sum w = t.sum w - w r' + w r := by
  have hkey := key_of_find? h
  have hmem := mem_of_find? h
  obtain ⟨rows, hnodup⟩ := t
  simp only [sum, rows_put] at hmem ⊢
  clear h
  induction rows with
  | nil => simp at hmem
  | cons x xs ih =>
      rw [List.map_cons, List.nodup_cons] at hnodup
      rcases List.mem_cons.mp hmem with rfl | hmem'
      · -- the row replaced is the head: the tail has no row under this key
        have htail : xs.map (fun x => if key x = key r then r else x) = xs := by
          conv_rhs => rw [← List.map_id xs]
          refine List.map_congr_left fun y hy => ?_
          have hne : key y ≠ key r := fun heq =>
            hnodup.1 (by rw [hkey, ← heq]; exact List.mem_map_of_mem hy)
          simp [hne]
        rw [List.map_cons, htail]
        simp [hkey]
        abel
      · have hne : key x ≠ key r := fun heq =>
          hnodup.1 (by rw [heq, ← hkey]; exact List.mem_map_of_mem hmem')
        simp only [List.map_cons, List.sum_cons, hne, if_false, ih hnodup.2 hmem']
        abel

lemma sum_erase [AddCommGroup M] (h : t.find? k = some r) (w : ρ → M) :
    (t.erase k).sum w = t.sum w - w r := by
  have hkey := key_of_find? h
  have hmem := mem_of_find? h
  obtain ⟨rows, hnodup⟩ := t
  simp only [sum, rows_erase] at hmem ⊢
  clear h
  induction rows with
  | nil => simp at hmem
  | cons x xs ih =>
      rw [List.map_cons, List.nodup_cons] at hnodup
      rcases List.mem_cons.mp hmem with rfl | hmem'
      · have htail : xs.filter (fun y => key y ≠ k) = xs := by
          refine List.filter_eq_self.mpr fun y hy => ?_
          have hne : key y ≠ k := fun heq =>
            hnodup.1 (by rw [hkey, ← heq]; exact List.mem_map_of_mem hy)
          simpa using hne
        rw [List.filter_cons_of_neg (by simp [hkey]), htail]
        simp
      · have hne : key x ≠ k := fun heq =>
          hnodup.1 (by rw [heq, ← hkey]; exact List.mem_map_of_mem hmem')
        rw [List.filter_cons_of_pos (by simpa using hne)]
        simp only [List.map_cons, List.sum_cons, ih hnodup.2 hmem']
        abel

lemma erase_of_find?_none (h : t.find? k = none) : t.erase k = t := by
  obtain ⟨rows, hnodup⟩ := t
  rw [find?_eq_none_iff] at h
  simp only [erase, mk.injEq]
  exact List.filter_eq_self.mpr fun x hx => by simpa using h x hx

end Sum

end Table

end Library
