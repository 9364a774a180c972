import Mathlib.Algebra.BigOperators.Group.Finset.Basic
import Mathlib.Algebra.BigOperators.Group.List.Basic
import Mathlib.Data.List.Dedup

/-!
# Sums by parts

A list cut into parts by a test or by a key, and the sum over it as a sum over the parts.

* `sum_parts` — each element in exactly one part.
* `groupSums key v l` — one sum under each key that occurs.
* `sum_groupSums` — the sums under the keys of a kind are the sum over the elements of that kind.
* `lookup_groupSums` — what stands under a key.
* `sum_lookup_add_rest` — a table of sums, some of them looked up by their keys and the rest listed.
* `sum_of_subset` — a sum over a part, where the rest adds nothing.
* `foldl_gain` — what a fold adds up, read off its steps.
-/

namespace Library

variable {α π κ M : Type} [AddCommMonoid M] {belongs : π → α → Bool} {parts : List π} {v : α → M}
  {l : List α}

/-- Where everything is in exactly one of the parts, the sum is a sum over the parts. -/
theorem sum_parts (h : ∀ a ∈ l, parts.countP (fun p => belongs p a) = 1) :
    (parts.map fun p => ((l.filter (belongs p)).map v).sum).sum = (l.map v).sum := by
  induction l with
  | nil => simp
  | cons a l ih =>
      have ih := ih fun b hb => h b (List.mem_cons_of_mem a hb)
      have hpart : ∀ p, (((a :: l).filter (belongs p)).map v).sum =
          (if belongs p a then v a else 0) + ((l.filter (belongs p)).map v).sum := by
        intro p
        by_cases hp : belongs p a <;> simp [hp]
      have hcount : ∀ ps : List π, (ps.map fun p => if belongs p a then v a else 0).sum =
          ps.countP (fun p => belongs p a) • v a := by
        intro ps
        induction ps with
        | nil => simp
        | cons p ps ihp =>
            by_cases hp : belongs p a
            · simp [hp, ihp, add_nsmul, one_nsmul, add_comm]
            · simp [hp, ihp]
      rw [List.map_congr_left fun p _ => hpart p, List.sum_map_add, ih, hcount,
        h a List.mem_cons_self, one_nsmul, List.map_cons, List.sum_cons]

lemma sum_filter_of_zero {p : α → Bool} (h : ∀ a ∈ l, p a = false → v a = 0) :
    ((l.filter p).map v).sum = (l.map v).sum := by
  induction l with
  | nil => rfl
  | cons a l ih =>
      have ih := ih fun b hb => h b (List.mem_cons_of_mem a hb)
      cases hp : p a with
      | true => rw [List.filter_cons_of_pos hp, List.map_cons, List.sum_cons, ih, List.map_cons, List.sum_cons]
      | false =>
          rw [List.filter_cons_of_neg (by simp [hp]), ih, List.map_cons, List.sum_cons,
            h a List.mem_cons_self hp, zero_add]

lemma sum_of_subset [DecidableEq α] {l' : List α} (hl : l.Nodup) (hl' : l'.Nodup) (hsubset : ∀ a ∈ l, a ∈ l')
    (hzero : ∀ a ∈ l', a ∉ l → v a = 0) : (l.map v).sum = (l'.map v).sum := by
  rw [← List.sum_toFinset v hl, ← List.sum_toFinset v hl']
  refine Finset.sum_subset (fun a ha => ?_) fun a ha hnot => ?_
  · exact List.mem_toFinset.mpr (hsubset a (List.mem_toFinset.mp ha))
  · exact hzero a (List.mem_toFinset.mp ha) fun hin => hnot (List.mem_toFinset.mpr hin)

lemma foldl_gain {σ : Type} {f : σ → M} {step : σ → α → σ} (h : ∀ s a, f (step s a) = f s + v a) (s : σ) :
    f (l.foldl step s) = f s + (l.map v).sum := by
  induction l generalizing s with
  | nil => simp
  | cons a l ih => rw [List.foldl_cons, ih, h, List.map_cons, List.sum_cons, add_assoc]

variable [DecidableEq κ] {key : α → κ}

/-- One sum under each key that occurs, in the order of their last occurrences. -/
def groupSums (key : α → κ) (v : α → M) (l : List α) : List (κ × M) :=
  (l.map key).dedup.map fun k => (k, ((l.filter fun a => key a = k).map v).sum)

/-- The sums under the keys of a kind come to the sum over the elements of that kind. -/
theorem sum_groupSums (p : κ → Bool) :
    (((groupSums key v l).filter fun group => p group.1).map Prod.snd).sum =
      ((l.filter fun a => p (key a)).map v).sum := by
  have hgroups : ((groupSums key v l).filter fun group => p group.1).map Prod.snd =
      ((l.map key).dedup.filter p).map fun k =>
        (((l.filter fun a => p (key a)).filter fun a => key a = k).map v).sum := by
    rw [groupSums, List.filter_map, List.map_map]
    refine List.map_congr_left fun k hk => ?_
    have hpk : p k = true := (List.mem_filter.mp hk).2
    simp only [Function.comp_apply, List.filter_filter]
    congr 2
    refine List.filter_congr fun a _ => ?_
    by_cases ha : key a = k
    · simp [ha, hpk]
    · simp [ha]
  rw [hgroups]
  refine @sum_parts _ _ _ _ (fun k a => decide (key a = k)) _ _ _ fun a ha => ?_
  obtain ⟨hmem, hpa⟩ := List.mem_filter.mp ha
  have hkey : key a ∈ (l.map key).dedup.filter p :=
    List.mem_filter.mpr ⟨List.mem_dedup.mpr (List.mem_map_of_mem hmem), hpa⟩
  have hnodup : ((l.map key).dedup.filter p).Nodup := (List.nodup_dedup _).filter p
  calc
    _ = ((l.map key).dedup.filter p).count (key a) := by
      unfold List.count
      refine List.countP_congr fun k _ => ?_
      simp only [decide_eq_true_eq, beq_iff_eq]
      exact eq_comm
    _ = 1 := List.count_eq_one_of_mem hnodup hkey

lemma mem_groupSums {group : κ × M} : group ∈ groupSums key v l ↔
    (∃ a ∈ l, key a = group.1) ∧ group.2 = ((l.filter fun a => key a = group.1).map v).sum := by
  unfold groupSums
  rw [List.mem_map]
  constructor
  · rintro ⟨k, hk, rfl⟩
    exact ⟨List.mem_map.mp (List.mem_dedup.mp hk), rfl⟩
  · rintro ⟨hk, hsum⟩
    exact ⟨group.1, List.mem_dedup.mpr (List.mem_map.mpr hk), Prod.ext rfl hsum.symm⟩

lemma keys_groupSums : (groupSums key v l).map Prod.fst = (l.map key).dedup := by
  unfold groupSums
  rw [List.map_map]
  exact List.map_id _

lemma nodup_keys_groupSums : ((groupSums key v l).map Prod.fst).Nodup := by
  rw [keys_groupSums]
  exact List.nodup_dedup _

lemma filter_dedup (p : κ → Bool) (ks : List κ) : ks.dedup.filter p = (ks.filter p).dedup := by
  induction ks with
  | nil => rfl
  | cons k ks ih =>
      by_cases hk : k ∈ ks
      · rw [List.dedup_cons_of_mem hk, ih]
        cases hp : p k with
        | true => rw [List.filter_cons_of_pos hp, List.dedup_cons_of_mem (List.mem_filter.mpr ⟨hk, hp⟩)]
        | false => rw [List.filter_cons_of_neg (by simp [hp])]
      · rw [List.dedup_cons_of_notMem hk]
        cases hp : p k with
        | true =>
            rw [List.filter_cons_of_pos hp, List.filter_cons_of_pos hp, ih,
              List.dedup_cons_of_notMem fun h => hk (List.mem_filter.mp h).1]
        | false => rw [List.filter_cons_of_neg (by simp [hp]), List.filter_cons_of_neg (by simp [hp]), ih]

lemma groupSums_filter (p : κ → Bool) : groupSums key v (l.filter fun a => p (key a)) =
    (groupSums key v l).filter fun group => p group.1 := by
  have hkeys : (l.filter fun a => p (key a)).map key = (l.map key).filter p := List.filter_map.symm
  unfold groupSums
  rw [List.filter_map, hkeys, ← filter_dedup]
  refine List.map_congr_left fun k hk => ?_
  have hpk : p k = true := (List.mem_filter.mp hk).2
  rw [List.filter_filter]
  congr 3
  refine List.filter_congr fun a _ => ?_
  by_cases h : key a = k <;> simp [h, hpk]

variable [BEq κ] [LawfulBEq κ] {table : List (κ × M)} {keys : List κ}

lemma sum_lookup (h : (table.map Prod.fst).Nodup) (k : κ) :
    ((table.filter fun entry => entry.1 = k).map Prod.snd).sum = (table.lookup k).getD 0 := by
  induction table with
  | nil => rfl
  | cons entry table ih =>
      obtain ⟨k', m⟩ := entry
      rw [List.map_cons, List.nodup_cons] at h
      have ih := ih h.2
      by_cases hk : k' = k
      · have hnone : table.lookup k = none := List.lookup_eq_none_iff.mpr fun entry hentry => by
          rw [bne_iff_ne]
          exact fun hsame => h.1 (List.mem_map.mpr ⟨entry, hentry, hsame.symm.trans hk.symm⟩)
        rw [hnone] at ih
        subst hk
        rw [List.filter_cons_of_pos (by simp), List.map_cons, List.sum_cons, ih, List.lookup_cons_self]
        exact add_zero m
      · rw [List.filter_cons_of_neg (by simpa using hk), ih, List.lookup_cons, beq_false_of_ne (Ne.symm hk)]

lemma lookup_groupSums (k : κ) : ((groupSums key v l).lookup k).getD 0 = ((l.filter fun a => key a = k).map v).sum := by
  rw [← sum_lookup nodup_keys_groupSums, sum_groupSums fun k' => decide (k' = k)]

lemma sum_lookup_add_rest (hkeys : keys.Nodup) (htable : (table.map Prod.fst).Nodup) :
    (keys.map fun k => (table.lookup k).getD 0).sum +
      ((table.filter fun entry => entry.1 ∉ keys).map Prod.snd).sum = (table.map Prod.snd).sum := by
  have hlooked : (keys.map fun k => (table.lookup k).getD 0).sum =
      ((table.filter fun entry => entry.1 ∈ keys).map Prod.snd).sum := by
    rw [← @sum_parts _ _ _ _ (fun k (entry : κ × M) => decide (entry.1 = k)) keys Prod.snd
      (table.filter fun entry => entry.1 ∈ keys) fun entry hentry => ?_]
    · refine congrArg (fun values : List M => values.sum) (List.map_congr_left fun k hk => ?_)
      rw [← sum_lookup htable k, List.filter_filter]
      refine congrArg (fun l : List (κ × M) => (l.map Prod.snd).sum) (List.filter_congr fun entry _ => ?_)
      by_cases h : entry.1 = k <;> simp [h, hk]
    · have hin : entry.1 ∈ keys := of_decide_eq_true (List.mem_filter.mp hentry).2
      calc
        _ = keys.count entry.1 := by
          unfold List.count
          refine List.countP_congr fun k _ => ?_
          simp only [decide_eq_true_eq, beq_iff_eq]
          exact eq_comm
        _ = 1 := List.count_eq_one_of_mem hkeys hin
  rw [hlooked]
  clear hlooked htable
  induction table with
  | nil => simp
  | cons entry table ih =>
      by_cases h : entry.1 ∈ keys
      · simp [h, add_assoc, ← ih]
      · simp [h, ← ih, add_left_comm]

end Library
