import Mathlib.Data.List.Perm.Subperm
import Mathlib.Logic.Function.Basic

/-!
# Chains of pointers

A pointer map `next : κ → Option κ`, and where its chains end.

* `Ends next k t` — the chain from `k` ends at `t`.
* `follow next fuel seen k` — follow the chain from `k`, and stop where it would come back to a key
  seen.  `Ends.follow_eq`: with as much fuel as there are keys with a pointer it reaches the end.
* `Ends.set`, `Ends.set_of_ne` — pointing an end `k` at a key whose chain ends elsewhere moves the end of
  the chains that ended at `k`, and no other.
-/

namespace Library

variable {κ : Type}

/-- The chain from the first key ends at the second. -/
inductive Ends (next : κ → Option κ) : κ → κ → Prop where
  | stop {k : κ} (h : next k = none) : Ends next k k
  | step {k m t : κ} (h : next k = some m) (hm : Ends next m t) : Ends next k t

section Ends

variable {next : κ → Option κ} {k m t u : κ}

lemma Ends.last (h : Ends next k t) : next t = none := by
  induction h with
  | stop h => exact h
  | step _ _ ih => exact ih

/-- The chain from the first key ends at the second after so many pointers. -/
def EndsIn (next : κ → Option κ) : ℕ → κ → κ → Prop
  | 0, k, t => next k = none ∧ k = t
  | n + 1, k, t => ∃ m, next k = some m ∧ EndsIn next n m t

lemma Ends.exists_endsIn (h : Ends next k t) : ∃ n, EndsIn next n k t := by
  induction h with
  | stop h => exact ⟨0, h, rfl⟩
  | step h _ ih =>
      obtain ⟨n, hn⟩ := ih
      exact ⟨n + 1, _, h, hn⟩

lemma EndsIn.length_unique {n n' : ℕ} (h : EndsIn next n k t) (h' : EndsIn next n' k u) : n = n' := by
  induction n generalizing k n' with
  | zero =>
      cases n' with
      | zero => rfl
      | succ n' =>
          obtain ⟨m, hm, -⟩ := h'
          rw [h.1] at hm
          cases hm
  | succ n ih =>
      obtain ⟨m, hm, hrest⟩ := h
      cases n' with
      | zero => rw [h'.1] at hm; cases hm
      | succ n' =>
          obtain ⟨m', hm', hrest'⟩ := h'
          rw [hm] at hm'
          cases hm'
          exact congrArg _ (ih hrest hrest')

lemma EndsIn.exists_route {n : ℕ} (h : EndsIn next n k t) :
    ∃ route : List κ, route.length = n ∧ route.Nodup ∧
      ∀ j ∈ route, next j ≠ none ∧ ∃ i ≤ n, EndsIn next i j t := by
  induction n generalizing k with
  | zero => exact ⟨[], rfl, List.nodup_nil, fun j hj => absurd hj List.not_mem_nil⟩
  | succ n ih =>
      obtain ⟨m, hm, hrest⟩ := h
      obtain ⟨route, hlength, hnodup, hroute⟩ := ih hrest
      have hnew : k ∉ route := fun hk => by
        obtain ⟨i, hi, hends⟩ := (hroute k hk).2
        have hsame := @EndsIn.length_unique _ _ _ _ _ _ (n + 1) hends ⟨m, hm, hrest⟩
        omega
      refine ⟨k :: route, by rw [List.length_cons, hlength], List.nodup_cons.mpr ⟨hnew, hnodup⟩, ?_⟩
      intro j hj
      rcases List.mem_cons.mp hj with rfl | hj
      · exact ⟨by simp [hm], n + 1, Nat.le_refl _, m, hm, hrest⟩
      · obtain ⟨hpoints, i, hi, hends⟩ := hroute j hj
        exact ⟨hpoints, i, by omega, hends⟩

end Ends

/-! ## Following a chain -/

section Follow

variable [DecidableEq κ] {next : κ → Option κ} {k m t u : κ}

/-- Follow the chain from a key, and stop where it would come back to a key seen. -/
def follow (next : κ → Option κ) : ℕ → List κ → κ → κ
  | 0, _, current => current
  | fuel + 1, seen, current =>
      match next current with
      | none => current
      | some successor =>
          if successor ∈ seen then current else follow next fuel (successor :: seen) successor

lemma EndsIn.follow_eq {n : ℕ} (h : EndsIn next n k t) {fuel : ℕ} (hfuel : n ≤ fuel) {seen : List κ}
    (hseen : ∀ j ∈ seen, ∃ i, n ≤ i ∧ EndsIn next i j t) : follow next fuel seen k = t := by
  induction n generalizing k fuel seen with
  | zero =>
      obtain ⟨hstop, rfl⟩ := h
      cases fuel with
      | zero => rfl
      | succ fuel => rw [follow, hstop]
  | succ n ih =>
      obtain ⟨m, hm, hrest⟩ := h
      obtain ⟨fuel, rfl⟩ := Nat.exists_eq_succ_of_ne_zero (by omega : fuel ≠ 0)
      have hnew : m ∉ seen := fun hmem => by
        obtain ⟨i, hi, hends⟩ := hseen m hmem
        have hsame := hends.length_unique hrest
        omega
      rw [follow, hm]
      simp only [if_neg hnew]
      refine ih hrest (by omega) fun j hj => ?_
      rcases List.mem_cons.mp hj with rfl | hj
      · exact ⟨n, Nat.le_refl _, hrest⟩
      · obtain ⟨i, hi, hends⟩ := hseen j hj
        exact ⟨i, by omega, hends⟩

/-- Following a chain reaches its end, with as much fuel as there are keys that point. -/
theorem Ends.follow_eq (h : Ends next k t) {keys : List κ} (hkeys : ∀ j, next j ≠ none → j ∈ keys) :
    follow next keys.length [k] k = t := by
  obtain ⟨n, hn⟩ := h.exists_endsIn
  obtain ⟨route, rfl, hnodup, hroute⟩ := hn.exists_route
  refine hn.follow_eq ?_ fun j hj => ?_
  · exact (List.subperm_of_subset hnodup fun j hj => hkeys j (hroute j hj).1).length_le
  · rw [List.mem_singleton.mp hj]
    exact ⟨_, Nat.le_refl _, hn⟩

/-! ## Redirecting an end -/

lemma Ends.set_of_ne (h : Ends next u t) (hk : next k = none) (hne : t ≠ k) (m : κ) :
    Ends (Function.update next k (some m)) u t := by
  induction h with
  | stop hstop => exact .stop (by rw [Function.update_of_ne hne]; exact hstop)
  | step hnext _ ih =>
      refine .step ?_ (ih hne)
      rw [Function.update_of_ne fun heq => by rw [heq, hk] at hnext; cases hnext]
      exact hnext

lemma Ends.set (h : Ends next u k) (hk : next k = none) (hm : Ends next m t) (hne : t ≠ k) :
    Ends (Function.update next k (some m)) u t := by
  have htail : Ends (Function.update next k (some m)) k t :=
    .step (Function.update_self ..) (hm.set_of_ne hk hne m)
  generalize hend : k = e at h
  induction h with
  | stop _ => exact hend ▸ htail
  | step hnext _ ih =>
      refine .step ?_ (ih hend)
      rw [Function.update_of_ne fun heq => by rw [heq, ← hend, hk] at hnext; cases hnext]
      exact hnext

end Follow

end Library
