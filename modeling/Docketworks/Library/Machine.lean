import Mathlib.Data.List.Basic

/-!
# Runs of interleaved steps

A system of several parties, one atomic step at a time.  Which party moves is the schedule's
choice, so a run is an arbitrary list of steps; a step that cannot be taken in a state, because a
lock is held or a party is elsewhere in its program, ends the run.

* `Machine σ α` — the state after a step, if the step can be taken.
* `Machine.run` — a whole schedule.
* `Machine.AllMeet C` — every step of the schedule meets `C` in the state it is taken in.
* `Machine.run_keeps`, `Machine.run_keeps_of_meet` — what every step preserves holds at the end of
  every run, and the same where a step preserves it only under a condition.
-/

namespace Library

/-- The state after a step, if the step can be taken. -/
abbrev Machine (σ α : Type) : Type := σ → α → Option σ

namespace Machine

variable {σ α : Type} (m : Machine σ α)

/-- The state after a schedule, if every step of it can be taken. -/
def run (s : σ) : List α → Option σ
  | [] => some s
  | a :: as => (m s a).bind fun s' => run s' as

/-- Every step of the schedule meets `C` in the state it is taken in. -/
def AllMeet (C : σ → α → Prop) (s : σ) : List α → Prop
  | [] => True
  | a :: as => C s a ∧ ∀ s', m s a = some s' → AllMeet C s' as

variable {m} {I : σ → Prop} {C : σ → α → Prop} {s s' t : σ} {a : α} {as bs : List α}

@[simp] lemma run_nil : m.run s [] = some s := rfl

lemma run_cons : m.run s (a :: as) = (m s a).bind fun s' => m.run s' as := rfl

lemma run_cons_eq_some :
    m.run s (a :: as) = some t ↔ ∃ s', m s a = some s' ∧ m.run s' as = some t := by
  rw [run_cons, Option.bind_eq_some_iff]

lemma run_append : m.run s (as ++ bs) = (m.run s as).bind fun s' => m.run s' bs := by
  induction as generalizing s with
  | nil => rfl
  | cons a as ih =>
      rw [List.cons_append, run_cons, run_cons, Option.bind_assoc]
      congr 1
      funext s'
      exact ih

/-- **The conditional run rule.** -/
theorem run_keeps_of_meet (h : ∀ s a s', I s → C s a → m s a = some s' → I s')
    (hs : I s) (hC : m.AllMeet C s as) (hrun : m.run s as = some t) : I t := by
  induction as generalizing s with
  | nil => exact Option.some.inj hrun ▸ hs
  | cons a as ih =>
      obtain ⟨s', hstep, hrest⟩ := run_cons_eq_some.mp hrun
      exact ih (h s a s' hs hC.1 hstep) (hC.2 s' hstep) hrest

/-- **The run rule.** -/
theorem run_keeps (h : ∀ s a s', I s → m s a = some s' → I s') (hs : I s)
    (hrun : m.run s as = some t) : I t := by
  induction as generalizing s with
  | nil => exact Option.some.inj hrun ▸ hs
  | cons a as ih =>
      obtain ⟨s', hstep, hrest⟩ := run_cons_eq_some.mp hrun
      exact ih (h s a s' hs hstep) hrest

/-- **What only some steps change.**  Where every step keeps `f` or is one of `P`, the value of `f` after
a run is the one it began with or the one some step of `P` left. -/
theorem run_changed_by {β : Type} {f : σ → β} {P : σ → α → Prop}
    (h : ∀ s a s', I s → C s a → m s a = some s' → I s' ∧ (f s' = f s ∨ P s a))
    (hs : I s) (hC : m.AllMeet C s as) (hrun : m.run s as = some t) :
    f t = f s ∨ ∃ before a after u u', as = before ++ a :: after ∧ m.run s before = some u ∧
      P u a ∧ m u a = some u' ∧ f t = f u' := by
  induction as generalizing s with
  | nil => exact .inl (congrArg f (Option.some.inj hrun).symm)
  | cons a as ih =>
      obtain ⟨s', hstep, hrest⟩ := run_cons_eq_some.mp hrun
      obtain ⟨hs', hchange⟩ := h s a s' hs hC.1 hstep
      rcases ih hs' (hC.2 s' hstep) hrest with hsame | ⟨before, b, after, u, u', rfl, hbefore, hP, hb, hlast⟩
      · rcases hchange with hkept | hP
        · exact .inl (hsame.trans hkept)
        · exact .inr ⟨[], a, as, s, s', rfl, rfl, hP, hstep, hsame⟩
      · exact .inr ⟨a :: before, b, after, u, u', rfl,
          run_cons_eq_some.mpr ⟨s', hstep, hbefore⟩, hP, hb, hlast⟩

lemma allMeet_of_mem (h : ∀ a ∈ as, ∀ s, C s a) : m.AllMeet C s as := by
  induction as generalizing s with
  | nil => trivial
  | cons a as ih =>
      exact ⟨h a List.mem_cons_self s, fun s' _ => ih fun b hb => h b (List.mem_cons_of_mem _ hb)⟩

lemma AllMeet.imp {C' : σ → α → Prop} (h : ∀ s a, C s a → C' s a) (hC : m.AllMeet C s as) :
    m.AllMeet C' s as := by
  induction as generalizing s with
  | nil => trivial
  | cons a as ih => exact ⟨h s a hC.1, fun s' hs' => ih (hC.2 s' hs')⟩

lemma AllMeet.and {C' : σ → α → Prop} (hC : m.AllMeet C s as) (hC' : m.AllMeet C' s as) :
    m.AllMeet (fun s a => C s a ∧ C' s a) s as := by
  induction as generalizing s with
  | nil => trivial
  | cons a as ih => exact ⟨⟨hC.1, hC'.1⟩, fun s' hs' => ih (hC.2 s' hs') (hC'.2 s' hs')⟩

lemma AllMeet.and_mem {P : α → Prop} (hC : m.AllMeet C s as) (hP : ∀ a ∈ as, P a) :
    m.AllMeet (fun s a => C s a ∧ P a) s as := by
  induction as generalizing s with
  | nil => trivial
  | cons a as ih =>
      exact ⟨⟨hC.1, hP a List.mem_cons_self⟩, fun s' hs' =>
        ih (hC.2 s' hs') fun b hb => hP b (List.mem_cons_of_mem _ hb)⟩

lemma AllMeet.of_append (h : m.AllMeet C s (as ++ bs)) :
    m.AllMeet C s as ∧ ∀ s', m.run s as = some s' → m.AllMeet C s' bs := by
  induction as generalizing s with
  | nil => exact ⟨trivial, fun s' hs' => Option.some.inj hs' ▸ h⟩
  | cons a as ih =>
      refine ⟨⟨h.1, fun s' hs' => (ih (h.2 s' hs')).1⟩, fun t ht => ?_⟩
      obtain ⟨s', hs', hrest⟩ := run_cons_eq_some.mp ht
      exact (ih (h.2 s' hs')).2 t hrest

lemma run_append_eq_some :
    m.run s (as ++ bs) = some t ↔ ∃ s', m.run s as = some s' ∧ m.run s' bs = some t := by
  rw [run_append, Option.bind_eq_some_iff]

instance decidableAllMeet [∀ s a, Decidable (C s a)] : ∀ s as, Decidable (m.AllMeet C s as)
  | _, [] => .isTrue trivial
  | s, a :: as =>
      match h : m s a with
      | none => decidable_of_iff (C s a) (by simp [AllMeet, h])
      | some s' =>
          have : Decidable (m.AllMeet C s' as) := decidableAllMeet s' as
          decidable_of_iff (C s a ∧ m.AllMeet C s' as) (by simp [AllMeet, h])

end Machine

end Library
