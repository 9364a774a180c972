import Docketworks.Library.Transaction

/-!
# Runs of transactions

A system that answers one request after another.  A request is a transaction on the stored
state; a refused one leaves the state as it was, and the next request is served from there.

* `serve step s a` — the state after the request `a`, whether it went through or not.
* `serveAll step s as` — the state after a whole sequence of requests.
* `Reachable step init s` — `s` is reached from an initial state by some sequence.
* `serveAll_keeps` — what every request preserves holds after every sequence.
* `AllMeet step C s as` and `serveAll_keeps_of_meet` — the same where a request preserves the
  invariant only under a condition on the request and the state it meets.
-/

namespace Library

open Transaction

variable {σ ε α : Type}

/-- The state after the request `a`: the state it leaves if it goes through, and the state it
met if it is refused. -/
def serve (step : α → Transaction σ ε Unit) (s : σ) (a : α) : σ :=
  match (step a).run s with
  | .ok (_, s') => s'
  | .error _ => s

/-- The state after a sequence of requests. -/
def serveAll (step : α → Transaction σ ε Unit) (s : σ) (as : List α) : σ :=
  as.foldl (serve step) s

/-- The states a sequence of requests can reach from an initial one. -/
inductive Reachable (step : α → Transaction σ ε Unit) (init : σ → Prop) : σ → Prop
  | start {s : σ} : init s → Reachable step init s
  | next {s : σ} (a : α) : Reachable step init s → Reachable step init (serve step s a)

/-- Every request of the sequence meets `C` in the state it is served in. -/
def AllMeet (step : α → Transaction σ ε Unit) (C : σ → α → Prop) : σ → List α → Prop
  | _, [] => True
  | s, a :: as => C s a ∧ AllMeet step C (serve step s a) as

instance decidableAllMeet (step : α → Transaction σ ε Unit) (C : σ → α → Prop)
    [∀ s a, Decidable (C s a)] : ∀ s as, Decidable (AllMeet step C s as)
  | _, [] => .isTrue trivial
  | s, a :: as =>
      have := decidableAllMeet step C (serve step s a) as
      inferInstanceAs (Decidable (_ ∧ _))

variable {step : α → Transaction σ ε Unit} {I : σ → Prop}

lemma serve_of_ok {s s' : σ} {a : α} {u : Unit} (h : (step a).run s = .ok (u, s')) :
    serve step s a = s' := by
  simp [serve, h]

lemma serve_keeps_at {s : σ} {a : α}
    (h : ∀ u s', (step a).run s = .ok (u, s') → I s') (hs : I s) : I (serve step s a) := by
  unfold serve
  split
  · exact h _ _ ‹_›
  · exact hs

lemma serve_keeps (h : ∀ a, Keeps I (step a)) {s : σ} (a : α) (hs : I s) :
    I (serve step s a) :=
  serve_keeps_at (fun u s' => h a s hs u s') hs

/-- **The run rule.**  What every request preserves, every sequence of requests preserves. -/
theorem serveAll_keeps (h : ∀ a, Keeps I (step a)) {s : σ} (hs : I s) (as : List α) :
    I (serveAll step s as) := by
  induction as generalizing s with
  | nil => exact hs
  | cons a as ih => exact ih (serve_keeps h a hs)

theorem Reachable.keeps {init : σ → Prop} (h0 : ∀ s, init s → I s)
    (h : ∀ a, Keeps I (step a)) {s : σ} (hs : Reachable step init s) : I s := by
  induction hs with
  | start hinit => exact h0 _ hinit
  | next a _ ih => exact serve_keeps h a ih

lemma reachable_serveAll {init : σ → Prop} {s : σ} (hs : init s) (as : List α) :
    Reachable step init (serveAll step s as) := by
  suffices h : ∀ (as : List α) (s : σ), Reachable step init s →
      Reachable step init (serveAll step s as) from h as s (.start hs)
  intro as
  induction as with
  | nil => exact fun _ h => h
  | cons a as ih => exact fun s h => ih (serve step s a) (.next a h)

/-- **The conditional run rule.**  Where a request preserves the invariant only if it meets `C`,
a sequence whose every request meets `C` preserves it. -/
theorem serveAll_keeps_of_meet {C : σ → α → Prop}
    (h : ∀ s a, I s → C s a → ∀ u s', (step a).run s = .ok (u, s') → I s')
    {s : σ} (hs : I s) {as : List α} (hC : AllMeet step C s as) : I (serveAll step s as) := by
  induction as generalizing s with
  | nil => exact hs
  | cons a as ih => exact ih (serve_keeps_at (h s a hs hC.1) hs) hC.2

lemma AllMeet.append {C : σ → α → Prop} {s : σ} {as bs : List α}
    (h : AllMeet step C s (as ++ bs)) :
    AllMeet step C s as ∧ AllMeet step C (serveAll step s as) bs := by
  induction as generalizing s with
  | nil => exact ⟨trivial, h⟩
  | cons a as ih => exact ⟨⟨h.1, (ih h.2).1⟩, (ih h.2).2⟩

lemma AllMeet.and_mem {C : σ → α → Prop} {P : α → Prop} {s : σ} {as : List α}
    (h : AllMeet step C s as) (hP : ∀ a ∈ as, P a) :
    AllMeet step (fun s a => C s a ∧ P a) s as := by
  induction as generalizing s with
  | nil => trivial
  | cons a as ih =>
      rw [List.forall_mem_cons] at hP
      exact ⟨⟨h.1, hP.1⟩, ih h.2 hP.2⟩

/-- In the sequence a request of the kind `P` went through. -/
def WentThrough (step : α → Transaction σ ε Unit) (P : α → Prop) : σ → List α → Prop
  | _, [] => False
  | s, a :: as =>
      (P a ∧ ∃ u s', (step a).run s = .ok (u, s')) ∨ WentThrough step P (serve step s a) as

/-- What holds once a request of the kind `P` went through holds from there on. -/
theorem serveAll_keeps_after {P : α → Prop} {C : σ → α → Prop} {J : σ → Prop}
    (hJ : ∀ s a, J s → C s a → ∀ u s', (step a).run s = .ok (u, s') → J s')
    (hP : ∀ s a, I s → C s a → P a → ∀ u s', (step a).run s = .ok (u, s') → J s')
    (hI : ∀ s a, I s → C s a → ¬P a → ∀ u s', (step a).run s = .ok (u, s') → I s')
    {s : σ} (hs : I s) {as : List α} (hC : AllMeet step C s as) :
    (WentThrough step P s as → J (serveAll step s as)) ∧
      (¬WentThrough step P s as → I (serveAll step s as)) := by
  induction as generalizing s with
  | nil => exact ⟨False.elim, fun _ => hs⟩
  | cons a as ih =>
      by_cases hfirst : P a ∧ ∃ u s', (step a).run s = .ok (u, s')
      · obtain ⟨ha, u, s', hrun⟩ := hfirst
        have hafter : J (serve step s a) := by
          rw [serve_of_ok hrun]
          exact hP s a hs hC.1 ha u s' hrun
        refine ⟨fun _ => serveAll_keeps_of_meet hJ hafter hC.2, fun hnot => ?_⟩
        exact absurd (.inl ⟨ha, u, s', hrun⟩) hnot
      · have hkept : I (serve step s a) := serve_keeps_at (fun u s' hrun =>
          hI s a hs hC.1 (fun ha => hfirst ⟨ha, u, s', hrun⟩) u s' hrun) hs
        obtain ⟨hwent, hnot⟩ := ih hkept hC.2
        refine ⟨fun h => hwent (h.resolve_left hfirst), fun h => hnot fun h' => h (.inr h')⟩

end Library
