import Mathlib.Tactic.Common

/-!
# Programs of parties, one call at a time

A party of an interleaved system, as the tree of what it does next: it makes one atomic call on what
the parties share and goes on with the call's answer, or it has ended.  Between two calls any other
party may move.

* `Process C R ε α` — a party whose calls are named by `C` and answered in `R`.
* `andThen`, `attempt`, `tryCatch`, `ensuring` — how programs are put together.
* `Monitor` — what an observer of one party knows, updated by every call of it, and the calls it
  allows on that knowledge.
* `Obeys M m p Q` — from knowledge `m`, the party `p` makes only allowed calls whatever the answers
  are, and ends as `Q` says.
* `Obeys.andThen`, `Obeys.imp`, `Obeys.mono` — the rules.

**Design.**  A monitor's knowledge is about the shared state as one party sees it.  An invariant of
the whole system then says that every party obeys the monitor from what is true at that moment, and
`mono` says which changes made by the others leave that standing.
-/

namespace Library

/-- What a party does next: it has ended, or it makes a call and goes on with the answer. -/
inductive Process (C : Type) (R : C → Type) (ε α : Type) : Type where
  | done (result : Except ε α)
  | call (c : C) (next : Except ε (R c) → Process C R ε α)

namespace Process

variable {C : Type} {R : C → Type} {ε α β γ : Type}

/-- Go on with whatever the program ended in. -/
def andThen : Process C R ε α → (Except ε α → Process C R ε β) → Process C R ε β
  | .done result, k => k result
  | .call c next, k => .call c fun answer => (next answer).andThen k

/-- Go on with the answer; an exception ends the whole. -/
def bind (p : Process C R ε α) (f : α → Process C R ε β) : Process C R ε β :=
  p.andThen fun
    | .ok a => f a
    | .error e => .done (.error e)

instance : Monad (Process C R ε) where
  pure a := .done (.ok a)
  bind := bind

def raise (e : ε) : Process C R ε α := .done (.error e)

/-- Make one call. -/
def perform (c : C) : Process C R ε (R c) := .call c .done

/-- An exception is an answer. -/
def attempt (p : Process C R ε α) : Process C R ε (Except ε α) :=
  p.andThen fun result => .done (.ok result)

/-- Handle an exception. -/
def tryCatch (p : Process C R ε α) (handle : ε → Process C R ε α) : Process C R ε α :=
  p.andThen fun
    | .ok a => .done (.ok a)
    | .error e => handle e

/-- Whatever the program ends in, do this too; its own exception takes over. -/
def ensuring (p : Process C R ε α) (after : Process C R ε Unit) : Process C R ε α :=
  p.andThen fun result => after.andThen fun
    | .ok _ => .done result
    | .error e => .done (.error e)

/-- The program has ended. -/
def Finished : Process C R ε α → Bool
  | .done _ => true
  | .call _ _ => false

end Process

/-! ## Monitors -/

/-- What an observer of one party knows, the calls it allows, the answers it expects, and what it
knows after a call is answered. -/
structure Monitor (C : Type) (R : C → Type) (ε μ : Type) where
  allows : μ → C → Prop
  expects : μ → (c : C) → Except ε (R c) → Prop
  after : μ → (c : C) → Except ε (R c) → μ

variable {C : Type} {R : C → Type} {ε α β μ : Type}

/-- From knowledge `m`, the party makes only allowed calls as long as the answers are expected ones,
and ends as `Q` says. -/
def Obeys (M : Monitor C R ε μ) (m : μ) : Process C R ε α → (μ → Except ε α → Prop) → Prop
  | .done result, Q => Q m result
  | .call c next, Q =>
      M.allows m c ∧ ∀ answer, M.expects m c answer → Obeys M (M.after m c answer) (next answer) Q

namespace Obeys

variable {M : Monitor C R ε μ} {m m' : μ} {p : Process C R ε α}
  {Q Q' : μ → Except ε α → Prop} {P : μ → Except ε β → Prop}

lemma done {result : Except ε α} (h : Q m result) : Obeys M m (.done result) Q := h

lemma imp (h : Obeys M m p Q) (hQ : ∀ m result, Q m result → Q' m result) : Obeys M m p Q' := by
  induction p generalizing m with
  | done result => exact hQ m result h
  | call c next ih => exact ⟨h.1, fun answer ha => ih answer (h.2 answer ha)⟩

/-- **The sequence rule.** -/
theorem andThen {k : Except ε α → Process C R ε β} (hp : Obeys M m p Q)
    (hk : ∀ m result, Q m result → Obeys M m (k result) P) : Obeys M m (p.andThen k) P := by
  induction p generalizing m with
  | done result => exact hk m result hp
  | call c next ih => exact ⟨hp.1, fun answer ha => ih answer (hp.2 answer ha)⟩

lemma perform {c : C} {Q : μ → Except ε (R c) → Prop} (hc : M.allows m c)
    (hQ : ∀ answer, M.expects m c answer → Q (M.after m c answer) answer) :
    Obeys M m (Process.perform c) Q :=
  ⟨hc, hQ⟩

/-- The rule for a sequence of a program and what follows its answer: an exception of the first is
one of the whole. -/
theorem bind {f : α → Process C R ε β} (hp : Obeys M m p Q)
    (hok : ∀ m a, Q m (.ok a) → Obeys M m (f a) P)
    (herror : ∀ m e, Q m (.error e) → P m (.error e)) : Obeys M m (p >>= f) P := by
  refine hp.andThen fun m result h => ?_
  cases result with
  | ok a => exact hok m a h
  | error e => exact herror m e h

theorem attempt_bind {f : Except ε α → Process C R ε β} (hp : Obeys M m p Q)
    (hf : ∀ m result, Q m result → Obeys M m (f result) P) : Obeys M m (p.attempt >>= f) P :=
  bind (Q := fun m result => ∃ r, result = .ok r ∧ Q m r)
    (hp.andThen fun _ result h => done ⟨result, rfl, h⟩)
    (fun m _ ⟨r, hr, hQ⟩ => Except.ok.inj hr ▸ hf m r hQ) fun _ _ ⟨_, hr, _⟩ => nomatch hr

theorem tryCatch {handle : ε → Process C R ε α} (hp : Obeys M m p Q)
    (hok : ∀ m a, Q m (.ok a) → Q' m (.ok a))
    (herror : ∀ m e, Q m (.error e) → Obeys M m (handle e) Q') :
    Obeys M m (p.tryCatch handle) Q' := by
  refine hp.andThen fun m result h => ?_
  cases result with
  | ok a => exact hok m a h
  | error e => exact herror m e h

theorem ensuring {after : Process C R ε Unit} (hp : Obeys M m p Q)
    (hafter : ∀ m result, Q m result → Obeys M m after fun _ _ => True) :
    Obeys M m (p.ensuring after) fun _ _ => True := by
  refine hp.andThen fun m result h => (hafter m result h).andThen fun _ result' _ => ?_
  cases result' <;> trivial

/-- **The change rule.**  Knowledge that allows more and expects less stands in for the other, where
every call keeps it so. -/
theorem mono {le : μ → μ → Prop}
    (allows : ∀ m m' c, le m m' → M.allows m c → M.allows m' c)
    (expects : ∀ m m' c answer, le m m' → M.expects m' c answer → M.expects m c answer)
    (after : ∀ m m' c answer, le m m' → le (M.after m c answer) (M.after m' c answer))
    (ends : ∀ m m' result, le m m' → Q m result → Q m' result)
    (hle : le m m') (h : Obeys M m p Q) : Obeys M m' p Q := by
  induction p generalizing m m' with
  | done result => exact ends m m' result hle h
  | call c next ih =>
      exact ⟨allows m m' c hle h.1, fun answer ha =>
        ih answer (after m m' c answer hle) (h.2 answer (expects m m' c answer hle ha))⟩

end Obeys

end Library
