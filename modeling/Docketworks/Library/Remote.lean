import Mathlib.Tactic.Common

/-!
# Programs that call another system

A program that makes calls on a system it shares no transaction with.  What it did before it stops
stays done, and a call may go wrong on its way: refused before it takes effect, or answered by
nothing after it did.

* `Fate ε` — what becomes of a call on its way.
* `Remote κ σ ε α` — a program over the state `σ` whose calls are named by `κ`; it answers an `α`
  or is stopped by an `ε`, and leaves a state in either case.
* `call`, `ask` — a call that may change the state, and one that only reads it.
* `settle` — make an exception an answer.
* `Ends net P x Q E` — from a state satisfying `P`, the program answers and leaves a state as `Q`
  says, or is stopped and leaves one as `E` says.
* `Guards net I x` — the program preserves `I` however it ends.

**Design.**  The fates are a function of the calls, given once for a whole program.  A statement over
every such function is one about every way the calls of a program can go wrong, as long as the program
names each call it makes differently.
-/

namespace Library

/-- What becomes of a call on its way. -/
inductive Fate (ε : Type) where
  /-- It takes effect and is answered. -/
  | served
  | refused (e : ε)
  /-- It takes effect, and the caller does not learn so. -/
  | unanswered (e : ε)
deriving DecidableEq, Repr

/-- A program over the state `σ`, under the fates of its calls. -/
def Remote (κ σ ε α : Type) : Type :=
  (κ → Fate ε) → σ → Except ε α × σ

namespace Remote

variable {κ σ ε α β : Type}

/-- Run the program in the state `s`. -/
def run (x : Remote κ σ ε α) (net : κ → Fate ε) (s : σ) : Except ε α × σ := x net s

instance : Monad (Remote κ σ ε) where
  pure a := fun _ s => (.ok a, s)
  bind x f := fun net s =>
    match x net s with
    | (.ok a, t) => f a net t
    | (.error e, t) => (.error e, t)

/-! ## Steps -/

def raise (e : ε) : Remote κ σ ε α := fun _ s => (.error e, s)

/-- A computation that reads no state. -/
def compute (x : Except ε α) : Remote κ σ ε α := fun _ s => (x, s)

/-- Read the program's own part of the state, or raise. -/
def consult (f : σ → Except ε α) : Remote κ σ ε α := fun _ s => (f s, s)

/-- Change the program's own part of the state. -/
def write (f : σ → σ) : Remote κ σ ε Unit := fun _ s => (.ok (), f s)

/-- What the caller is told and what state is left, where serving the call comes to `outcome`. -/
def deliver (fate : Fate ε) (outcome : Except ε (α × σ)) (s : σ) : Except ε α × σ :=
  match fate, outcome with
  | .served, .ok (a, t) => (.ok a, t)
  | .unanswered e, .ok (_, t) => (.error e, t)
  | .refused e, _ => (.error e, s)
  | _, .error e => (.error e, s)

/-- The call `k`, with what serving it answers and does. -/
def call (k : κ) (serve : σ → Except ε (α × σ)) : Remote κ σ ε α := fun net s =>
  deliver (net k) (serve s) s

/-- The call `k`, which only reads. -/
def ask (k : κ) (serve : σ → Except ε α) : Remote κ σ ε α :=
  call k fun s => (serve s).map fun a => (a, s)

/-- The outcome of a program, an exception as any other. -/
def settle (x : Remote κ σ ε α) : Remote κ σ ε (Except ε α) := fun net s =>
  (.ok (x net s).1, (x net s).2)

/-- Rename the exceptions of a program. -/
def mapError (g : ε → ε) (x : Remote κ σ ε α) : Remote κ σ ε α := fun net s =>
  ((x net s).1.mapError g, (x net s).2)

/-! ## Runs -/

section Run

variable {net : κ → Fate ε} {s t : σ} {a : α} {e : ε} {x : Remote κ σ ε α}
  {f : α → Remote κ σ ε β}

@[simp] lemma run_pure : (pure a : Remote κ σ ε α).run net s = (.ok a, s) := rfl

@[simp] lemma run_raise : (raise e : Remote κ σ ε α).run net s = (.error e, s) := rfl

@[simp] lemma run_compute {y : Except ε α} : (compute y : Remote κ σ ε α).run net s = (y, s) := rfl

@[simp] lemma run_consult {g : σ → Except ε α} :
    (consult g : Remote κ σ ε α).run net s = (g s, s) := rfl

@[simp] lemma run_write {g : σ → σ} :
    (write g : Remote κ σ ε Unit).run net s = (.ok (), g s) := rfl

@[simp] lemma compute_ok_bind : (compute (.ok a) >>= f : Remote κ σ ε β) = f a := rfl

@[simp] lemma compute_error_bind : (compute (.error e) >>= f : Remote κ σ ε β) = raise e := rfl

lemma run_bind_of_ok (h : x.run net s = (.ok a, t)) : (x >>= f).run net s = (f a).run net t := by
  show (match x net s with
    | (.ok a, t) => f a net t
    | (.error e, t) => (.error e, t)) = _
  rw [show x net s = (.ok a, t) from h]
  rfl

lemma run_bind_of_error (h : x.run net s = (.error e, t)) :
    (x >>= f).run net s = (.error e, t) := by
  show (match x net s with
    | (.ok a, t) => f a net t
    | (.error e, t) => (.error e, t)) = _
  rw [show x net s = (.error e, t) from h]

lemma bind_assoc {γ : Type} {g : β → Remote κ σ ε γ} :
    x >>= f >>= g = x >>= fun a => f a >>= g := by
  funext net s
  show (x >>= f >>= g).run net s = (x >>= fun a => f a >>= g).run net s
  rcases h : x.run net s with ⟨e | a, t⟩
  · rw [run_bind_of_error (run_bind_of_error h), run_bind_of_error h]
  · rw [run_bind_of_ok h]
    rcases h' : (f a).run net t with ⟨e | b, u⟩
    · rw [run_bind_of_error ((run_bind_of_ok h).trans h'), run_bind_of_error h']
    · rw [run_bind_of_ok ((run_bind_of_ok h).trans h'), run_bind_of_ok h']

lemma run_call {k : κ} {g : σ → Except ε (α × σ)} :
    (call k g).run net s = deliver (net k) (g s) s := rfl

lemma run_ask {k : κ} {g : σ → Except ε α} :
    (ask k g).run net s = deliver (net k) ((g s).map fun a => (a, s)) s := rfl

lemma run_ask_state {k : κ} {g : σ → Except ε α} : ((ask k g).run net s).2 = s := by
  rw [run_ask]
  rcases net k with _ | _ | _ <;> rcases g s with e | a <;> rfl

lemma forM_cons {g : α → Remote κ σ ε Unit} {as : List α} :
    (a :: as).forM g = (g a >>= fun _ => as.forM g) := rfl

lemma run_settle : (settle x).run net s = (.ok (x.run net s).1, (x.run net s).2) := rfl

lemma run_mapError {g : ε → ε} :
    (mapError g x).run net s = ((x.run net s).1.mapError g, (x.run net s).2) := rfl

end Run

/-! ## Specifications -/

/-- From a state satisfying `P`, the program answers and leaves a state as `Q` says, or is stopped and
leaves one as `E` says. -/
def Ends (net : κ → Fate ε) (P : σ → Prop) (x : Remote κ σ ε α) (Q : α → σ → Prop)
    (E : σ → Prop) : Prop :=
  ∀ s, P s → match x.run net s with
    | (.ok a, t) => Q a t
    | (.error _, t) => E t

/-- The program preserves `I` however it ends. -/
def Guards (net : κ → Fate ε) (I : σ → Prop) (x : Remote κ σ ε α) : Prop :=
  ∀ s, I s → I (x.run net s).2

section Ends

variable {net : κ → Fate ε} {P P' : σ → Prop} {Q Q' : α → σ → Prop} {R : β → σ → Prop}
  {E E' : σ → Prop} {x y : Remote κ σ ε α}

lemma Ends.of_ok (h : Ends net P x Q E) {s t : σ} {a : α} (hs : P s)
    (hrun : x.run net s = (.ok a, t)) : Q a t := by
  have hx := h s hs
  rw [hrun] at hx
  exact hx

lemma Ends.conseq (h : Ends net P x Q E) (hP : ∀ s, P' s → P s) (hQ : ∀ a s, Q a s → Q' a s)
    (hE : ∀ s, E s → E' s) : Ends net P' x Q' E' := by
  intro s hs
  have hx := h s (hP s hs)
  rcases hrun : x.run net s with ⟨_ | a, t⟩
  · rw [hrun] at hx
    exact hE t hx
  · rw [hrun] at hx
    exact hQ a t hx

lemma Ends.trivial : Ends net P x (fun _ _ => True) fun _ => True := by
  intro s _
  rcases x.run net s with ⟨_ | _, _⟩ <;> exact True.intro

lemma Ends.pure {a : α} (h : ∀ s, P s → Q a s) : Ends net P (Pure.pure a) Q E :=
  fun s hs => h s hs

lemma Ends.raise {e : ε} (h : ∀ s, P s → E s) : Ends net P (Remote.raise e) Q E :=
  fun s hs => h s hs

lemma Ends.bind {f : α → Remote κ σ ε β} (hx : Ends net P x Q E)
    (hf : ∀ a, Ends net (Q a) (f a) R E) : Ends net P (x >>= f) R E := by
  intro s hs
  have h := hx s hs
  rcases hrun : x.run net s with ⟨_ | a, t⟩
  · rw [hrun] at h
    rw [run_bind_of_error hrun]
    exact h
  · rw [hrun] at h
    rw [run_bind_of_ok hrun]
    exact hf a t h

lemma Ends.compute {z : Except ε α} (h : ∀ a, z = .ok a → ∀ s, P s → Q a s)
    (hE : ∀ s, P s → E s) : Ends net P (Remote.compute z) Q E := by
  intro s hs
  rcases z with e | a
  · exact hE s hs
  · exact h a rfl s hs

lemma Ends.write {g : σ → σ} {Q : Unit → σ → Prop} (h : ∀ s, P s → Q () (g s)) :
    Ends net P (Remote.write g) Q E :=
  fun s hs => h s hs

lemma Ends.call {k : κ} {g : σ → Except ε (α × σ)}
    (h : ∀ s a t, P s → g s = .ok (a, t) → Q a t ∧ E t) (hE : ∀ s, P s → E s) :
    Ends net P (Remote.call k g) Q E := by
  intro s hs
  rw [run_call]
  rcases net k with _ | e | e
  · rcases hg : g s with e | ⟨a, t⟩
    · exact hE s hs
    · exact (h s a t hs hg).1
  · exact hE s hs
  · rcases hg : g s with e' | ⟨a, t⟩
    · exact hE s hs
    · exact (h s a t hs hg).2

lemma Ends.ask {k : κ} {g : σ → Except ε α} (h : ∀ s a, P s → g s = .ok a → Q a s)
    (hE : ∀ s, P s → E s) : Ends net P (Remote.ask k g) Q E := by
  refine Ends.call (fun s a t hs hg => ?_) hE
  rcases ha : g s with e | b
  · rw [ha] at hg
    cases hg
  · rw [ha] at hg
    obtain ⟨rfl, rfl⟩ := Prod.mk.inj (Except.ok.inj hg)
    exact ⟨h s b hs ha, hE s hs⟩

lemma Ends.settle (h : Ends net P x Q E) : Ends net P (settle x)
    (fun r s => (∀ a, r = .ok a → Q a s) ∧ ((∃ e, r = .error e) → E s)) E' := by
  intro s hs
  have hx := h s hs
  rw [run_settle]
  rcases hrun : x.run net s with ⟨e | a, t⟩
  · rw [hrun] at hx
    exact ⟨nofun, fun _ => hx⟩
  · rw [hrun] at hx
    refine ⟨?_, nofun⟩
    rintro b ⟨⟩
    exact hx

lemma Ends.ite {p : Prop} [Decidable p] (hx : p → Ends net P x Q E) (hy : ¬p → Ends net P y Q E) :
    Ends net P (if p then x else y) Q E := by
  split
  · exact hx ‹_›
  · exact hy ‹_›

lemma Ends.forM {xs : List α} {f : α → Remote κ σ ε Unit}
    (h : ∀ a ∈ xs, Ends net P (f a) (fun _ => P) E) : Ends net P (xs.forM f) (fun _ => P) E := by
  induction xs with
  | nil => exact Ends.pure fun _ hs => hs
  | cons a as ih =>
      refine Ends.bind (h a List.mem_cons_self) fun _ => ih fun b hb => ?_
      exact h b (List.mem_cons_of_mem a hb)

lemma Ends.and_guards (h : Ends net P x Q E) (hI : ∀ s, P s → P' (x.run net s).2) :
    Ends net P x (fun a s => Q a s ∧ P' s) (fun s => E s ∧ P' s) := by
  intro s hs
  have hx := h s hs
  have hguard := hI s hs
  rcases hrun : x.run net s with ⟨e | a, t⟩
  · rw [hrun] at hx hguard
    exact ⟨hx, hguard⟩
  · rw [hrun] at hx hguard
    exact ⟨hx, hguard⟩

end Ends

section Guards

variable {net : κ → Fate ε} {I : σ → Prop} {x y : Remote κ σ ε α}

lemma Ends.always {P : σ → Prop} (h : Ends net P x (fun _ => I) I) {s : σ} (hs : P s) :
    I (x.run net s).2 := by
  have hx := h s hs
  rcases hrun : x.run net s with ⟨e | a, t⟩
  · rw [hrun] at hx
    exact hx
  · rw [hrun] at hx
    exact hx

lemma Ends.guards (h : Ends net I x (fun _ => I) I) : Guards net I x := fun _ hs => h.always hs

lemma Guards.ends (h : Guards net I x) : Ends net I x (fun _ => I) I := by
  intro s hs
  have hx := h s hs
  rcases hrun : x.run net s with ⟨e | a, t⟩
  · rw [hrun] at hx
    exact hx
  · rw [hrun] at hx
    exact hx

lemma Guards.pure {a : α} : Guards net I (Pure.pure a : Remote κ σ ε α) := fun _ hs => hs

lemma Guards.raise {e : ε} : Guards net I (Remote.raise e : Remote κ σ ε α) := fun _ hs => hs

lemma Guards.compute {z : Except ε α} : Guards net I (Remote.compute z : Remote κ σ ε α) :=
  fun _ hs => hs

lemma Guards.consult {g : σ → Except ε α} : Guards net I (Remote.consult g : Remote κ σ ε α) :=
  fun _ hs => hs

lemma Guards.write {g : σ → σ} (h : ∀ s, I s → I (g s)) :
    Guards net I (Remote.write g : Remote κ σ ε Unit) :=
  h

lemma Guards.bind {f : α → Remote κ σ ε β} (hx : Guards net I x) (hf : ∀ a, Guards net I (f a)) :
    Guards net I (x >>= f) :=
  Ends.guards (Ends.bind hx.ends fun a => (hf a).ends)

lemma Guards.ask {k : κ} {g : σ → Except ε α} : Guards net I (Remote.ask k g) := by
  intro s hs
  rw [run_ask_state]
  exact hs

lemma Guards.settle (h : Guards net I x) : Guards net I (settle x) := h

lemma Guards.mapError {g : ε → ε} (h : Guards net I x) : Guards net I (Remote.mapError g x) := h

lemma Guards.ite {p : Prop} [Decidable p] (hx : p → Guards net I x) (hy : ¬p → Guards net I y) :
    Guards net I (if p then x else y) := by
  split
  · exact hx ‹_›
  · exact hy ‹_›

lemma Guards.forM {xs : List α} {f : α → Remote κ σ ε Unit} (h : ∀ a ∈ xs, Guards net I (f a)) :
    Guards net I (xs.forM f) :=
  Ends.guards (Ends.forM fun a ha => (h a ha).ends)

end Guards

end Remote

end Library
