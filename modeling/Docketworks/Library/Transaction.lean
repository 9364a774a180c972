import Mathlib.Data.List.Forall2
import Mathlib.Tactic.Common

/-!
# Atomic transactions

A service call reads and writes a stored state and may refuse.  A refusal carries an error and
no state, so whatever the call wrote before it refused is gone: this is what a database
transaction promises, and it is built into the type here.

* `bind_eq_ok`, `map_eq_ok`, `pure_eq_ok`, `mapM_eq_ok` — what a fallible computation that answered did.
* `FailsWith P x` — how a computation fails; its rules follow the shape of the computation.
* `Transaction σ ε α` — a call over the state `σ` that answers an `α` or refuses with an `ε`.
* `require`, `orRefuse` — the two ways a call refuses: a condition that fails, a row that is
  not there.
* `Triple P x Q` — from a state satisfying `P`, a call that goes through ends in `Q`.  The rules
  `Triple.bind`, `Triple.forM`, `Triple.ite` follow the shape of the call.
* `Keeps I x` — the call preserves the invariant `I`.

**Design.**  Inversion and triples are both offered.  The `run_…` lemmas turn
`x.run s = .ok (a, s')` into the facts that made it so, one call at a time; they are the simp set
for the specification lemma of one service.  Triples compose such specifications, and carry an
invariant through a long call without naming the states in between.
-/

namespace Library

/-! ## Fallible answers -/

section Fallible

variable {ε α β : Type} {a a' : α} {b : β} {x : Except ε α}

@[simp] lemma ok_bind {f : α → Except ε β} : ((.ok a : Except ε α) >>= f) = f a := rfl

@[simp] lemma bind_eq_ok {f : α → Except ε β} :
    (x >>= f) = .ok b ↔ ∃ a, x = .ok a ∧ f a = .ok b := by
  rcases x with e | a
  · constructor
    · rintro ⟨⟩
    · rintro ⟨_, ⟨⟩, _⟩
  · constructor
    · exact fun h => ⟨a, rfl, h⟩
    · rintro ⟨_, ⟨⟩, h⟩
      exact h

@[simp] lemma map_eq_ok {f : α → β} : x.map f = .ok b ↔ ∃ a, x = .ok a ∧ f a = b := by
  rcases x with e | a <;> simp [Except.map]

@[simp] lemma pure_eq_ok : (pure a : Except ε α) = .ok a' ↔ a = a' := by
  simp [pure, Except.pure]

lemma mapM_eq_ok {f : α → Except ε β} {as : List α} {bs : List β} :
    as.mapM f = .ok bs ↔ List.Forall₂ (fun a b => f a = .ok b) as bs := by
  induction as generalizing bs with
  | nil =>
      rw [List.mapM_nil, pure_eq_ok, List.forall₂_nil_left_iff]
      exact eq_comm
  | cons a as ih =>
      simp only [List.mapM_cons, bind_eq_ok, pure_eq_ok, List.forall₂_cons_left_iff, ih]
      constructor
      · rintro ⟨b, hb, bs', hbs, rfl⟩
        exact ⟨b, bs', hb, hbs, rfl⟩
      · rintro ⟨b, bs', hb, hbs, rfl⟩
        exact ⟨b, hb, bs', hbs, rfl⟩

lemma exists_of_mem_mapM {f : α → Except ε β} {as : List α} {bs : List β} (h : as.mapM f = .ok bs)
    (hb : b ∈ bs) : ∃ a ∈ as, f a = .ok b := by
  replace h := mapM_eq_ok.mp h
  induction h with
  | nil => exact absurd hb List.not_mem_nil
  | @cons a _ _ _ ha _ ih =>
      rcases List.mem_cons.mp hb with rfl | hb
      · exact ⟨a, List.mem_cons_self, ha⟩
      · obtain ⟨a', ha', hfa'⟩ := ih hb
        exact ⟨a', List.mem_cons_of_mem _ ha', hfa'⟩

lemma filterM_eq_ok {p : α → Except ε Bool} {as picked : List α} (h : as.filterM p = .ok picked) :
    (∀ a ∈ as, ∃ b, p a = .ok b) ∧ ∀ a ∈ picked, a ∈ as ∧ p a = .ok true := by
  have haux : ∀ acc r, as.filterAuxM p acc = .ok r →
      (∀ a ∈ as, ∃ b, p a = .ok b) ∧ ∀ a ∈ r, a ∈ acc ∨ (a ∈ as ∧ p a = .ok true) := by
    clear h
    induction as with
    | nil =>
        intro acc r h
        obtain rfl : acc = r := pure_eq_ok.mp h
        exact ⟨fun _ ha => absurd ha List.not_mem_nil, fun a ha => .inl ha⟩
    | cons a as ih =>
        intro acc r h
        obtain ⟨b, hb, h⟩ := bind_eq_ok.mp h
        obtain ⟨hall, hpicked⟩ := ih _ r h
        refine ⟨List.forall_mem_cons.mpr ⟨⟨b, hb⟩, hall⟩, fun c hc => ?_⟩
        rcases hpicked c hc with hc | ⟨hc, hpass⟩
        · cases b with
          | true =>
              rcases List.mem_cons.mp hc with rfl | hc
              · exact .inr ⟨List.mem_cons_self, hb⟩
              · exact .inl hc
          | false => exact .inl hc
        · exact .inr ⟨List.mem_cons_of_mem a hc, hpass⟩
  unfold List.filterM at h
  obtain ⟨r, hr, h⟩ := bind_eq_ok.mp h
  obtain rfl := pure_eq_ok.mp h
  obtain ⟨hall, hpicked⟩ := haux [] r hr
  refine ⟨hall, fun a ha => ?_⟩
  rcases hpicked a (List.mem_reverse.mp ha) with ha | ha
  · exact absurd ha List.not_mem_nil
  · exact ha

/-! ### How a computation fails -/

/-- The computation fails with an error that is `P`, if it fails. -/
def FailsWith (P : ε → Prop) (x : Except ε α) : Prop := ∀ e, x = .error e → P e

namespace FailsWith

variable {P Q : ε → Prop} {e : ε}

lemma ok : FailsWith P (.ok a : Except ε α) := fun _ h => nomatch h

lemma error (h : P e) : FailsWith P (.error e : Except ε α) := by
  intro e' he'
  obtain rfl := Except.error.inj he'
  exact h

lemma bind {f : α → Except ε β} (hx : FailsWith P x) (hf : ∀ a, FailsWith P (f a)) :
    FailsWith P (x >>= f) := by
  rcases x with e | a
  · intro e' he'
    obtain rfl := Except.error.inj he'
    exact hx _ rfl
  · exact hf a

lemma map {f : α → β} (hx : FailsWith P x) : FailsWith P (x.map f) := by
  rcases x with e | a
  · intro e' he'
    obtain rfl := Except.error.inj he'
    exact hx _ rfl
  · exact ok

lemma foldlM {f : β → α → Except ε β} (hf : ∀ b a, FailsWith P (f b a)) (as : List α) (b : β) :
    FailsWith P (as.foldlM f b) := by
  induction as generalizing b with
  | nil => exact ok
  | cons a as ih =>
      rw [List.foldlM_cons]
      exact bind (hf b a) fun b => ih b

lemma mapM {f : α → Except ε β} (hf : ∀ a, FailsWith P (f a)) (as : List α) : FailsWith P (as.mapM f) := by
  induction as with
  | nil => exact ok
  | cons a as ih =>
      rw [List.mapM_cons]
      exact bind (hf a) fun _ => bind ih fun _ => ok

end FailsWith

end Fallible

/-- A call over the stored state `σ` that refuses with an `ε` or answers an `α` with the state
it leaves. -/
def Transaction (σ ε α : Type) : Type :=
  σ → Except ε (α × σ)

namespace Transaction

variable {σ τ ε α β : Type}

/-- Make the call in the state `s`. -/
def run (x : Transaction σ ε α) (s : σ) : Except ε (α × σ) := x s

instance : Monad (Transaction σ ε) where
  pure a := fun s => .ok (a, s)
  bind x f := fun s =>
    match x s with
    | .ok (a, t) => f a t
    | .error e => .error e

/-! ## Refusing, reading and writing -/

/-- Refuse: no answer, and nothing is written. -/
def refuse (e : ε) : Transaction σ ε α := fun _ => .error e

/-- Refuse with `e` unless `p` holds. -/
def require (p : Prop) [Decidable p] (e : ε) : Transaction σ ε Unit := fun s =>
  if p then .ok ((), s) else .error e

/-- Make the call only if `p` holds. -/
def when (p : Prop) [Decidable p] (x : Transaction σ ε Unit) : Transaction σ ε Unit :=
  if p then x else pure ()

/-- The value of `x?`, or the refusal `e` where there is none. -/
def orRefuse (x? : Option α) (e : ε) : Transaction σ ε α := fun s =>
  match x? with
  | some x => .ok (x, s)
  | none => .error e

/-- Read one part of the state. -/
def read (f : σ → α) : Transaction σ ε α := fun s => .ok (f s, s)

/-- Answer from the state as it stands, or refuse. -/
def consult (f : σ → Except ε α) : Transaction σ ε α := fun s => (f s).map fun a => (a, s)

/-- Replace the state by its image under `f`. -/
def write (f : σ → σ) : Transaction σ ε Unit := fun s => .ok ((), f s)

/-! ## What a call that went through did -/

section Run

variable {s s' : σ} {a a' : α} {b : β} {e : ε}

@[simp] lemma run_pure :
    (pure a : Transaction σ ε α).run s = .ok (a', s') ↔ a = a' ∧ s = s' := by
  simp [run, pure]

@[simp] lemma run_refuse : (refuse e : Transaction σ ε α).run s = .ok (a, s') ↔ False := by
  simp [run, refuse]

/-- A sequenced call went through exactly when its two parts did, the second from the state the
first left. -/
@[simp] lemma run_bind {x : Transaction σ ε α} {f : α → Transaction σ ε β} :
    (x >>= f).run s = .ok (b, s') ↔
      ∃ a t, x.run s = .ok (a, t) ∧ (f a).run t = .ok (b, s') := by
  rcases h : x s with e | ⟨a, t⟩
  · simp [run, bind, h]
  · simp [run, bind, h]

@[simp] lemma run_read {f : σ → α} :
    (read f : Transaction σ ε α).run s = .ok (a, s') ↔ f s = a ∧ s = s' := by
  simp [read, run]

@[simp] lemma run_consult {f : σ → Except ε α} :
    (consult f : Transaction σ ε α).run s = .ok (a, s') ↔ f s = .ok a ∧ s = s' := by
  rcases h : f s with e | b <;> simp [consult, run, h, Except.map]

@[simp] lemma run_write {f : σ → σ} {u : Unit} :
    (write f : Transaction σ ε Unit).run s = .ok (u, s') ↔ f s = s' := by
  simp [write, run]

@[simp] lemma run_require {p : Prop} [Decidable p] {u : Unit} :
    (require p e : Transaction σ ε Unit).run s = .ok (u, s') ↔ p ∧ s = s' := by
  by_cases hp : p <;> simp [require, run, hp]

@[simp] lemma run_orRefuse {x? : Option α} :
    (orRefuse x? e : Transaction σ ε α).run s = .ok (a, s') ↔ x? = some a ∧ s = s' := by
  cases x? <;> simp [orRefuse, run]

@[simp] lemma run_ite {p : Prop} [Decidable p] {x y : Transaction σ ε α} :
    (if p then x else y).run s = .ok (a, s') ↔
      (p ∧ x.run s = .ok (a, s')) ∨ (¬p ∧ y.run s = .ok (a, s')) := by
  by_cases hp : p <;> simp [hp]

@[simp] lemma run_when {p : Prop} [Decidable p] {x : Transaction σ ε Unit} {u : Unit} :
    (when p x).run s = .ok (u, s') ↔ (p ∧ x.run s = .ok (u, s')) ∨ (¬p ∧ s = s') := by
  simp [when]

@[simp] lemma run_forM_nil {f : α → Transaction σ ε Unit} {u : Unit} :
    ((([] : List α).forM f).run s = .ok (u, s')) ↔ s = s' := by
  simp [List.forM]

@[simp] lemma run_forM_cons {x : α} {xs : List α} {f : α → Transaction σ ε Unit} {u : Unit} :
    (((x :: xs).forM f).run s = .ok (u, s')) ↔
      ∃ t, (f x).run s = .ok ((), t) ∧ (xs.forM f).run t = .ok (u, s') := by
  simp only [List.forM, run_bind]
  exact ⟨fun ⟨_, h⟩ => h, fun h => ⟨(), h⟩⟩

end Run

/-! ## Trying a call out -/

/-- The call goes through from `s`, and leaves a state that passes the test. -/
def endsIn (x : Transaction σ ε α) (s : σ) (p : α → σ → Bool) : Bool :=
  match x.run s with
  | .ok (a, s') => p a s'
  | .error _ => false

lemma exists_of_endsIn {x : Transaction σ ε α} {s : σ} {p : α → σ → Bool}
    (h : endsIn x s p = true) : ∃ a s', x.run s = .ok (a, s') ∧ p a s' = true := by
  unfold endsIn at h
  split at h
  · exact ⟨_, _, ‹_›, h⟩
  · cases h

/-! ## Triples -/

/-- **Partial correctness.**  Started in a state satisfying `P`, the call, if it goes through,
answers and leaves a state as `Q` says.  A refused call leaves nothing to say. -/
def Triple (P : σ → Prop) (x : Transaction σ ε α) (Q : α → σ → Prop) : Prop :=
  ∀ s, P s → ∀ a s', x.run s = .ok (a, s') → Q a s'

/-- The call preserves the invariant `I`. -/
def Keeps (I : σ → Prop) (x : Transaction σ ε α) : Prop :=
  Triple I x (fun _ => I)

namespace Triple

variable {P P' : σ → Prop} {Q Q' : α → σ → Prop} {R : β → σ → Prop} {x y : Transaction σ ε α}

lemma conseq (h : Triple P x Q) (hP : ∀ s, P' s → P s) (hQ : ∀ a s, Q a s → Q' a s) :
    Triple P' x Q' :=
  fun s hs a s' hrun => hQ a s' (h s (hP s hs) a s' hrun)

lemma pure {a : α} (h : ∀ s, P s → Q a s) : Triple P (Pure.pure a : Transaction σ ε α) Q := by
  intro s hs a' s' hrun
  obtain ⟨rfl, rfl⟩ := run_pure.mp hrun
  exact h s hs

lemma refuse {e : ε} : Triple P (Transaction.refuse e : Transaction σ ε α) Q :=
  fun _ _ _ _ hrun => (run_refuse.mp hrun).elim

lemma bind {f : α → Transaction σ ε β} (hx : Triple P x Q) (hf : ∀ a, Triple (Q a) (f a) R) :
    Triple P (x >>= f) R := by
  intro s hs b s' hrun
  obtain ⟨a, t, hxt, hft⟩ := run_bind.mp hrun
  exact hf a t (hx s hs a t hxt) b s' hft

lemma read {f : σ → α} (h : ∀ s, P s → Q (f s) s) :
    Triple P (Transaction.read f : Transaction σ ε α) Q := by
  intro s hs a s' hrun
  obtain ⟨rfl, rfl⟩ := run_read.mp hrun
  exact h s hs

lemma consult {f : σ → Except ε α} (h : ∀ s a, f s = .ok a → P s → Q a s) :
    Triple P (Transaction.consult f : Transaction σ ε α) Q := by
  intro s hs a s' hrun
  obtain ⟨ha, rfl⟩ := run_consult.mp hrun
  exact h s a ha hs

lemma write {f : σ → σ} {Q : Unit → σ → Prop} (h : ∀ s, P s → Q () (f s)) :
    Triple P (Transaction.write f : Transaction σ ε Unit) Q := by
  intro s hs a s' hrun
  rw [← run_write.mp hrun]
  exact h s hs

lemma require {p : Prop} [Decidable p] {e : ε} {Q : Unit → σ → Prop}
    (h : p → ∀ s, P s → Q () s) :
    Triple P (Transaction.require p e : Transaction σ ε Unit) Q := by
  intro s hs a s' hrun
  obtain ⟨hp, rfl⟩ := run_require.mp hrun
  exact h hp s hs

lemma orRefuse {x? : Option α} {e : ε} (h : ∀ a, x? = some a → ∀ s, P s → Q a s) :
    Triple P (Transaction.orRefuse x? e : Transaction σ ε α) Q := by
  intro s hs a s' hrun
  obtain ⟨ha, rfl⟩ := run_orRefuse.mp hrun
  exact h a ha s hs

lemma ite {p : Prop} [Decidable p] (hx : p → Triple P x Q) (hy : ¬p → Triple P y Q) :
    Triple P (if p then x else y) Q := by
  split
  · exact hx ‹_›
  · exact hy ‹_›

end Triple

namespace Keeps

variable {I : σ → Prop} {x y : Transaction σ ε α}

lemma pure {a : α} : Keeps I (Pure.pure a : Transaction σ ε α) := Triple.pure fun _ hs => hs

lemma refuse {e : ε} : Keeps I (Transaction.refuse e : Transaction σ ε α) := Triple.refuse

lemma bind {f : α → Transaction σ ε β} (hx : Keeps I x) (hf : ∀ a, Keeps I (f a)) :
    Keeps I (x >>= f) :=
  Triple.bind hx hf

lemma read {f : σ → α} : Keeps I (Transaction.read f : Transaction σ ε α) :=
  Triple.read fun _ hs => hs

lemma consult {f : σ → Except ε α} : Keeps I (Transaction.consult f : Transaction σ ε α) :=
  Triple.consult fun _ _ _ hs => hs

lemma write {f : σ → σ} (h : ∀ s, I s → I (f s)) :
    Keeps I (Transaction.write f : Transaction σ ε Unit) :=
  Triple.write h

lemma require {p : Prop} [Decidable p] {e : ε} :
    Keeps I (Transaction.require p e : Transaction σ ε Unit) :=
  Triple.require fun _ _ hs => hs

lemma orRefuse {x? : Option α} {e : ε} :
    Keeps I (Transaction.orRefuse x? e : Transaction σ ε α) :=
  Triple.orRefuse fun _ _ _ hs => hs

lemma ite {p : Prop} [Decidable p] (hx : p → Keeps I x) (hy : ¬p → Keeps I y) :
    Keeps I (if p then x else y) :=
  Triple.ite hx hy

lemma when {p : Prop} [Decidable p] {x : Transaction σ ε Unit} (hx : p → Keeps I x) :
    Keeps I (Transaction.when p x) :=
  ite hx fun _ => pure

lemma forM {xs : List α} {f : α → Transaction σ ε Unit} (h : ∀ a ∈ xs, Keeps I (f a)) :
    Keeps I (xs.forM f) := by
  induction xs with
  | nil => exact Keeps.pure
  | cons a as ih =>
      refine Keeps.bind (h a List.mem_cons_self) fun _ => ih fun b hb => ?_
      exact h b (List.mem_cons_of_mem a hb)

lemma foldlM {xs : List β} {f : α → β → Transaction σ ε α} (h : ∀ a, ∀ b ∈ xs, Keeps I (f a b))
    {a : α} : Keeps I (xs.foldlM f a) := by
  induction xs generalizing a with
  | nil => exact Keeps.pure
  | cons b bs ih =>
      refine Keeps.bind (h a b List.mem_cons_self) fun _ => ih fun a c hc => ?_
      exact h a c (List.mem_cons_of_mem b hc)

end Keeps

/-! ## Calls that only read -/

/-- The call leaves the state as it was. -/
def ReadOnly (x : Transaction σ ε α) : Prop :=
  ∀ s a s', x.run s = .ok (a, s') → s' = s

namespace ReadOnly

variable {x y : Transaction σ ε α}

lemma keeps {I : σ → Prop} (h : ReadOnly x) : Keeps I x :=
  fun s hs a s' hrun => h s a s' hrun ▸ hs

lemma pure {a : α} : ReadOnly (Pure.pure a : Transaction σ ε α) :=
  fun _ _ _ h => (run_pure.mp h).2.symm

lemma refuse {e : ε} : ReadOnly (Transaction.refuse e : Transaction σ ε α) :=
  fun _ _ _ h => (run_refuse.mp h).elim

lemma read {f : σ → α} : ReadOnly (Transaction.read f : Transaction σ ε α) :=
  fun _ _ _ h => (run_read.mp h).2.symm

lemma require {p : Prop} [Decidable p] {e : ε} :
    ReadOnly (Transaction.require p e : Transaction σ ε Unit) :=
  fun _ _ _ h => (run_require.mp h).2.symm

lemma orRefuse {x? : Option α} {e : ε} :
    ReadOnly (Transaction.orRefuse x? e : Transaction σ ε α) :=
  fun _ _ _ h => (run_orRefuse.mp h).2.symm

lemma bind {f : α → Transaction σ ε β} (hx : ReadOnly x) (hf : ∀ a, ReadOnly (f a)) :
    ReadOnly (x >>= f) := by
  intro s b s' h
  obtain ⟨a, t, hxt, hft⟩ := run_bind.mp h
  rw [hf a t b s' hft, hx s a t hxt]

lemma ite {p : Prop} [Decidable p] (hx : ReadOnly x) (hy : ReadOnly y) :
    ReadOnly (if p then x else y) := by
  split
  · exact hx
  · exact hy

lemma when {p : Prop} [Decidable p] {x : Transaction σ ε Unit} (hx : ReadOnly x) :
    ReadOnly (Transaction.when p x) :=
  ite hx pure

lemma forM {xs : List α} {f : α → Transaction σ ε Unit} (h : ∀ a ∈ xs, ReadOnly (f a)) :
    ReadOnly (xs.forM f) := by
  induction xs with
  | nil => exact pure
  | cons a as ih =>
      refine bind (h a List.mem_cons_self) fun _ => ih fun b hb => ?_
      exact h b (List.mem_cons_of_mem a hb)

end ReadOnly

/-! ## A call on one part of the state -/

/-- A part `τ` of the state `σ`, read and replaced without touching the rest. -/
structure Part (σ τ : Type) where
  get : σ → τ
  set : τ → σ → σ
  /-- The replacement is what is read back. -/
  get_set : ∀ t s, get (set t s) = t

/-- Run a call over the part of the state it is about. -/
def on (part : Part σ τ) (x : Transaction τ ε α) : Transaction σ ε α := fun s =>
  match x.run (part.get s) with
  | .ok (a, t) => .ok (a, part.set t s)
  | .error e => .error e

@[simp] lemma run_on {part : Part σ τ} {x : Transaction τ ε α} {s s' : σ} {a : α} :
    (on part x).run s = .ok (a, s') ↔
      ∃ t, x.run (part.get s) = .ok (a, t) ∧ part.set t s = s' := by
  rcases h : x (part.get s) with e | ⟨b, t⟩
  · simp [on, run, h]
  · simp only [on, run, h, Except.ok.injEq, Prod.mk.injEq]
    constructor
    · rintro ⟨rfl, rfl⟩
      exact ⟨t, ⟨rfl, rfl⟩, rfl⟩
    · rintro ⟨t', ⟨rfl, rfl⟩, rfl⟩
      exact ⟨rfl, rfl⟩

lemma keeps_on {part : Part σ τ} {x : Transaction τ ε α} {I : σ → Prop}
    (h : ∀ s t, I s → I (part.set t s)) : Keeps I (on part x) := by
  intro s hs a s' hrun
  obtain ⟨t, -, rfl⟩ := run_on.mp hrun
  exact h s t hs

end Transaction

end Library
