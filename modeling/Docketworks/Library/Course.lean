import Docketworks.Library.Remote

/-!
# The course of a program that calls another system

The course of a program is what it does, one after the other, as long as nothing stops it: the checks it
makes, the questions it asks and the changes it calls for.

* `Stage κ` — a check, a question or a change.
* `through net course` — every check passes and every call is answered.
* `changes net course` — a change on the way takes effect.
* `Clear net course` — if a change takes effect, nothing stops the program.
* `Follows net x s course Q` — from `s` the program takes the course.

**Design.**  What the changes are about is a part of the state with a clock that every change moves on,
so that a part that is as it was has not been changed.
-/

namespace Library

namespace Remote

variable {κ ε : Type}

/-- What a program does next. -/
inductive Stage (κ : Type) where
  | check (passes : Bool)
  | ask (k : κ)
  | change (k : κ)
deriving DecidableEq, Repr

/-- The call is answered. -/
def served (net : κ → Fate ε) (k : κ) : Bool :=
  match net k with
  | .served => true
  | _ => false

/-- The call has its effect, whether it is answered or not. -/
def takesEffect (net : κ → Fate ε) (k : κ) : Bool :=
  match net k with
  | .refused _ => false
  | _ => true

/-- The program goes on after the stage. -/
def Stage.passes (net : κ → Fate ε) : Stage κ → Bool
  | .check passes => passes
  | .ask k | .change k => served net k

/-- Nothing stops the program. -/
def through (net : κ → Fate ε) (course : List (Stage κ)) : Bool := course.all (Stage.passes net)

/-- A change takes effect before anything stops the program. -/
def changes (net : κ → Fate ε) : List (Stage κ) → Bool
  | [] => false
  | .change k :: _ => takesEffect net k
  | stage :: rest => stage.passes net && changes net rest

/-- If a change takes effect, nothing stops the program. -/
def Clear (net : κ → Fate ε) (course : List (Stage κ)) : Prop :=
  changes net course = true → through net course = true

instance {net : κ → Fate ε} {course : List (Stage κ)} : Decidable (Clear net course) :=
  inferInstanceAs (Decidable (_ → _))

section Course

variable {net : κ → Fate ε} {c d : List (Stage κ)} {stage : Stage κ} {k : κ}

lemma served_iff : served net k = true ↔ net k = .served := by
  unfold served
  rcases net k with _ | _ | _ <;> simp

@[simp] lemma through_nil : through net [] = true := rfl

@[simp] lemma through_cons : through net (stage :: c) = (stage.passes net && through net c) :=
  rfl

@[simp] lemma through_append :
    through net (c ++ d) = (through net c && through net d) := List.all_append

lemma changes_append_of_stopped (h : through net c = false) :
    changes net (c ++ d) = changes net c := by
  induction c with
  | nil => cases h
  | cons stage c ih =>
      rcases stage with passes | k | k
      · rcases passes with _ | _
        · rfl
        · simpa [changes, Stage.passes] using ih (by simpa [Stage.passes] using h)
      · rcases hk : served net k with _ | _
        · simp [changes, Stage.passes, hk]
        · have hrest : through net c = false := by simpa [Stage.passes, hk] using h
          simpa [changes, Stage.passes, hk] using ih hrest
      · rfl

lemma changes_append_of_through (h : through net c = true) :
    changes net (c ++ d) = (changes net c || changes net d) := by
  induction c with
  | nil => rfl
  | cons stage c ih =>
      obtain ⟨hstage, hrest⟩ := Bool.and_eq_true_iff.mp h
      have ih := ih hrest
      rcases stage with passes | k | k
      · simp [changes, hstage, ih]
      · simp [changes, hstage, ih]
      · have hserved : net k = .served := served_iff.mp hstage
        simp [changes, takesEffect, hserved]

end Course

/-! ## Following a course -/

section Follows

variable {σ ω α β : Type} {part : σ → ω} {clock : ω → ℕ} {net : κ → Fate ε}
  {s t u : σ} {x : Remote κ σ ε α} {f : α → Remote κ σ ε β} {c d : List (Stage κ)}
  {Q Q' : α → σ → Prop} {R : β → σ → Prop}

/-- The part of the state has moved on, or is as it was. -/
def Moves (part : σ → ω) (clock : ω → ℕ) (moved : Bool) (s t : σ) : Prop :=
  if moved then clock (part s) < clock (part t) else part t = part s

lemma Moves.trans {moved moved' : Bool} (h : Moves part clock moved s t)
    (h' : Moves part clock moved' t u) : Moves part clock (moved || moved') s u := by
  unfold Moves at *
  rcases moved with _ | _ <;> rcases moved' with _ | _
  · exact h'.trans h
  · exact h ▸ h'
  · exact h'.symm ▸ h
  · exact Nat.lt_trans h h'

/-- From `s` the program takes the course: it answers, as `Q` says, exactly if nothing on the course
stops it, and moves the part exactly if a change on the course takes effect. -/
def Follows (part : σ → ω) (clock : ω → ℕ) (net : κ → Fate ε) (x : Remote κ σ ε α) (s : σ)
    (course : List (Stage κ)) (Q : α → σ → Prop) : Prop :=
  Moves part clock (changes net course) s (x.run net s).2 ∧ match x.run net s with
    | (.ok a, t) => through net course = true ∧ Q a t
    | (.error _, _) => through net course = false

lemma Follows.quiet {passes : Bool} (hpart : part (x.run net s).2 = part s)
    (h : match x.run net s with
      | (.ok a, t) => passes = true ∧ Q a t
      | (.error _, _) => passes = false) :
    Follows part clock net x s [.check passes] Q := by
  refine ⟨?_, ?_⟩
  · simpa [Moves, changes] using hpart
  · rcases hrun : x.run net s with ⟨_ | a, t⟩
    · rw [hrun] at h
      simpa [Stage.passes] using h
    · rw [hrun] at h
      exact ⟨by simpa [Stage.passes] using h.1, h.2⟩

lemma Follows.answers {a : α} (hrun : x.run net s = (.ok a, t)) (hpart : part t = part s) (h : Q a t) :
    Follows part clock net x s [] Q := by
  unfold Follows
  rw [hrun]
  exact ⟨hpart, rfl, h⟩

lemma Follows.pure {a : α} (h : Q a s) : Follows part clock net (Pure.pure a) s [] Q :=
  ⟨rfl, rfl, h⟩

lemma Follows.raise {e : ε} : Follows part clock net (Remote.raise e) s (.check false :: c) Q :=
  ⟨rfl, rfl⟩

lemma Follows.check_true (h : Follows part clock net x s c Q) :
    Follows part clock net x s (.check true :: c) Q := by
  simpa [Follows, changes, Stage.passes] using h

lemma Follows.compute {z : Except ε α} (h : ∀ a, z = .ok a → Q a s) :
    Follows part clock net (Remote.compute z) s [.check z.isOk] Q := by
  refine Follows.quiet rfl ?_
  rcases z with e | a
  · rfl
  · exact ⟨rfl, h a rfl⟩

lemma Follows.ask {k : κ} {g : σ → Except ε α} {a : α} (hg : g s = .ok a) (h : Q a s) :
    Follows part clock net (Remote.ask k g) s [.ask k] Q := by
  unfold Follows
  rw [run_ask, hg]
  rcases hk : net k with _ | _ | _ <;>
    simp [deliver, Except.map, changes, Stage.passes, served, hk, Moves, h]

lemma Follows.change {k : κ} {g : σ → α × σ} (h : Q (g s).1 (g s).2)
    (hclock : clock (part s) < clock (part (g s).2)) :
    Follows part clock net (Remote.call k fun s => .ok (g s)) s [.change k] Q := by
  unfold Follows
  rw [run_call]
  rcases hk : net k with _ | _ | _ <;>
    simp [deliver, changes, takesEffect, Stage.passes, served, hk, Moves, h, hclock]

lemma Follows.conseq (hx : Follows part clock net x s c Q) (h : ∀ a t, Q a t → Q' a t) :
    Follows part clock net x s c Q' := by
  refine ⟨hx.1, ?_⟩
  have hx := hx.2
  rcases hrun : x.run net s with ⟨_ | a, t⟩
  · rw [hrun] at hx
    exact hx
  · rw [hrun] at hx
    exact ⟨hx.1, h a t hx.2⟩

lemma Follows.mapError {g : ε → ε} (hx : Follows part clock net x s c Q) :
    Follows part clock net (Remote.mapError g x) s c Q := by
  unfold Follows at *
  rw [run_mapError]
  rcases hrun : x.run net s with ⟨_ | a, t⟩
  · rw [hrun] at hx
    exact hx
  · rw [hrun] at hx
    exact hx

lemma Follows.bind (hx : Follows part clock net x s c Q)
    (hf : ∀ a t, Q a t → Follows part clock net (f a) t d R) :
    Follows part clock net (x >>= f) s (c ++ d) R := by
  obtain ⟨hmoves, hends⟩ := hx
  rcases hrun : x.run net s with ⟨e | a, t⟩
  · rw [hrun] at hmoves hends
    refine ⟨?_, ?_⟩
    · rw [run_bind_of_error hrun, changes_append_of_stopped hends]
      exact hmoves
    · rw [run_bind_of_error hrun]
      simp [show through net c = false from hends]
  · rw [hrun] at hmoves hends
    obtain ⟨hthrough, hQ⟩ := hends
    obtain ⟨hmoves', hends'⟩ := hf a t hQ
    refine ⟨?_, ?_⟩
    · rw [run_bind_of_ok hrun, changes_append_of_through hthrough]
      exact hmoves.trans hmoves'
    · rw [run_bind_of_ok hrun]
      rcases hrun' : (f a).run net t with ⟨e | b, v⟩
      · rw [hrun'] at hends'
        simp [show through net d = false from hends']
      · rw [hrun'] at hends'
        exact ⟨by simp [hthrough, hends'.1], hends'.2⟩

lemma Follows.answer_bind {a : α} (hrun : x.run net s = (.ok a, t)) (hpart : part t = part s)
    (hf : Follows part clock net (f a) t c R) : Follows part clock net (x >>= f) s c R := by
  unfold Follows Moves at *
  rw [run_bind_of_ok hrun, ← hpart]
  exact hf

lemma Follows.error_bind {e : ε} (hrun : x.run net s = (.error e, t)) (hpart : part t = part s) :
    Follows part clock net (x >>= f) s (.check false :: c) R := by
  unfold Follows
  rw [run_bind_of_error hrun]
  exact ⟨hpart, rfl⟩

/-- The courses of the turns of a loop, each taken from where the one before it left. -/
def turns {ρ α : Type} (course : ρ → α → List (Stage κ)) (after : ρ → α → ρ) :
    ρ → List α → List (Stage κ)
  | _, [] => []
  | r, a :: as => course r a ++ turns course after (after r a) as

lemma turns_const {ρ α : Type} {course : α → List (Stage κ)} {after : ρ → α → ρ} {r : ρ}
    {as : List α} : turns (fun _ => course) after r as = as.flatMap course := by
  induction as generalizing r with
  | nil => rfl
  | cons a as ih => rw [turns, ih, List.flatMap_cons]

lemma Follows.forM {ρ : Type} (place : ρ → σ) {g : α → Remote κ σ ε Unit}
    {course : ρ → α → List (Stage κ)} {after : ρ → α → ρ} {r : ρ} {as : List α}
    (h : ∀ r, ∀ a ∈ as, Follows part clock net (g a) (place r) (course r a)
      fun _ t => t = place (after r a)) :
    Follows part clock net (as.forM g) (place r) (turns course after r as)
      fun _ t => t = place (as.foldl after r) := by
  induction as generalizing r with
  | nil => exact Follows.pure rfl
  | cons a as ih =>
      rw [forM_cons]
      refine Follows.bind (h r a List.mem_cons_self) ?_
      rintro _ _ rfl
      exact ih fun r b hb => h r b (List.mem_cons_of_mem a hb)

/-- **What a program that is stopped leaves.**  It leaves the part as it was exactly if the course is
clear. -/
theorem Follows.stopped_iff (h : Follows part clock net x s c Q) :
    (∀ e t, x.run net s = (.error e, t) → part t = part s) ↔ Clear net c := by
  obtain ⟨hmoves, hends⟩ := h
  unfold Clear
  rcases hrun : x.run net s with ⟨e | a, t⟩
  · rw [hrun] at hmoves hends
    have hends : through net c = false := hends
    rw [hends]
    rcases hchanges : changes net c with _ | _
    · rw [hchanges] at hmoves
      refine ⟨fun _ h => h, fun _ e t heq => ?_⟩
      obtain ⟨-, rfl⟩ := Prod.mk.inj heq
      exact hmoves
    · rw [hchanges] at hmoves
      refine ⟨fun h => ?_, fun h => absurd (h rfl) (by simp)⟩
      have hsame := h e t rfl
      have hlt : clock (part s) < clock (part t) := hmoves
      rw [hsame] at hlt
      exact absurd hlt (Nat.lt_irrefl _)
  · rw [hrun] at hends
    refine ⟨fun _ _ => hends.1, fun _ e u heq => ?_⟩
    cases heq

end Follows

end Remote

end Library
