import Mathlib.Logic.Relation
import Docketworks.Library.Machine
import Docketworks.Library.Table

/-!
# Locks held to the end

Parties that take locks one at a time and let all of them go at their end, as the transactions of a
database do.  What a party asks for is its program, a list of requests fixed when it starts; which
party moves next is the schedule's choice.

* `step program` — starting a party, granting its next request, ending it.
* `CircularWait s` — some party waits, along a chain of waits, for itself.
* `Sound` — what every run keeps: a party has taken a prefix of its program, and no two parties
  hold conflicting locks.
* `Follows allowed held p` — each request of a program is covered by a lock already held, or allowed
  beside those held.  This is how a program's own discipline is stated and composed.
* `not_circularWait_of_rank` — no circular wait where every party that waits for a waiting one wants
  a lock of lower rank.
-/

namespace Library

namespace Locks

/-- How a lock is held: alone, or together with others that share it. -/
inductive Mode where
  | exclusive
  | shared
  deriving DecidableEq

/-- A lock asked for. -/
structure Request (R : Type) where
  resource : R
  mode : Mode
  deriving DecidableEq

variable {R Op : Type} [DecidableEq R]

/-- Two parties cannot hold both. -/
def Request.Conflicts (a b : Request R) : Prop :=
  a.resource = b.resource ∧ (a.mode = .exclusive ∨ b.mode = .exclusive)

/-- Holding the first, the second is there already. -/
def Request.Covers (a b : Request R) : Prop :=
  a.resource = b.resource ∧ (a.mode = .exclusive ∨ b.mode = .shared)

instance (a b : Request R) : Decidable (a.Conflicts b) := inferInstanceAs (Decidable (_ ∧ _))

instance (a b : Request R) : Decidable (a.Covers b) := inferInstanceAs (Decidable (_ ∧ _))

omit [DecidableEq R] in
lemma Request.Conflicts.symm {a b : Request R} (h : a.Conflicts b) : b.Conflicts a :=
  ⟨h.1.symm, h.2.symm⟩

omit [DecidableEq R] in
lemma Request.Covers.conflicts {a b c : Request R} (h : a.Covers b) (hbc : b.Conflicts c) :
    a.Conflicts c := by
  refine ⟨h.1.trans hbc.1, ?_⟩
  rcases h.2 with ha | hb
  · exact .inl ha
  · rcases hbc.2 with hb' | hc
    · rw [hb] at hb'
      cases hb'
    · exact .inr hc

/-- A party under way: what it has taken, the last first, and what it has still to ask for. -/
structure Party (Op R : Type) where
  number : ℕ
  operation : Op
  taken : List (Request R)
  left : List (Request R)

abbrev Parties (Op R : Type) : Type := Table (Party.number : Party Op R → ℕ)

/-- No other party holds a conflicting lock. -/
def Granted (s : Parties Op R) (number : ℕ) (r : Request R) : Prop :=
  ∀ q ∈ s.rows, q.number ≠ number → ∀ t ∈ q.taken, ¬ r.Conflicts t

instance (s : Parties Op R) (number : ℕ) (r : Request R) : Decidable (Granted s number r) :=
  inferInstanceAs (Decidable (∀ _ ∈ _, _))

/-- The party's next request is refused by a lock the other one holds. -/
def WaitsFor (s : Parties Op R) (i j : ℕ) : Prop :=
  ∃ p ∈ s.rows, ∃ q ∈ s.rows, p.number = i ∧ q.number = j ∧ i ≠ j ∧
    ∃ r ∈ p.left.head?, ∃ t ∈ q.taken, r.Conflicts t

instance (s : Parties Op R) (i j : ℕ) : Decidable (WaitsFor s i j) :=
  inferInstanceAs (Decidable (∃ _ ∈ _, ∃ _ ∈ _, _))

/-- Some party waits for itself. -/
def CircularWait (s : Parties Op R) : Prop := ∃ n, Relation.TransGen (WaitsFor s) n n

/-! ## Steps -/

/-- What happens next: a party begins, has its next request granted, or ends. -/
inductive Act (Op : Type) where
  | start (number : ℕ) (operation : Op)
  | take (number : ℕ)
  /-- Committed or rolled back: every lock is let go. -/
  | finish (number : ℕ)

def step (program : Op → List (Request R)) : Machine (Parties Op R) (Act Op)
  | s, .start number operation => s.insert? ⟨number, operation, [], program operation⟩
  | s, .take number =>
      match s.find? number with
      | none => none
      | some p =>
          match p.left with
          | [] => none
          | r :: rest =>
              if Granted s number r then some (s.put { p with taken := r :: p.taken, left := rest })
              else none
  | s, .finish number => (s.find? number).map fun _ => s.erase number

variable {program : Op → List (Request R)} {s s' : Parties Op R} {i j number : ℕ} {op : Op}
  {p q : Party Op R} {r : Request R} {rest : List (Request R)}

lemma step_take_eq_some :
    step program s (.take number) = some s' ↔
      ∃ p r rest, s.find? number = some p ∧ p.left = r :: rest ∧ Granted s number r ∧
        s' = s.put { p with taken := r :: p.taken, left := rest } := by
  simp only [step]
  constructor
  · intro h
    split at h
    · cases h
    · split at h
      · cases h
      · split at h
        · exact ⟨_, _, _, ‹_›, ‹_›, ‹_›, (Option.some.inj h).symm⟩
        · cases h
  · rintro ⟨p, r, rest, hp, hleft, hgranted, rfl⟩
    simp [hp, hleft, hgranted]

lemma mem_of_step {a : Act Op} (h : step program s a = some s') (hp : p ∈ s'.rows) :
    (∃ q ∈ s.rows, q.number = p.number ∧ q.operation = p.operation) ∨
      a = .start p.number p.operation := by
  cases a with
  | start number operation =>
      rcases (Table.mem_insert? h).mp hp with hp | rfl
      · exact .inl ⟨p, hp, rfl, rfl⟩
      · exact .inr rfl
  | take number =>
      obtain ⟨q, r, rest, hq, -, -, rfl⟩ := step_take_eq_some.mp h
      rcases Table.mem_put.mp hp with ⟨hp, -⟩ | ⟨rfl, -⟩
      · exact .inl ⟨p, hp, rfl, rfl⟩
      · exact .inl ⟨q, Table.mem_of_find? hq, rfl, rfl⟩
  | finish number =>
      obtain ⟨_, -, rfl⟩ := Option.map_eq_some_iff.mp h
      exact .inl ⟨p, (Table.mem_erase.mp hp).1, rfl, rfl⟩

/-! ## What every run keeps -/

/-- A party has taken a prefix of its program, and no two hold conflicting locks. -/
structure Sound (program : Op → List (Request R)) (s : Parties Op R) : Prop where
  prefixes : ∀ p ∈ s.rows, p.taken.reverse ++ p.left = program p.operation
  apart : ∀ p ∈ s.rows, ∀ q ∈ s.rows, p.number ≠ q.number → ∀ r ∈ p.taken, ∀ t ∈ q.taken,
    ¬ r.Conflicts t

omit [DecidableEq R] in
lemma sound_empty : Sound program (Table.empty : Parties Op R) :=
  ⟨fun _ h => by simp at h, fun _ h => by simp at h⟩

lemma Sound.step {a : Act Op} (hs : Sound program s) (h : step program s a = some s') :
    Sound program s' := by
  cases a with
  | start number operation =>
      constructor
      · intro p hp
        rcases (Table.mem_insert? h).mp hp with hp | rfl
        · exact hs.prefixes p hp
        · rfl
      · intro p hp q hq hne r hr t ht
        rcases (Table.mem_insert? h).mp hp with hp | rfl
        · rcases (Table.mem_insert? h).mp hq with hq | rfl
          · exact hs.apart p hp q hq hne r hr t ht
          · simp at ht
        · simp at hr
  | take number =>
      obtain ⟨p₀, r₀, rest, hp₀, hleft, hgranted, rfl⟩ := step_take_eq_some.mp h
      have hnumber : p₀.number = number := Table.key_of_find? hp₀
      have hmem₀ := Table.mem_of_find? hp₀
      constructor
      · intro p hp
        rcases Table.mem_put.mp hp with ⟨hp, -⟩ | ⟨rfl, -⟩
        · exact hs.prefixes p hp
        · show (r₀ :: p₀.taken).reverse ++ rest = program p₀.operation
          rw [← hs.prefixes p₀ hmem₀, hleft]
          simp
      · -- the party that moved holds one lock more, and it was granted against all the others
        have hmoved : ∀ q ∈ s.rows, q.number ≠ number → ∀ r ∈ r₀ :: p₀.taken, ∀ t ∈ q.taken,
            ¬ r.Conflicts t := by
          intro q hq hne r hr t ht
          rcases List.mem_cons.mp hr with rfl | hr
          · exact hgranted q hq hne t ht
          · exact hs.apart p₀ hmem₀ q hq (hnumber ▸ hne.symm) r hr t ht
        intro p hp q hq hne r hr t ht
        rcases Table.mem_put.mp hp with ⟨hp, hpne⟩ | ⟨rfl, -⟩
        · rcases Table.mem_put.mp hq with ⟨hq, -⟩ | ⟨rfl, -⟩
          · exact hs.apart p hp q hq hne r hr t ht
          · have hpne : p.number ≠ number := hnumber ▸ hpne
            exact fun hconflict => hmoved p hp hpne t ht r hr hconflict.symm
        · rcases Table.mem_put.mp hq with ⟨hq, hqne⟩ | ⟨rfl, -⟩
          · exact hmoved q hq (hnumber ▸ hqne) r hr t ht
          · exact absurd rfl hne
  | finish number =>
      obtain ⟨_, -, rfl⟩ := Option.map_eq_some_iff.mp h
      constructor
      · intro p hp
        exact hs.prefixes p (Table.mem_erase.mp hp).1
      · intro p hp q hq hne
        exact hs.apart p (Table.mem_erase.mp hp).1 q (Table.mem_erase.mp hq).1 hne

/-- Any two operations under way stand in the relation. -/
def InFlight (C : Op → Op → Prop) (s : Parties Op R) : Prop :=
  ∀ p ∈ s.rows, ∀ q ∈ s.rows, p.number ≠ q.number → C p.operation q.operation

/-- An operation begins only beside operations it stands in the relation with. -/
def BeginsBeside (C : Op → Op → Prop) (s : Parties Op R) : Act Op → Prop
  | .start _ operation => ∀ q ∈ s.rows, C operation q.operation ∧ C q.operation operation
  | _ => True

instance (C : Op → Op → Prop) [∀ a b, Decidable (C a b)] (s : Parties Op R) :
    ∀ a, Decidable (BeginsBeside C s a)
  | .start _ _ => inferInstanceAs (Decidable (∀ _ ∈ _, _))
  | .take _ => .isTrue trivial
  | .finish _ => .isTrue trivial

lemma InFlight.step {C : Op → Op → Prop} {a : Act Op} (hs : InFlight C s)
    (hC : BeginsBeside C s a) (h : step program s a = some s') : InFlight C s' := by
  intro p hp q hq hne
  rcases mem_of_step h hp with ⟨p₀, hp₀, hpn, hpo⟩ | rfl
  · rcases mem_of_step h hq with ⟨q₀, hq₀, hqn, hqo⟩ | rfl
    · rw [← hpo, ← hqo]
      exact hs p₀ hp₀ q₀ hq₀ (by rwa [hpn, hqn])
    · rw [← hpo]
      exact (hC p₀ hp₀).2
  · rcases mem_of_step h hq with ⟨q₀, hq₀, hqn, hqo⟩ | hstart
    · rw [← hqo]
      exact (hC q₀ hq₀).1
    · injection hstart with hnumber
      exact absurd hnumber hne

/-! ## The discipline of a program -/

/-- Each request of a program is covered by a lock already held, or allowed beside those held. -/
def Follows (allowed : List (Request R) → Request R → Prop) :
    List (Request R) → List (Request R) → Prop
  | _, [] => True
  | held, r :: rest => ((∃ t ∈ held, t.Covers r) ∨ allowed held r) ∧ Follows allowed (r :: held) rest

variable {allowed : List (Request R) → Request R → Prop} {held xs ys : List (Request R)}

omit [DecidableEq R] in
lemma follows_append :
    Follows allowed held (xs ++ ys) ↔
      Follows allowed held xs ∧ Follows allowed (xs.reverse ++ held) ys := by
  induction xs generalizing held with
  | nil => simp [Follows]
  | cons x xs ih =>
      rw [List.cons_append, Follows, Follows, ih, and_assoc]
      simp

omit [DecidableEq R] in
lemma follows_of_covered (h : ∀ r ∈ xs, ∃ t ∈ held, t.Covers r) : Follows allowed held xs := by
  induction xs generalizing held with
  | nil => trivial
  | cons x xs ih =>
      refine ⟨.inl (h x List.mem_cons_self), ih fun r hr => ?_⟩
      obtain ⟨t, ht, hcovers⟩ := h r (List.mem_cons_of_mem x hr)
      exact ⟨t, List.mem_cons_of_mem x ht, hcovers⟩

omit [DecidableEq R] in
lemma Sound.next (hs : Sound program s) (hp : p ∈ s.rows) (hleft : p.left = r :: rest)
    (hfollows : Follows allowed [] (program p.operation)) :
    (∃ t ∈ p.taken, t.Covers r) ∨ allowed p.taken r := by
  rw [← hs.prefixes p hp, hleft, follows_append] at hfollows
  simpa using hfollows.2.1

omit [DecidableEq R] in
/-- **The rule for what is held.**  What holds of a lock when it is allowed, is kept by taking more,
and passes from a lock to those it covers, holds of every lock a program has taken. -/
lemma Follows.taken {P : List (Request R) → Request R → Prop}
    (hmore : ∀ held r t, P held t → P (r :: held) t)
    (hcovers : ∀ held t r, t.Covers r → P held t → P held r)
    (hallowed : ∀ held r, allowed held r → P (r :: held) r)
    (h : Follows allowed held xs) (hheld : ∀ t ∈ held, P held t) :
    ∀ t ∈ xs.reverse ++ held, P (xs.reverse ++ held) t := by
  induction xs generalizing held with
  | nil => exact hheld
  | cons x xs ih =>
      rw [List.reverse_cons, List.append_assoc, List.singleton_append]
      refine ih h.2 fun t ht => ?_
      rcases List.mem_cons.mp ht with rfl | ht
      · rcases h.1 with ⟨u, hu, hcover⟩ | hok
        · exact hcovers _ u _ hcover (hmore _ _ u (hheld u hu))
        · exact hallowed _ _ hok
      · exact hmore _ _ t (hheld t ht)

omit [DecidableEq R] in
lemma Sound.not_conflicts_of_covered (hs : Sound program s) (hp : p ∈ s.rows) (hq : q ∈ s.rows)
    (hne : p.number ≠ q.number) (hcovered : ∃ t ∈ p.taken, t.Covers r) :
    ∀ t ∈ q.taken, ¬ r.Conflicts t := by
  obtain ⟨u, hu, hcovers⟩ := hcovered
  exact fun t ht hconflict => hs.apart p hp q hq hne u hu t ht (hcovers.conflicts hconflict)

/-! ### Composing programs -/

/-- From what `P` says is held, the program keeps its discipline and leaves held what `Q` says. -/
def Takes (allowed : List (Request R) → Request R → Prop) (P : List (Request R) → Prop)
    (xs : List (Request R)) (Q : List (Request R) → Prop) : Prop :=
  ∀ held, P held → Follows allowed held xs ∧ Q (xs.reverse ++ held)

namespace Takes

variable {P P' Q Q' S : List (Request R) → Prop}

omit [DecidableEq R]

lemma nil : Takes allowed P [] P := fun _ h => ⟨trivial, h⟩

lemma conseq (h : Takes allowed P xs Q) (hP : ∀ held, P' held → P held)
    (hQ : ∀ held, Q held → Q' held) : Takes allowed P' xs Q' :=
  fun held hheld => ⟨(h held (hP held hheld)).1, hQ _ (h held (hP held hheld)).2⟩

lemma request (h : ∀ held, P held → (∃ t ∈ held, t.Covers r) ∨ allowed held r)
    (hQ : ∀ held, P held → Q (r :: held)) : Takes allowed P [r] Q :=
  fun held hheld => ⟨⟨h held hheld, trivial⟩, hQ held hheld⟩

lemma append (hx : Takes allowed P xs Q) (hy : Takes allowed Q ys S) :
    Takes allowed P (xs ++ ys) S := by
  intro held hheld
  obtain ⟨hfollows, hmid⟩ := hx held hheld
  obtain ⟨hfollows', hend⟩ := hy _ hmid
  refine ⟨follows_append.mpr ⟨hfollows, hfollows'⟩, ?_⟩
  rwa [List.reverse_append, List.append_assoc]

lemma flatMap {A : Type} {as : List A} {f : A → List (Request R)}
    (h : ∀ a ∈ as, Takes allowed P (f a) P) : Takes allowed P (as.flatMap f) P := by
  induction as with
  | nil => exact nil
  | cons a as ih =>
      rw [List.flatMap_cons]
      exact (h a List.mem_cons_self).append (ih fun b hb => h b (List.mem_cons_of_mem a hb))

lemma map {A : Type} {as : List A} {f : A → Request R}
    (h : ∀ a ∈ as, Takes allowed P [f a] P) : Takes allowed P (as.map f) P := by
  rw [← List.flatMap_singleton' (as.map f), List.flatMap_map]
  exact flatMap h

end Takes

/-! ## Circular waits -/

omit [DecidableEq R] in
/-- **Ranks.**  No circular wait where every party that waits for a waiting one ranks below it. -/
theorem not_circularWait_of_rank {K : Type} [Preorder K] (rank : ℕ → K)
    (h : ∀ i j k, WaitsFor s i j → WaitsFor s j k → rank i < rank j) : ¬ CircularWait s := by
  rintro ⟨n, hcycle⟩
  obtain ⟨m, hm, -⟩ := Relation.TransGen.head'_iff.mp hcycle
  have hlift : ∀ a, Relation.TransGen (WaitsFor s) a n → rank a < rank n := by
    intro a ha
    induction ha using Relation.TransGen.head_induction_on with
    | single hstep => exact h _ _ m hstep hm
    | head hstep htail ih =>
        obtain ⟨k, hk, -⟩ := Relation.TransGen.head'_iff.mp htail
        exact (h _ _ k hstep hk).trans ih
  exact lt_irrefl _ (hlift n hcycle)

end Locks

end Library
