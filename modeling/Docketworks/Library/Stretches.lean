import Mathlib.Data.List.Sort
import Mathlib.Order.MinMax
import Mathlib.Tactic.Ring

/-!
# Half-open stretches of a line

Lists of half-open stretches `[a, b)` of a linear order: the points they cover, joining those
that overlap or touch, and the gaps between them.

* `Covers l m` — some stretch of `l` holds the point `m`.
* `join l` — the stretches in order, with overlapping or touching ones joined.  It covers the same
  points (`covers_join`) and its stretches are separated (`separated_join`).
* `eq_of_covers` — separated stretches are determined by the points they cover.
* `gaps round last free floor taken` — the gaps before each taken stretch, their bounds rounded
  but never into a taken one.  `gaps_apart`, `gaps_inside`, `gaps_free` and `gaps_covers` say where
  they lie and what they leave out.
-/

namespace Library

variable {α : Type} [LinearOrder α]

/-- The point `m` is in one of the stretches. -/
def Covers (l : List (α × α)) (m : α) : Prop :=
  ∃ s ∈ l, s.1 ≤ m ∧ m < s.2

/-- No stretch ends before it starts. -/
def Ordered (l : List (α × α)) : Prop := ∀ s ∈ l, s.1 ≤ s.2

/-- Each stretch starts no later than those after it. -/
def ByStart (l : List (α × α)) : Prop := l.Pairwise fun s t => s.1 ≤ t.1

/-- Each stretch ends before those after it start, or where they start. -/
def Apart (l : List (α × α)) : Prop := l.Pairwise fun s t => s.2 ≤ t.1

/-- Each stretch ends before those after it start. -/
def Separated (l : List (α × α)) : Prop := l.Pairwise fun s t => s.2 < t.1

/-! ## Covering -/

section Covers

variable {l l' : List (α × α)} {s : α × α} {m : α}

@[simp] lemma not_covers_nil : ¬Covers ([] : List (α × α)) m := by
  simp [Covers]

@[simp] lemma covers_cons : Covers (s :: l) m ↔ (s.1 ≤ m ∧ m < s.2) ∨ Covers l m := by
  simp [Covers]

@[simp] lemma covers_append : Covers (l ++ l') m ↔ Covers l m ∨ Covers l' m := by
  simp only [Covers, List.mem_append, or_and_right, exists_or]

lemma covers_congr (h : ∀ s, s ∈ l ↔ s ∈ l') : Covers l m ↔ Covers l' m := by
  simp only [Covers, h]

lemma Separated.le_of_covers (h : Separated (s :: l)) (hne : ∀ t ∈ s :: l, t.1 < t.2)
    (hm : Covers (s :: l) m) : s.1 ≤ m := by
  rcases covers_cons.mp hm with ⟨hle, -⟩ | ⟨t, ht, hle, -⟩
  · exact hle
  · have hfirst : s.1 < s.2 := hne s List.mem_cons_self
    have hafter : s.2 < t.1 := (List.pairwise_cons.mp h).1 t ht
    exact (hfirst.trans hafter).le.trans hle

lemma Separated.covers_tail (h : Separated (s :: l)) :
    Covers l m ↔ s.2 ≤ m ∧ Covers (s :: l) m := by
  rw [covers_cons]
  constructor
  · rintro ⟨t, ht, hle, hlt⟩
    have hafter : s.2 < t.1 := (List.pairwise_cons.mp h).1 t ht
    exact ⟨hafter.le.trans hle, .inr ⟨t, ht, hle, hlt⟩⟩
  · rintro ⟨hge, ⟨-, hlt⟩ | hcovers⟩
    · exact absurd hlt hge.not_gt
    · exact hcovers

lemma Separated.end_le {t : α × α} (h : Separated (s :: l)) (hstart : t.1 ≤ s.1)
    (hne : s.1 < s.2) (hcovers : ∀ m, Covers (t :: l') m → Covers (s :: l) m) : t.2 ≤ s.2 := by
  by_contra hlt
  have hin : Covers (t :: l') s.2 :=
    covers_cons.mpr (.inl ⟨hstart.trans hne.le, lt_of_not_ge hlt⟩)
  rcases covers_cons.mp (hcovers _ hin) with ⟨-, habs⟩ | ⟨u, hu, hle, -⟩
  · exact lt_irrefl _ habs
  · exact absurd ((List.pairwise_cons.mp h).1 u hu) hle.not_gt

/-- **Separated stretches are determined by the points they cover.** -/
theorem eq_of_covers (h : Separated l) (h' : Separated l') (hne : ∀ s ∈ l, s.1 < s.2)
    (hne' : ∀ s ∈ l', s.1 < s.2) (hcovers : ∀ m, Covers l m ↔ Covers l' m) : l = l' := by
  induction l generalizing l' with
  | nil =>
      rcases l' with _ | ⟨t, l'⟩
      · rfl
      · have hin : Covers (t :: l') t.1 :=
          covers_cons.mpr (.inl ⟨le_rfl, hne' t List.mem_cons_self⟩)
        exact absurd ((hcovers _).mpr hin) not_covers_nil
  | cons s l ih =>
      rcases l' with _ | ⟨t, l'⟩
      · have hin : Covers (s :: l) s.1 :=
          covers_cons.mpr (.inl ⟨le_rfl, hne s List.mem_cons_self⟩)
        exact absurd ((hcovers _).mp hin) not_covers_nil
      · have hs : s.1 < s.2 := hne s List.mem_cons_self
        have ht : t.1 < t.2 := hne' t List.mem_cons_self
        have hstart : s.1 = t.1 := le_antisymm
          (h.le_of_covers hne ((hcovers _).mpr (covers_cons.mpr (.inl ⟨le_rfl, ht⟩))))
          (h'.le_of_covers hne' ((hcovers _).mp (covers_cons.mpr (.inl ⟨le_rfl, hs⟩))))
        have hend : s.2 = t.2 := le_antisymm
          (h'.end_le hstart.le ht fun m => (hcovers m).mp)
          (h.end_le hstart.ge hs fun m => (hcovers m).mpr)
        have htail : ∀ m, Covers l m ↔ Covers l' m := by
          intro m
          rw [h.covers_tail, h'.covers_tail, hcovers, hend]
        have hrest : l = l' := ih (List.pairwise_cons.mp h).2 (List.pairwise_cons.mp h').2
          (fun u hu => hne u (List.mem_cons_of_mem s hu))
          (fun u hu => hne' u (List.mem_cons_of_mem t hu)) htail
        rw [hrest, Prod.ext hstart hend]

end Covers

/-! ## Joining -/

/-- Join the stretches of a list onto the stretch before it. -/
def joinFrom (current : α × α) : List (α × α) → List (α × α)
  | [] => [current]
  | s :: rest =>
      if s.1 ≤ current.2 then joinFrom (current.1, max current.2 s.2) rest
      else current :: joinFrom s rest

/-- The order stretches are joined in: by start, then by end. -/
def StretchLE (s t : α × α) : Prop := s.1 < t.1 ∨ (s.1 = t.1 ∧ s.2 ≤ t.2)

instance : DecidableRel (StretchLE (α := α)) := fun _ _ => inferInstanceAs (Decidable (_ ∨ _))

/-- The stretches in order, with overlapping or touching ones joined. -/
def join (l : List (α × α)) : List (α × α) :=
  match l.insertionSort StretchLE with
  | [] => []
  | s :: rest => joinFrom s rest

section Join

variable {l : List (α × α)} {s current : α × α} {m : α}

instance : Std.Total (StretchLE (α := α)) where
  total s t := by
    rcases lt_trichotomy s.1 t.1 with h | h | h
    · exact .inl (.inl h)
    · rcases le_total s.2 t.2 with h' | h'
      · exact .inl (.inr ⟨h, h'⟩)
      · exact .inr (.inr ⟨h.symm, h'⟩)
    · exact .inr (.inl h)

instance : IsTrans (α × α) StretchLE where
  trans s t u := by
    rintro (h | ⟨h, h'⟩) (k | ⟨k, k'⟩)
    · exact .inl (h.trans k)
    · exact .inl (h.trans_eq k)
    · exact .inl (h.trans_lt k)
    · exact .inr ⟨h.trans k, h'.trans k'⟩

lemma byStart_insertionSort (l : List (α × α)) : ByStart (l.insertionSort StretchLE) := by
  refine (List.pairwise_insertionSort StretchLE l).imp ?_
  rintro s t (h | ⟨h, -⟩)
  · exact h.le
  · exact h.le

lemma covers_joinFrom (h : ByStart (current :: l)) :
    Covers (joinFrom current l) m ↔ Covers (current :: l) m := by
  induction l generalizing current with
  | nil => rfl
  | cons s rest ih =>
      obtain ⟨hcurrent, hrest⟩ := List.pairwise_cons.mp h
      have hs : current.1 ≤ s.1 := hcurrent s List.mem_cons_self
      unfold joinFrom
      split
      · rename_i htouch
        have hjoined : ByStart ((current.1, max current.2 s.2) :: rest) :=
          List.pairwise_cons.mpr ⟨fun t ht => hcurrent t (List.mem_cons_of_mem s ht),
            (List.pairwise_cons.mp hrest).2⟩
        rw [ih hjoined, covers_cons, covers_cons, covers_cons, ← or_assoc]
        refine or_congr_left ?_
        constructor
        · rintro ⟨hle, hlt⟩
          rcases lt_max_iff.mp hlt with hlt | hlt
          · exact .inl ⟨hle, hlt⟩
          · rcases lt_or_ge m current.2 with hin | hout
            · exact .inl ⟨hle, hin⟩
            · exact .inr ⟨htouch.trans hout, hlt⟩
        · rintro (⟨hle, hlt⟩ | ⟨hle, hlt⟩)
          · exact ⟨hle, lt_max_of_lt_left hlt⟩
          · exact ⟨hs.trans hle, lt_max_of_lt_right hlt⟩
      · rw [covers_cons, covers_cons, ih hrest]

lemma bounds_joinFrom (h : s ∈ joinFrom current l) :
    (∃ t ∈ current :: l, t.1 = s.1) ∧ ∃ t ∈ current :: l, t.2 = s.2 := by
  induction l generalizing current with
  | nil =>
      obtain rfl := List.mem_singleton.mp h
      exact ⟨⟨s, List.mem_cons_self, rfl⟩, s, List.mem_cons_self, rfl⟩
  | cons r rest ih =>
      unfold joinFrom at h
      split at h
      · obtain ⟨⟨t, ht, hstart⟩, u, hu, hend⟩ := ih h
        constructor
        · rcases List.mem_cons.mp ht with rfl | ht
          · exact ⟨current, List.mem_cons_self, hstart⟩
          · exact ⟨t, List.mem_cons_of_mem _ (List.mem_cons_of_mem _ ht), hstart⟩
        · rcases List.mem_cons.mp hu with rfl | hu
          · rcases max_choice current.2 r.2 with hmax | hmax
            · exact ⟨current, List.mem_cons_self, hmax.symm.trans hend⟩
            · exact ⟨r, List.mem_cons_of_mem _ List.mem_cons_self, hmax.symm.trans hend⟩
          · exact ⟨u, List.mem_cons_of_mem _ (List.mem_cons_of_mem _ hu), hend⟩
      · rcases List.mem_cons.mp h with rfl | h
        · exact ⟨⟨s, List.mem_cons_self, rfl⟩, s, List.mem_cons_self, rfl⟩
        · obtain ⟨⟨t, ht, hstart⟩, u, hu, hend⟩ := ih h
          exact ⟨⟨t, List.mem_cons_of_mem _ ht, hstart⟩, u, List.mem_cons_of_mem _ hu, hend⟩

lemma joinFrom_forall {P : α × α → Prop} (hP : ∀ a b c, P (a, b) → P (a, max b c))
    (h : ∀ t ∈ current :: l, P t) (hs : s ∈ joinFrom current l) : P s := by
  induction l generalizing current with
  | nil =>
      obtain rfl := List.mem_singleton.mp hs
      exact h s List.mem_cons_self
  | cons r rest ih =>
      unfold joinFrom at hs
      split at hs
      · refine ih (fun t ht => ?_) hs
        rcases List.mem_cons.mp ht with rfl | ht
        · exact hP _ _ _ (h current List.mem_cons_self)
        · exact h t (List.mem_cons_of_mem _ (List.mem_cons_of_mem _ ht))
      · rcases List.mem_cons.mp hs with rfl | hs
        · exact h s List.mem_cons_self
        · exact ih (fun t ht => h t (List.mem_cons_of_mem _ ht)) hs

lemma separated_joinFrom (h : ByStart (current :: l)) (hordered : Ordered (current :: l)) :
    Separated (joinFrom current l) := by
  induction l generalizing current with
  | nil => exact List.pairwise_singleton _ _
  | cons r rest ih =>
      obtain ⟨hcurrent, hrest⟩ := List.pairwise_cons.mp h
      unfold joinFrom
      split
      · refine ih (List.pairwise_cons.mpr ⟨fun t ht => hcurrent t (List.mem_cons_of_mem r ht),
          (List.pairwise_cons.mp hrest).2⟩) fun t ht => ?_
        rcases List.mem_cons.mp ht with rfl | ht
        · exact (hordered current List.mem_cons_self).trans (le_max_left _ _)
        · exact hordered t (List.mem_cons_of_mem _ (List.mem_cons_of_mem _ ht))
      · rename_i hgap
        refine List.pairwise_cons.mpr ⟨fun s hs => ?_,
          ih hrest fun t ht => hordered t (List.mem_cons_of_mem _ ht)⟩
        obtain ⟨⟨t, ht, hstart⟩, -⟩ := bounds_joinFrom hs
        have hfirst : r.1 ≤ t.1 := by
          rcases List.mem_cons.mp ht with rfl | ht
          · exact le_rfl
          · exact (List.pairwise_cons.mp hrest).1 t ht
        rw [← hstart]
        exact (lt_of_not_ge hgap).trans_le hfirst

lemma within_joinFrom (h : ByStart (current :: l)) (hs : s ∈ current :: l) :
    ∃ u ∈ joinFrom current l, u.1 ≤ s.1 ∧ s.2 ≤ u.2 := by
  induction l generalizing current s with
  | nil => exact ⟨current, List.mem_singleton_self _, by rw [List.mem_singleton.mp hs]; simp⟩
  | cons r rest ih =>
      obtain ⟨hcurrent, hrest⟩ := List.pairwise_cons.mp h
      have hr : current.1 ≤ r.1 := hcurrent r List.mem_cons_self
      unfold joinFrom
      split
      · have hjoined : ByStart ((current.1, max current.2 r.2) :: rest) :=
          List.pairwise_cons.mpr ⟨fun t ht => hcurrent t (List.mem_cons_of_mem r ht),
            (List.pairwise_cons.mp hrest).2⟩
        -- the joined stretch holds both of its parts
        obtain ⟨u, hu, hstart, hend⟩ := ih hjoined List.mem_cons_self
        rcases List.mem_cons.mp hs with rfl | hs
        · exact ⟨u, hu, hstart, (le_max_left _ _).trans hend⟩
        rcases List.mem_cons.mp hs with rfl | hs
        · exact ⟨u, hu, hstart.trans hr, (le_max_right _ _).trans hend⟩
        · exact ih hjoined (List.mem_cons_of_mem _ hs)
      · rcases List.mem_cons.mp hs with rfl | hs
        · exact ⟨s, List.mem_cons_self, le_rfl, le_rfl⟩
        · obtain ⟨u, hu, hwithin⟩ := ih hrest hs
          exact ⟨u, List.mem_cons_of_mem _ hu, hwithin⟩

lemma beside_joinFrom {a b : α} (hab : a < b) (h : ∀ t ∈ current :: l, t.2 ≤ a ∨ b ≤ t.1)
    (hs : s ∈ joinFrom current l) : s.2 ≤ a ∨ b ≤ s.1 := by
  induction l generalizing current with
  | nil =>
      obtain rfl := List.mem_singleton.mp hs
      exact h s List.mem_cons_self
  | cons r rest ih =>
      unfold joinFrom at hs
      split at hs
      · rename_i htouch
        refine ih (fun t ht => ?_) hs
        rcases List.mem_cons.mp ht with rfl | ht
        · rcases h current List.mem_cons_self with hbefore | hafter
          · rcases h r (List.mem_cons_of_mem _ List.mem_cons_self) with hr | hr
            · exact .inl (max_le hbefore hr)
            · exact absurd (hr.trans (htouch.trans hbefore)) hab.not_ge
          · exact .inr hafter
        · exact h t (List.mem_cons_of_mem _ (List.mem_cons_of_mem _ ht))
      · rcases List.mem_cons.mp hs with rfl | hs
        · exact h s List.mem_cons_self
        · exact ih (fun t ht => h t (List.mem_cons_of_mem _ ht)) hs

lemma join_cases (l : List (α × α)) :
    (l = [] ∧ join l = []) ∨ ∃ s rest, join l = joinFrom s rest ∧ ByStart (s :: rest) ∧
      ∀ t, t ∈ s :: rest ↔ t ∈ l := by
  have hmem : ∀ t, t ∈ l.insertionSort StretchLE ↔ t ∈ l := fun t => List.mem_insertionSort _
  have hsorted := byStart_insertionSort l
  unfold join
  split
  · rename_i hnil
    rw [hnil] at hmem
    exact .inl ⟨List.eq_nil_iff_forall_not_mem.mpr fun t ht => List.not_mem_nil ((hmem t).mpr ht), rfl⟩
  · rename_i s rest hcons
    rw [hcons] at hmem hsorted
    exact .inr ⟨s, rest, rfl, hsorted, hmem⟩

/-- **Joining covers the same points.** -/
theorem covers_join : Covers (join l) m ↔ Covers l m := by
  rcases join_cases l with ⟨rfl, hjoin⟩ | ⟨s, rest, hjoin, hsorted, hmem⟩
  · rw [hjoin]
  · rw [hjoin, covers_joinFrom hsorted]
    exact covers_congr hmem

/-- **Joined stretches are separated.** -/
theorem separated_join (h : Ordered l) : Separated (join l) := by
  rcases join_cases l with ⟨-, hjoin⟩ | ⟨s, rest, hjoin, hsorted, hmem⟩
  · rw [hjoin]
    exact List.Pairwise.nil
  · rw [hjoin]
    exact separated_joinFrom hsorted fun t ht => h t ((hmem t).mp ht)

lemma bounds_join (h : s ∈ join l) : (∃ t ∈ l, t.1 = s.1) ∧ ∃ t ∈ l, t.2 = s.2 := by
  rcases join_cases l with ⟨-, hjoin⟩ | ⟨r, rest, hjoin, -, hmem⟩
  · rw [hjoin] at h
    cases h
  · rw [hjoin] at h
    obtain ⟨⟨t, ht, hstart⟩, u, hu, hend⟩ := bounds_joinFrom h
    exact ⟨⟨t, (hmem t).mp ht, hstart⟩, u, (hmem u).mp hu, hend⟩

lemma join_forall {P : α × α → Prop} (hP : ∀ a b c, P (a, b) → P (a, max b c))
    (h : ∀ t ∈ l, P t) (hs : s ∈ join l) : P s := by
  rcases join_cases l with ⟨-, hjoin⟩ | ⟨r, rest, hjoin, -, hmem⟩
  · rw [hjoin] at hs
    cases hs
  · rw [hjoin] at hs
    exact joinFrom_forall hP (fun t ht => h t ((hmem t).mp ht)) hs

lemma within_join (h : s ∈ l) : ∃ u ∈ join l, u.1 ≤ s.1 ∧ s.2 ≤ u.2 := by
  rcases join_cases l with ⟨rfl, -⟩ | ⟨r, rest, hjoin, hsorted, hmem⟩
  · cases h
  · rw [hjoin]
    exact within_joinFrom hsorted ((hmem s).mpr h)

lemma beside_join {a b : α} (hab : a < b) (h : ∀ t ∈ l, t.2 ≤ a ∨ b ≤ t.1) (hs : s ∈ join l) :
    s.2 ≤ a ∨ b ≤ s.1 := by
  rcases join_cases l with ⟨-, hjoin⟩ | ⟨r, rest, hjoin, -, hmem⟩
  · rw [hjoin] at hs
    cases hs
  · rw [hjoin] at hs
    exact beside_joinFrom hab (fun t ht => h t ((hmem t).mp ht)) hs

lemma ordered_join (h : Ordered l) : Ordered (join l) := fun _ hs =>
  join_forall (P := fun s => s.1 ≤ s.2) (fun _ _ _ hle => hle.trans (le_max_left _ _)) h hs

lemma nonempty_join (h : ∀ t ∈ l, t.1 < t.2) (hs : s ∈ join l) : s.1 < s.2 :=
  join_forall (P := fun s => s.1 < s.2) (fun _ _ _ hlt => lt_max_of_lt_left hlt) h hs

/-- Lists of non-empty stretches that cover the same points join to the same list. -/
theorem join_eq_of_covers {l' : List (α × α)} (hne : ∀ s ∈ l, s.1 < s.2)
    (hne' : ∀ s ∈ l', s.1 < s.2) (h : ∀ m, Covers l m ↔ Covers l' m) : join l = join l' :=
  eq_of_covers (separated_join fun s hs => (hne s hs).le) (separated_join fun s hs => (hne' s hs).le)
    (fun _ hs => nonempty_join hne hs) (fun _ hs => nonempty_join hne' hs) fun m => by
      rw [covers_join, covers_join, h]

end Join

/-! ## Lengths -/

/-- The length of the stretches taken one by one. -/
def totalLength (l : List (ℕ × ℕ)) : ℤ := (l.map fun s => (s.2 : ℤ) - s.1).sum

lemma totalLength_joinFrom {current : ℕ × ℕ} {l : List (ℕ × ℕ)} (h : Apart (current :: l))
    (hordered : Ordered (current :: l)) :
    totalLength (joinFrom current l) = totalLength (current :: l) := by
  induction l generalizing current with
  | nil => rfl
  | cons r rest ih =>
      obtain ⟨hcurrent, hrest⟩ := List.pairwise_cons.mp h
      have hr : current.2 ≤ r.1 := hcurrent r List.mem_cons_self
      have hlr : r.1 ≤ r.2 := hordered r (List.mem_cons_of_mem _ List.mem_cons_self)
      have hlc : current.1 ≤ current.2 := hordered current List.mem_cons_self
      unfold joinFrom
      split
      · rename_i htouch
        -- they touch: the joint is counted once on either side
        have hmax : max current.2 r.2 = r.2 := max_eq_right (hr.trans hlr)
        rw [hmax, ih]
        · have heq : r.1 = current.2 := le_antisymm htouch hr
          simp only [totalLength, List.map_cons, List.sum_cons, heq]
          ring
        · exact List.pairwise_cons.mpr (List.pairwise_cons.mp hrest)
        · intro t ht
          rcases List.mem_cons.mp ht with rfl | ht
          · exact hlc.trans (hr.trans hlr)
          · exact hordered t (List.mem_cons_of_mem _ (List.mem_cons_of_mem _ ht))
      · simp only [totalLength, List.map_cons, List.sum_cons] at ih ⊢
        rw [ih hrest fun t ht => hordered t (List.mem_cons_of_mem _ ht)]

lemma insertionSort_of_apart {l : List (α × α)} (h : Apart l) (hne : ∀ s ∈ l, s.1 < s.2) :
    l.insertionSort StretchLE = l := by
  refine List.Pairwise.insertionSort_eq (h.imp_of_mem fun {s t} hs _ hst => ?_)
  exact .inl ((hne s hs).trans_le hst)

lemma totalLength_join {l : List (ℕ × ℕ)} (h : Apart l) (hne : ∀ s ∈ l, s.1 < s.2) :
    totalLength (join l) = totalLength l := by
  unfold join
  rw [insertionSort_of_apart h hne]
  rcases l with _ | ⟨s, rest⟩
  · rfl
  · exact totalLength_joinFrom h fun t ht => (hne t ht).le

/-! ## Gaps -/

/-- The gaps before each taken stretch from `free` on, as far as `last`.  A gap's bounds are
rounded, but never into what is taken: `floor` is where the stretches before it end. -/
def gaps (round : α → α) (last : α) : α → α → List (α × α) → List (α × α)
  | _, _, [] => []
  | free, floor, taken :: rest =>
      (max (round free) floor, min (round (min taken.1 last)) taken.1) ::
        gaps round last (max free taken.2) (max floor taken.2) rest

/-- The point `m` is lost by rounding the bound `b`, where a gap starts. -/
def LostAfter (round : α → α) (b m : α) : Prop := b ≤ m ∧ m < round b

/-- The point `m` is lost by rounding the bound `b`, where a gap ends. -/
def LostBefore (round : α → α) (b m : α) : Prop := round b ≤ m ∧ m < b

section Gaps

variable {round : α → α} {last free floor m : α} {taken : List (α × α)} {w : α × α}

lemma gaps_inside (hround : Monotone round) (hw : w ∈ gaps round last free floor taken) :
    floor ≤ w.1 ∧ round free ≤ w.1 ∧ w.2 ≤ round last := by
  induction taken generalizing free floor with
  | nil => cases hw
  | cons t rest ih =>
      rcases List.mem_cons.mp hw with rfl | hw
      · exact ⟨le_max_right _ _, le_max_left _ _,
          (min_le_left _ _).trans (hround (min_le_right _ _))⟩
      · obtain ⟨hfloor, hfree, hlast⟩ := ih hw
        exact ⟨(le_max_left _ _).trans hfloor, (hround (le_max_left _ _)).trans hfree, hlast⟩

lemma gaps_beside (hround : Monotone round) (hapart : Apart taken) (hordered : Ordered taken)
    (hw : w ∈ gaps round last free floor taken) : ∀ t ∈ taken, w.2 ≤ t.1 ∨ t.2 ≤ w.1 := by
  induction taken generalizing free floor with
  | nil => cases hw
  | cons t rest ih =>
      obtain ⟨ht, hrest⟩ := List.pairwise_cons.mp hapart
      intro u hu
      rcases List.mem_cons.mp hw with rfl | hw
      · have hend : min (round (min t.1 last)) t.1 ≤ t.1 := min_le_right _ _
        rcases List.mem_cons.mp hu with rfl | hu
        · exact .inl hend
        · exact .inl (hend.trans ((hordered t List.mem_cons_self).trans (ht u hu)))
      · rcases List.mem_cons.mp hu with rfl | hu
        · exact .inr ((le_max_right _ _).trans (gaps_inside hround hw).1)
        · exact ih hrest (fun v hv => hordered v (List.mem_cons_of_mem _ hv)) hw u hu

lemma gaps_free (hround : Monotone round) (hapart : Apart taken) (hordered : Ordered taken)
    (hw : w ∈ gaps round last free floor taken) (hm : w.1 ≤ m ∧ m < w.2) : ¬Covers taken m := by
  rintro ⟨t, ht, hle, hlt⟩
  rcases gaps_beside hround hapart hordered hw t ht with h | h
  · exact absurd (hm.2.trans_le h) hle.not_gt
  · exact absurd (hlt.trans_le h) hm.1.not_gt

lemma gaps_apart (hround : Monotone round) (hapart : Apart taken) (hordered : Ordered taken) :
    Apart (gaps round last free floor taken) := by
  induction taken generalizing free floor with
  | nil => exact List.Pairwise.nil
  | cons t rest ih =>
      refine List.pairwise_cons.mpr ⟨fun w hw => ?_, ih (List.pairwise_cons.mp hapart).2
        fun u hu => hordered u (List.mem_cons_of_mem _ hu)⟩
      calc min (round (min t.1 last)) t.1
          ≤ t.1 := min_le_right _ _
        _ ≤ t.2 := hordered t List.mem_cons_self
        _ ≤ max floor t.2 := le_max_right _ _
        _ ≤ w.1 := (gaps_inside hround hw).1

variable (round) in
/-- **What the gaps leave out.**  A free point before `last`, with a taken stretch at or after it,
is in a gap unless rounding a bound lost it. -/
lemma gaps_covers (hfree : free ≤ m) (hfloor : floor ≤ m) (hlast : m < last)
    (htaken : ¬Covers taken m) (hafter : ∃ t ∈ taken, m < t.1) :
    Covers (gaps round last free floor taken) m ∨ LostAfter round free m ∨
      LostBefore round last m ∨ (∃ t ∈ taken, LostAfter round t.2 m) ∨
        ∃ t ∈ taken, t.1 ≤ last ∧ LostBefore round t.1 m := by
  induction taken generalizing free floor with
  | nil =>
      obtain ⟨_, h, -⟩ := hafter
      cases h
  | cons t rest ih =>
      rcases lt_or_ge m t.1 with hbefore | hpast
      · -- the point is in the gap before `t`, or rounding one of its two bounds lost it
        rcases lt_or_ge m (round free) with hstart | hstart
        · exact .inr (.inl ⟨hfree, hstart⟩)
        rcases lt_or_ge m (round (min t.1 last)) with hend | hend
        · exact .inl (covers_cons.mpr (.inl ⟨max_le hstart hfloor, lt_min hend hbefore⟩))
        rcases le_total t.1 last with hle | hle
        · rw [min_eq_left hle] at hend
          exact .inr (.inr (.inr (.inr ⟨t, List.mem_cons_self, hle, hend, hbefore⟩)))
        · rw [min_eq_right hle] at hend
          exact .inr (.inr (.inl ⟨hend, hlast⟩))
      · have hend : t.2 ≤ m := by
          by_contra hlt
          exact htaken (covers_cons.mpr (.inl ⟨hpast, lt_of_not_ge hlt⟩))
        have hrest : ¬Covers rest m := fun h => htaken (covers_cons.mpr (.inr h))
        have hlater : ∃ u ∈ rest, m < u.1 := by
          obtain ⟨u, hu, hlt⟩ := hafter
          rcases List.mem_cons.mp hu with rfl | hu
          · exact absurd hlt hpast.not_gt
          · exact ⟨u, hu, hlt⟩
        rcases ih (max_le hfree hend) (max_le hfloor hend) hrest hlater with
          h | h | h | ⟨u, hu, h⟩ | ⟨u, hu, h⟩
        · exact .inl (covers_cons.mpr (.inr h))
        · rcases max_choice free t.2 with hmax | hmax
          · rw [hmax] at h
            exact .inr (.inl h)
          · rw [hmax] at h
            exact .inr (.inr (.inr (.inl ⟨t, List.mem_cons_self, h⟩)))
        · exact .inr (.inr (.inl h))
        · exact .inr (.inr (.inr (.inl ⟨u, List.mem_cons_of_mem _ hu, h⟩)))
        · exact .inr (.inr (.inr (.inr ⟨u, List.mem_cons_of_mem _ hu, h⟩)))

end Gaps

end Library
