import Docketworks.Timesheet.Clock

/-!
# Stepping over one more break

How `finishMinutes` answers where a break is added, for any breaks, backward ones among them.

* `finishMinutes_join` — joining the breaks leaves the answer.
* `finishMinutes_insert` — a break that ends at the cursor leaves the answer.
* `finishMinutes_again` — a start moved past the breaks stays.
* `finishMinutes_extend` — a break from where the start moved takes the start to its end.
-/

namespace Docketworks

open Library

namespace Timesheet

section StepOver

variable {taken rest : List (ℕ × ℕ)} {t p : ℕ × ℕ} {cursor remaining : ℤ}

/-- Two stretches that overlap or touch are stepped over as one: whichever of them the cursor is in,
it ends up past both. -/
lemma finishMinutes_merge {s : ℕ × ℕ} (hstart : t.1 ≤ s.1) (htouch : s.1 ≤ t.2) :
    finishMinutes cursor remaining ((t.1, max t.2 s.2) :: rest) =
      finishMinutes cursor remaining (t :: s :: rest) := by
  have hstart' : (t.1 : ℤ) ≤ s.1 := by exact_mod_cast hstart
  have htouch' : (s.1 : ℤ) ≤ t.2 := by exact_mod_cast htouch
  have hmax : ((max t.2 s.2 : ℕ) : ℤ) = max (t.2 : ℤ) s.2 := Nat.cast_max _ _
  obtain ⟨a, b⟩ := t
  obtain ⟨c, d⟩ := s
  simp only [finishMinutes, hmax] at *
  rcases le_total (b : ℤ) d with hle | hle
  · rw [max_eq_right hle]
    by_cases hpast : (d : ℤ) ≤ cursor
    · rw [if_pos hpast, if_pos (hle.trans hpast), if_pos hpast]
    by_cases hin : (a : ℤ) ≤ cursor
    · rw [if_neg hpast, if_pos hin]
      by_cases hb : (b : ℤ) ≤ cursor
      · rw [if_pos hb, if_neg hpast, if_pos (htouch'.trans hb)]
      · rw [if_neg hb, if_pos hin]
        rcases hle.eq_or_lt with heq | hlt
        · rw [if_pos heq.ge, heq]
        · rw [if_neg (not_le.mpr hlt), if_pos htouch']
    · have hb : ¬(b : ℤ) ≤ cursor := by omega
      rw [if_neg hpast, if_neg hin, if_neg hb, if_neg hin]
      by_cases hfits : cursor + remaining ≤ a
      · rw [if_pos hfits, if_pos hfits]
      rw [if_neg hfits, if_neg hfits]
      rcases hle.eq_or_lt with heq | hlt
      · rw [if_pos heq.ge, heq]
      · rw [if_neg (not_le.mpr hlt), if_pos htouch']
  · rw [max_eq_left hle]
    by_cases hpast : (b : ℤ) ≤ cursor
    · rw [if_pos hpast, if_pos hpast, if_pos (hle.trans hpast)]
    · rw [if_neg hpast, if_neg hpast, if_pos hle, if_pos hle]

lemma finishMinutes_cons_congr {rest' : List (ℕ × ℕ)}
    (h : ∀ cursor remaining, finishMinutes cursor remaining rest =
      finishMinutes cursor remaining rest') :
    finishMinutes cursor remaining (t :: rest) = finishMinutes cursor remaining (t :: rest') := by
  simp only [finishMinutes, h]

lemma finishMinutes_joinFrom (h : ByStart (t :: rest)) :
    finishMinutes cursor remaining (joinFrom t rest) =
      finishMinutes cursor remaining (t :: rest) := by
  induction rest generalizing t cursor remaining with
  | nil => rfl
  | cons s rest ih =>
      obtain ⟨ht, hrest⟩ := List.pairwise_cons.mp h
      unfold joinFrom
      split
      · rename_i htouch
        have hjoined : ByStart ((t.1, max t.2 s.2) :: rest) :=
          List.pairwise_cons.mpr ⟨fun u hu => ht u (List.mem_cons_of_mem s hu),
            (List.pairwise_cons.mp hrest).2⟩
        rw [ih hjoined, finishMinutes_merge (ht s List.mem_cons_self) htouch]
      · exact finishMinutes_cons_congr fun _ _ => ih hrest

/-- **Joining the breaks** leaves the answer. -/
lemma finishMinutes_join (l : List (ℕ × ℕ)) :
    finishMinutes cursor remaining (join l) =
      finishMinutes cursor remaining (l.insertionSort StretchLE) := by
  have hsorted := byStart_insertionSort l
  unfold join
  split
  · rename_i hnil
    rw [hnil]
  · rename_i hcons
    rw [hcons] at hsorted ⊢
    exact finishMinutes_joinFrom hsorted

lemma finishMinutes_skip (h : (p.2 : ℤ) ≤ cursor) :
    finishMinutes cursor remaining (taken ++ p :: rest) =
      finishMinutes cursor remaining (taken ++ rest) := by
  induction taken generalizing cursor remaining with
  | nil => simp only [List.nil_append, finishMinutes, if_pos h]
  | cons t taken ih =>
      simp only [List.cons_append, finishMinutes]
      split
      · exact ih h
      · rename_i hpast
        have hon : (p.2 : ℤ) ≤ t.2 := h.trans (lt_of_not_ge hpast).le
        rw [ih hon, ih hon]

instance : Std.Antisymm (StretchLE (α := ℕ)) where
  antisymm s t := by
    rintro (h | ⟨h, h'⟩) (k | ⟨k, k'⟩)
    · exact absurd (h.trans k) (lt_irrefl _)
    · exact absurd k (ne_of_gt h)
    · exact absurd h (ne_of_gt k)
    · exact Prod.ext h (le_antisymm h' k')

lemma insertionSort_congr {l l' : List (ℕ × ℕ)} (h : l.Perm l') :
    l.insertionSort StretchLE = l'.insertionSort StretchLE := by
  refine List.Perm.eq_of_pairwise' (List.pairwise_insertionSort _ l)
    (List.pairwise_insertionSort _ l') ?_
  exact ((List.perm_insertionSort _ l).trans h).trans (List.perm_insertionSort _ l').symm

lemma insertionSort_cons_split (p : ℕ × ℕ) (l : List (ℕ × ℕ)) :
    ∃ before after, l.insertionSort StretchLE = before ++ after ∧
      (p :: l).insertionSort StretchLE = before ++ p :: after := by
  refine ⟨_, _, (List.takeWhile_append_dropWhile (p := fun b => ¬StretchLE p b)).symm, ?_⟩
  exact List.insertionSort_cons_eq_take_drop _ p l

/-- **A break that ends at the cursor** leaves the answer. -/
lemma finishMinutes_insert {l l' : List (ℕ × ℕ)} (hadded : l'.Perm (p :: l))
    (h : (p.2 : ℤ) ≤ cursor) :
    finishMinutes cursor remaining (join l') = finishMinutes cursor remaining (join l) := by
  obtain ⟨before, after, hl, hpl⟩ := insertionSort_cons_split p l
  rw [finishMinutes_join, finishMinutes_join, insertionSort_congr hadded, hpl, hl,
    finishMinutes_skip h]

lemma finishMinutes_again :
    finishMinutes (finishMinutes cursor 0 taken) 0 taken = finishMinutes cursor 0 taken := by
  induction taken generalizing cursor with
  | nil => simp [finishMinutes]
  | cons t rest ih =>
      by_cases hpast : (t.2 : ℤ) ≤ cursor
      · have hskip : ∀ c : ℤ, cursor ≤ c → finishMinutes c 0 (t :: rest) = finishMinutes c 0 rest :=
          fun c hc => if_pos (hpast.trans hc)
        rw [hskip cursor le_rfl, hskip _ (le_finishMinutes le_rfl), ih]
      by_cases hin : (t.1 : ℤ) ≤ cursor
      · have hmove : finishMinutes cursor 0 (t :: rest) = finishMinutes t.2 0 rest := by
          simp only [finishMinutes, if_neg hpast, if_pos hin]
        have hskip : finishMinutes (finishMinutes t.2 0 rest) 0 (t :: rest) =
            finishMinutes (finishMinutes t.2 0 rest) 0 rest := if_pos (le_finishMinutes le_rfl)
        rw [hmove, hskip, ih]
      · have hstop : finishMinutes cursor 0 (t :: rest) = cursor := by
          simp only [finishMinutes, if_neg hpast, if_neg hin, add_zero]
          exact if_pos (lt_of_not_ge hin).le
        rw [hstop, hstop]

/-- A start moved past stretches in order is moved on by one more that begins where it stopped: an
induction on those before it. -/
lemma finishMinutes_extend_sorted {before : List (ℕ × ℕ)} (hle : p.1 ≤ p.2)
    (hp : (p.1 : ℤ) = finishMinutes cursor 0 (before ++ rest))
    (hbefore : ∀ t ∈ before, StretchLE t p) (hafter : ∀ t ∈ rest, StretchLE p t) :
    finishMinutes cursor 0 (before ++ p :: rest) = finishMinutes p.2 0 (before ++ rest) := by
  have hle' : (p.1 : ℤ) ≤ p.2 := by exact_mod_cast hle
  have hcursor : cursor ≤ p.1 := hp ▸ le_finishMinutes le_rfl
  induction before generalizing cursor with
  | nil =>
      simp only [List.nil_append] at hp ⊢
      -- nothing that starts at the break or later moves a start before it
      have hstarts : ∀ t ∈ rest, (p.1 : ℤ) ≤ t.1 := by
        intro t ht
        rcases hafter t ht with h | ⟨h, -⟩
        · exact_mod_cast h.le
        · exact_mod_cast h.le
      have heq : cursor = p.1 := by
        by_contra hne
        have hlt : cursor < p.1 := lt_of_le_of_ne hcursor hne
        rw [finishMinutes_clear fun t ht => .inr ⟨hlt.trans_le (hstarts t ht), by
          have := hstarts t ht
          omega⟩] at hp
        omega
      simp only [finishMinutes]
      split
      · rename_i hpast
        have hsame : (p.2 : ℤ) = cursor := by omega
        rw [hsame]
      · rw [if_pos heq.ge]
  | cons t before ih =>
      have ht : (t.1 : ℤ) ≤ p.1 := by
        rcases hbefore t List.mem_cons_self with h | ⟨h, -⟩
        · exact_mod_cast h.le
        · exact_mod_cast h.le
      have hrest : ∀ u ∈ before, StretchLE u p := fun u hu => hbefore u (List.mem_cons_of_mem _ hu)
      simp only [List.cons_append, finishMinutes] at hp ⊢
      by_cases hpast : (t.2 : ℤ) ≤ cursor
      · rw [if_pos hpast] at hp ⊢
        rw [if_pos (by omega)]
        exact ih hp hrest hcursor
      by_cases hin : (t.1 : ℤ) ≤ cursor
      · rw [if_neg hpast, if_pos hin] at hp ⊢
        have hmoved : (t.2 : ℤ) ≤ p.1 := hp ▸ le_finishMinutes le_rfl
        rw [if_pos (by omega)]
        exact ih hp hrest hmoved
      · rw [if_neg hpast, if_neg hin, if_pos (by omega)] at hp
        omega

/-- **A break from where a start moved to** takes the start to its end. -/
lemma finishMinutes_extend {l l' : List (ℕ × ℕ)} (hadded : l'.Perm (p :: l)) (hle : p.1 ≤ p.2)
    (hp : (p.1 : ℤ) = finishMinutes cursor 0 (join l)) :
    finishMinutes cursor 0 (join l') = finishMinutes p.2 0 (join l) := by
  obtain ⟨before, after, hl, hpl⟩ := insertionSort_cons_split p l
  have hsorted := List.pairwise_insertionSort StretchLE (p :: l)
  rw [hpl] at hsorted
  obtain ⟨-, hafter, hbefore⟩ := List.pairwise_append.mp hsorted
  rw [finishMinutes_join, hl] at hp
  rw [finishMinutes_join, finishMinutes_join, insertionSort_congr hadded, hpl, hl]
  exact finishMinutes_extend_sorted hle hp (fun t ht => hbefore t ht p List.mem_cons_self)
    (List.pairwise_cons.mp hafter).1

end StepOver

end Timesheet

end Docketworks
