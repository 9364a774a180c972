import Docketworks.Library.FreePoints
import Docketworks.Timesheet.BreakTimes
import Docketworks.Timesheet.UnallocatedWindows

/-!
# Where work ends

What `finishInTheDay` and `fitTimes` give, for every list of breaks.

* `workedMinutes` — the minutes of a stretch that are on no break.
* `finishInTheDay_isLeast` — the finish is the least minute by which the hours are worked.
* `fitTimes_holds` — a pair of times is fitted to its hours, and fitting it again changes nothing.

**Design.**  Minutes are counted on the clock; `fitTimes` checks a given finish against the time that
passed, and the two agree where the clocks do not move.
-/

namespace Docketworks

open Library

namespace Timesheet

/-- The minutes from `first` to `last` that are on no break. -/
def workedMinutes (breaks : List Window) (first last : ℕ) : ℕ :=
  freeCount (breaks.map Window.minutes) first last

section Worked

variable {breaks breaks' : List Window} {first last : ℕ}

lemma workedMinutes_eq_merged :
    workedMinutes breaks first last = freeCount (mergedMinutes breaks) first last :=
  freeCount_congr fun _ _ _ => covers_join.symm

lemma workedMinutes_congr (h : ∀ w, w ∈ breaks' ↔ w ∈ breaks) :
    workedMinutes breaks' first last = workedMinutes breaks first last := by
  refine freeCount_congr fun m _ _ => covers_congr fun s => ?_
  simp only [List.mem_map, h]

lemma free_congr (h : ∀ w, w ∈ breaks' ↔ w ∈ breaks) {m : ℕ} : Free breaks' m ↔ Free breaks m := by
  simp only [Free, h]

lemma workedMinutes_add_inside (first last : ℕ) (h : WellFormed breaks) :
    workedMinutes breaks first last + minutesInside first last breaks = last - first := by
  rw [workedMinutes_eq_merged]
  exact freeCount_add_covered ((separated_join h.ordered).imp fun h => h.le)

end Worked

/-! ## Stepping over breaks -/

/-- Where `n` minutes of work begun at `cursor` end: past the breaks when there is none of it, else
just past its last minute. -/
structure EndsAt (taken : List (ℕ × ℕ)) (cursor n finish : ℕ) : Prop where
  after : cursor ≤ finish
  count : freeCount taken cursor finish = n
  past : n = 0 → ¬Covers taken finish
  last : 0 < n → ∃ m, finish = m + 1 ∧ cursor ≤ m ∧ ¬Covers taken m

section Stepping

variable {taken : List (ℕ × ℕ)} {t : ℕ × ℕ} {cursor n finish : ℕ}

lemma EndsAt.cons_past (h : EndsAt taken cursor n finish) (hpast : t.2 ≤ cursor) :
    EndsAt (t :: taken) cursor n finish := by
  have hcovers : ∀ m, cursor ≤ m → (Covers (t :: taken) m ↔ Covers taken m) := by
    intro m hm
    rw [covers_cons, or_iff_right]
    rintro ⟨-, hlt⟩
    exact absurd hlt (not_lt.mpr (hpast.trans hm))
  refine ⟨h.after, ?_, fun hn => ?_, fun hn => ?_⟩
  · rw [freeCount_congr fun m hm _ => hcovers m hm, h.count]
  · rw [hcovers _ h.after]
    exact h.past hn
  · obtain ⟨m, hfinish, hm, hfree⟩ := h.last hn
    exact ⟨m, hfinish, hm, by rwa [hcovers m hm]⟩

lemma EndsAt.cons_step {worked : ℕ} (h : EndsAt taken t.2 n finish) (hcursor : cursor ≤ t.2)
    (hworked : freeCount (t :: taken) cursor t.2 = worked)
    (hn : n = 0 → worked = 0) : EndsAt (t :: taken) cursor (worked + n) finish := by
  have hrest : EndsAt (t :: taken) t.2 n finish := h.cons_past le_rfl
  refine ⟨hcursor.trans h.after, ?_, fun h0 => ?_, fun h0 => ?_⟩
  · rw [freeCount_append hcursor h.after, hworked, hrest.count]
  · exact hrest.past (by omega)
  · have hpos : 0 < n := by
      rcases Nat.eq_zero_or_pos n with hzero | hpos
      · have := hn hzero
        omega
      · exact hpos
    obtain ⟨m, hfinish, hm, hfree⟩ := hrest.last hpos
    exact ⟨m, hfinish, hcursor.trans hm, hfree⟩

lemma endsAt_clear (h : ∀ m, cursor ≤ m → m < cursor + n → ¬Covers taken m)
    (hpast : n = 0 → ¬Covers taken cursor) : EndsAt taken cursor n (cursor + n) := by
  refine ⟨by omega, ?_, fun hn => ?_, fun hn => ?_⟩
  · rw [freeCount_of_free h]
    omega
  · subst hn
    exact hpast rfl
  · exact ⟨cursor + n - 1, by omega, by omega, h _ (by omega) (by omega)⟩

/-- **Stepping over separated stretches** ends where the work is done: an induction on the stretches
ahead, the cursor past those behind. -/
lemma endsAt_finishMinutes (hseparated : Separated taken) (hordered : Ordered taken)
    (cursor n : ℕ) : ∃ finish : ℕ,
      finishMinutes cursor n taken = finish ∧ EndsAt taken cursor n finish := by
  induction taken generalizing cursor n with
  | nil =>
      refine ⟨cursor + n, by simp [finishMinutes], ?_⟩
      exact endsAt_clear (fun _ _ _ => not_covers_nil) fun _ => not_covers_nil
  | cons t rest ih =>
      obtain ⟨ht, hrest⟩ := List.pairwise_cons.mp hseparated
      have hrestOrdered : Ordered rest := fun u hu => hordered u (List.mem_cons_of_mem _ hu)
      have hle : t.1 ≤ t.2 := hordered t List.mem_cons_self
      -- nothing after the first stretch is met before it ends
      have hahead : ∀ m, m < t.1 → ¬Covers (t :: rest) m := by
        intro m hm hcovers
        rcases covers_cons.mp hcovers with ⟨hge, -⟩ | ⟨u, hu, hge, -⟩
        · omega
        · have := ht u hu
          omega
      unfold finishMinutes
      split
      · rename_i hpast
        obtain ⟨finish, hfinish, hends⟩ := ih hrest hrestOrdered cursor n
        exact ⟨finish, hfinish, hends.cons_past (by exact_mod_cast hpast)⟩
      rename_i hpast
      have hbefore : cursor < t.2 := by exact_mod_cast lt_of_not_ge hpast
      split
      · rename_i hin
        obtain ⟨finish, hfinish, hends⟩ := ih hrest hrestOrdered t.2 n
        refine ⟨finish, hfinish, ?_⟩
        have hstart : t.1 ≤ cursor := by exact_mod_cast hin
        have hnone : freeCount (t :: rest) cursor t.2 = 0 :=
          freeCount_of_covers fun m hge hlt => covers_cons.mpr (.inl ⟨hstart.trans hge, hlt⟩)
        have hstep := hends.cons_step hbefore.le hnone fun _ => rfl
        rwa [Nat.zero_add] at hstep
      rename_i hout
      have hfront : cursor < t.1 := by exact_mod_cast lt_of_not_ge hout
      split
      · rename_i hfits
        have hdone : cursor + n ≤ t.1 := by exact_mod_cast hfits
        refine ⟨cursor + n, by push_cast; rfl, endsAt_clear (fun m _ hlt => ?_) fun _ => ?_⟩
        · exact hahead m (by omega)
        · exact hahead cursor hfront
      · rename_i hover
        have hmore : t.1 < cursor + n := by exact_mod_cast lt_of_not_ge hover
        obtain ⟨finish, hfinish, hends⟩ := ih hrest hrestOrdered t.2 (n - (t.1 - cursor))
        refine ⟨finish, ?_, ?_⟩
        · have hcast : ((n - (t.1 - cursor) : ℕ) : ℤ) = n - (t.1 - cursor) := by omega
          rw [← hcast]
          exact hfinish
        · -- the minutes before the stretch are worked, and those of the stretch are not
          have hworked : freeCount (t :: rest) cursor t.2 = t.1 - cursor := by
            rw [freeCount_append hfront.le hle, freeCount_of_free fun m _ hlt => hahead m hlt,
              freeCount_of_covers fun m hge hlt => covers_cons.mpr (.inl ⟨hge, hlt⟩), Nat.add_zero]
          have hstep := hends.cons_step hbefore.le hworked fun hzero => by omega
          have hsum : t.1 - cursor + (n - (t.1 - cursor)) = n := by omega
          rwa [hsum] at hstep

end Stepping

/-! ## The finish of some hours -/

section Finish

variable {start : TimeOfDay} {hours : ℚ} {breaks : List Window}

/-- The least minute from the start by which `n` minutes are worked; for none of them, the first that
is on no break. -/
def FinishOf (breaks : List Window) (start n finish : ℕ) : Prop :=
  if n = 0 then IsLeast {m | start ≤ m ∧ Free breaks m} finish
  else IsLeast {f | start ≤ f ∧ workedMinutes breaks start f = n} finish

lemma FinishOf.eq {n f f' : ℕ} {start : ℕ} (h : FinishOf breaks start n f)
    (h' : FinishOf breaks start n f') : f = f' := by
  unfold FinishOf at h h'
  split at h
  · rename_i hn
    rw [if_pos hn] at h'
    exact h.unique h'
  · rename_i hn
    rw [if_neg hn] at h'
    exact h.unique h'

lemma FinishOf.congr {breaks' : List Window} {n f start : ℕ} (h : ∀ w, w ∈ breaks' ↔ w ∈ breaks)
    (hf : FinishOf breaks' start n f) : FinishOf breaks start n f := by
  unfold FinishOf at *
  simp only [workedMinutes_congr h, free_congr h] at hf
  exact hf

lemma finishOf_endsAt {start n finish : ℕ} (h : EndsAt (mergedMinutes breaks) start n finish) :
    FinishOf breaks start n finish := by
  unfold FinishOf
  split
  · rename_i hn
    refine ⟨⟨h.after, free_iff.mpr (h.past hn)⟩, ?_⟩
    rintro m ⟨hm, hfree⟩
    by_contra hlt
    -- a free minute before the finish would be worked
    have hone : freeCount (mergedMinutes breaks) start (m + 1) ≤
        freeCount (mergedMinutes breaks) start finish := freeCount_mono (by omega)
    rw [freeCount_succ hm (free_iff.mp hfree), h.count] at hone
    omega
  · rename_i hn
    obtain ⟨m, rfl, hm, hfree⟩ := h.last (by omega)
    have hleast := isLeast_freeCount hm hfree
    rw [h.count] at hleast
    simp only [workedMinutes_eq_merged]
    exact hleast

lemma finishInTheDay_eq_finishOf (start : TimeOfDay) (hhours : 0 ≤ hours)
    (hbreaks : WellFormed breaks) : ∃ finish : ℕ,
      FinishOf breaks start.minutes (wholeMinutes hours).toNat finish ∧
      finishInTheDay start hours breaks =
        .ok (if h : finish < 24 * 60 then some (.ofMinutes finish h) else none) := by
  obtain ⟨n, hn⟩ := Int.eq_ofNat_of_zero_le (wholeMinutes_nonneg hhours)
  obtain ⟨finish, hfinish, hends⟩ := endsAt_finishMinutes (separated_join hbreaks.ordered)
    (ordered_join hbreaks.ordered) start.minutes n
  refine ⟨finish, ?_, ?_⟩
  · rw [hn, Int.toNat_natCast]
    exact finishOf_endsAt hends
  · unfold finishInTheDay
    simp only [hn]
    unfold mergedMinutes at *
    rw [hfinish]
    split
    · rename_i hlate
      rw [dif_neg (by omega)]
    · rename_i hday
      have hlt : finish < 24 * 60 := by omega
      rw [dif_pos hlt, timeOf_of_lt hlt]
      rfl

/-! ### Every hours and breaks -/

lemma wellFormed_of_lt (h : ∀ w ∈ breaks, w.start < w.finish) : WellFormed breaks := by
  intro w hw
  by_contra hlt
  have hback : w.finish < w.start := lt_of_minutes_lt (by omega)
  exact absurd (h w hw) (not_lt.mpr (le_of_lt (α := ℕ) hback))

lemma finishInTheDay_congr {breaks' : List Window} (hhours : 0 ≤ hours) (hbreaks : WellFormed breaks)
    (h : ∀ w, w ∈ breaks' ↔ w ∈ breaks) :
    finishInTheDay start hours breaks' = finishInTheDay start hours breaks := by
  have hbreaks' : WellFormed breaks' := fun w hw => hbreaks w ((h w).mp hw)
  obtain ⟨finish, hfinish, hin⟩ := finishInTheDay_eq_finishOf start hhours hbreaks
  obtain ⟨finish', hfinish', hin'⟩ := finishInTheDay_eq_finishOf start hhours hbreaks'
  obtain rfl : finish' = finish := (hfinish'.congr h).eq hfinish
  rw [hin, hin']

/-- **Where hours end.**  Hours that round to a minute at least end at the least minute by which the
minutes on no break are the hours rounded half up; hours that round to none end at the first minute
on no break.  The answer is none exactly where that is past the last minute of the day, and it is the
same for breaks in another order or given twice. -/
theorem finishInTheDay_isLeast (start : TimeOfDay) (hours : ℚ) (breaks : List Window)
    (hhours : 0 < hours) (hbreaks : ∀ w ∈ breaks, w.start < w.finish) : ∃ finish : ℕ,
      finishInTheDay start hours breaks =
        .ok (if h : finish < 24 * 60 then some (.ofMinutes finish h) else none) ∧
      (⌊hours * 60 + 1 / 2⌋ ≠ 0 → IsLeast {f | start.minutes ≤ f ∧
        (workedMinutes breaks start.minutes f : ℤ) = ⌊hours * 60 + 1 / 2⌋} finish) ∧
      (⌊hours * 60 + 1 / 2⌋ = 0 → IsLeast {m | start.minutes ≤ m ∧ Free breaks m} finish) ∧
      ∀ breaks', (∀ w, w ∈ breaks' ↔ w ∈ breaks) →
        finishInTheDay start hours breaks' = finishInTheDay start hours breaks := by
  have hwell : WellFormed breaks := wellFormed_of_lt hbreaks
  have hround : wholeMinutes hours = ⌊hours * 60 + 1 / 2⌋ := if_pos hhours.le
  have hnonneg : 0 ≤ ⌊hours * 60 + 1 / 2⌋ := hround ▸ wholeMinutes_nonneg hhours.le
  obtain ⟨finish, hfinish, hin⟩ := finishInTheDay_eq_finishOf start hhours.le hwell
  rw [hround] at hfinish
  refine ⟨finish, hin, fun hsome => ?_, fun hnone => ?_,
    fun breaks' h => finishInTheDay_congr hhours.le hwell h⟩
  · unfold FinishOf at hfinish
    rw [if_neg (by omega)] at hfinish
    have hset : ∀ f, (workedMinutes breaks start.minutes f : ℤ) = ⌊hours * 60 + 1 / 2⌋ ↔
        workedMinutes breaks start.minutes f = ⌊hours * 60 + 1 / 2⌋.toNat := by
      intro f
      omega
    simpa only [hset] using hfinish
  · rw [hnone] at hfinish
    exact hfinish

/-- Two hours from seven end round a break at eight. -/
theorem finishInTheDay_isLeast_round_a_break :
    ∃ finish : ℕ,
      finishInTheDay (clock 7 0 (by decide)) 2
          [⟨clock 8 0 (by decide), clock 8 15 (by decide)⟩] =
        .ok (if h : finish < 24 * 60 then some (.ofMinutes finish h) else none) ∧
      IsLeast {f | 7 * 60 ≤ f ∧ (workedMinutes [⟨clock 8 0 (by decide), clock 8 15 (by decide)⟩]
        (7 * 60) f : ℤ) = 120} finish := by
  obtain ⟨finish, hin, hleast, -⟩ := finishInTheDay_isLeast (clock 7 0 (by decide)) 2
    [⟨clock 8 0 (by decide), clock 8 15 (by decide)⟩] (by norm_num) (by decide)
  have hround : ⌊(2 : ℚ) * 60 + 1 / 2⌋ = 120 := by norm_num
  rw [hround] at hleast
  exact ⟨finish, hin, hleast (by decide)⟩

/-- **Hours under half a minute** begun inside a break end after it, though none of them is left to
work: the start itself has that property. -/
theorem hours_of_no_minute_step_past_a_break :
    ¬∀ (start finish : TimeOfDay) (hours : ℚ) (breaks : List Window), 0 < hours →
      (∀ w ∈ breaks, w.start < w.finish) →
      finishInTheDay start hours breaks = .ok (some finish) →
      IsLeast {f | start.minutes ≤ f ∧
        (workedMinutes breaks start.minutes f : ℤ) = ⌊hours * 60 + 1 / 2⌋} finish.minutes := by
  intro h
  have hleast := h (clock 8 5 (by decide)) (clock 8 15 (by decide)) (1 / 200)
    [⟨clock 8 0 (by decide), clock 8 15 (by decide)⟩] (by norm_num) (by decide) (by decide +kernel)
  have hstart : (clock 8 15 (by decide)).minutes ≤ (clock 8 5 (by decide)).minutes :=
    hleast.2 ⟨le_rfl, by decide +kernel⟩
  exact absurd hstart (by decide)

end Finish

/-! ## The times of an entry -/

section Fitting

variable {start finish : TimeOfDay} {hours : ℚ} {breaks : List Window}
  {clockChange : TimeOfDay → TimeOfDay → ℤ}

lemma startAfterBreaks_free (start : TimeOfDay) (hbreaks : WellFormed breaks) :
    ∃ t, startAfterBreaks start breaks = .ok t ∧ t.micros = 0 ∧ Free breaks t.minutes ∧
      start.minutes ≤ t.minutes := by
  obtain ⟨t, ht, hmicros, hminutes, hle⟩ := startAfterBreaks_eq_ok start breaks
  obtain ⟨finish, hfinish, hends⟩ := endsAt_finishMinutes (separated_join hbreaks.ordered)
    (ordered_join hbreaks.ordered) start.minutes 0
  have heq : t.minutes = finish := by
    have hcast : (t.minutes : ℤ) = finish := hminutes.trans hfinish
    exact_mod_cast hcast
  exact ⟨t, ht, hmicros, free_iff.mpr (heq ▸ hends.past rfl), hle⟩

lemma startAfterBreaks_of_free (hmicros : start.micros = 0) (hfree : Free breaks start.minutes) :
    startAfterBreaks start breaks = .ok start := by
  refine startAfterBreaks_clear hmicros fun t ht => ?_
  have hnot : ¬(t.1 ≤ start.minutes ∧ start.minutes < t.2) :=
    fun hin => free_iff.mp hfree ⟨t, ht, hin⟩
  omega

lemma worked_of_finishInTheDay (hhours : 1 / 100 ≤ hours) (hbreaks : WellFormed breaks)
    (h : finishInTheDay start hours breaks = .ok (some finish)) :
    finish.micros = 0 ∧
      (workedMinutes breaks start.minutes finish.minutes : ℤ) = wholeMinutes hours := by
  have hpos : 0 < wholeMinutes hours := wholeMinutes_pos hhours
  obtain ⟨least, hleast, hin⟩ := finishInTheDay_eq_finishOf start
    (show (0 : ℚ) ≤ hours by linarith) hbreaks
  rw [hin] at h
  have hsome := Except.ok.inj h
  split at hsome
  · obtain rfl := Option.some.inj hsome
    unfold FinishOf at hleast
    rw [if_neg (by omega)] at hleast
    have hcount : workedMinutes breaks start.minutes least = (wholeMinutes hours).toNat :=
      hleast.1.2
    refine ⟨rfl, ?_⟩
    change (workedMinutes breaks start.minutes least : ℤ) = wholeMinutes hours
    omega
  · cases hsome

lemma elapsedHours_eq (hstart : start.micros = 0) (hfinish : finish.micros = 0)
    (hle : start.minutes ≤ finish.minutes) (hbreaks : WellFormed breaks) :
    elapsedHours clockChange start finish breaks =
      ((workedMinutes breaks start.minutes finish.minutes : ℚ) + clockChange start finish) / 60 := by
  have hsum := workedMinutes_add_inside start.minutes finish.minutes hbreaks
  have hspan : ((workedMinutes breaks start.minutes finish.minutes : ℚ) +
      minutesInside start.minutes finish.minutes breaks) = finish.minutes - start.minutes := by
    rw [← Nat.cast_sub hle, ← hsum, Nat.cast_add]
  unfold elapsedHours breakMinutesIn TimeOfDay.sinceMidnight
  rw [hstart, hfinish]
  push_cast
  simp only [add_zero]
  linarith

lemma abs_wholeMinutes_sub_le (hhours : 0 ≤ hours) :
    |(wholeMinutes hours : ℚ) / 60 - hours| ≤ timeAgreementTolerance := by
  unfold wholeMinutes timeAgreementTolerance
  rw [if_pos hhours, abs_le]
  have hle := Int.floor_le (hours * 60 + 1 / 2)
  have hlt := Int.lt_floor_add_one (hours * 60 + 1 / 2)
  constructor <;> linarith

lemma elapsedHours_of_placed (clockChange : TimeOfDay → TimeOfDay → ℤ) (hhours : 1 / 100 ≤ hours) (hbreaks : WellFormed breaks)
    (hmicros : start.micros = 0) (h : finishInTheDay start hours breaks = .ok (some finish)) :
    |elapsedHours clockChange start finish breaks - clockChange start finish / 60 - hours| ≤
      timeAgreementTolerance := by
  obtain ⟨hwhole, hworked⟩ := worked_of_finishInTheDay hhours hbreaks h
  have hle := le_finishInTheDay (show (0 : ℚ) ≤ hours by linarith) h
  have hcast : (workedMinutes breaks start.minutes finish.minutes : ℚ) = wholeMinutes hours := by
    exact_mod_cast hworked
  rw [elapsedHours_eq hmicros hwhole hle hbreaks, hcast]
  have hnear := abs_wholeMinutes_sub_le (show (0 : ℚ) ≤ hours by linarith)
  have hring : ((wholeMinutes hours : ℚ) + clockChange start finish) / 60 -
      clockChange start finish / 60 - hours = wholeMinutes hours / 60 - hours := by ring
  rw [hring]
  exact hnear

/-- What two fitted times keep, for the finish that was given. -/
structure HoldsHours (clockChange : TimeOfDay → TimeOfDay → ℤ) (hours : ℚ) (breaks : List Window)
    (given start finish : TimeOfDay) : Prop where
  forward : start < finish
  outside : Free breaks start.minutes
  /-- They hold the hours, but where the clocks went forward between them. -/
  covers : 0 ≤ clockChange start finish →
    hours - elapsedHours clockChange start finish breaks ≤ timeAgreementTolerance
  /-- A finish that was moved holds no more, but where the clocks moved. -/
  moved : finish ≠ given → clockChange start finish = 0 →
    |elapsedHours clockChange start finish breaks - hours| ≤ timeAgreementTolerance

lemma holdsHours_of_placed {given : TimeOfDay} (hhours : 1 / 100 ≤ hours)
    (hbreaks : WellFormed breaks) (hmicros : start.micros = 0) (hfree : Free breaks start.minutes)
    (h : finishInTheDay start hours breaks = .ok (some finish)) :
    HoldsHours clockChange hours breaks given start finish := by
  have hnear := elapsedHours_of_placed clockChange hhours hbreaks hmicros h
  refine ⟨lt_finishInTheDay hhours h, hfree, fun hback => ?_, fun _ hstill => ?_⟩
  · have hcast : (0 : ℚ) ≤ clockChange start finish := by exact_mod_cast hback
    have hlow := (abs_le.mp hnear).1
    linarith
  · rw [hstill, Int.cast_zero, zero_div, sub_zero] at hnear
    exact hnear

lemma fitTimes_again (hmicros : start.micros = 0) (hfree : Free breaks start.minutes)
    (h : (start < finish ∧ hours - elapsedHours clockChange start finish breaks ≤
      timeAgreementTolerance) ∨ finishInTheDay start hours breaks = .ok (some finish)) :
    fitTimes clockChange (some start) (some finish) hours breaks =
      .ok (some start, some finish) := by
  rw [fitTimes, startAfterBreaks_of_free hmicros hfree, ok_bind]
  by_cases hkept : start < finish ∧ hours - elapsedHours clockChange start finish breaks ≤
      timeAgreementTolerance
  · rw [if_pos hkept, pure_eq_ok]
  · rw [if_neg hkept, h.resolve_left hkept, ok_bind, pure_eq_ok]

/-- **An entry's times are fitted to its hours.**  A single time is left alone.  Two times are both
dropped, or run forward from a start on no break and hold the hours but where the clocks went
forward; a finish that was moved holds the hours and no more but where the clocks moved.  Fitting
again changes nothing. -/
theorem fitTimes_holds (clockChange : TimeOfDay → TimeOfDay → ℤ) (start finish : Option TimeOfDay)
    (hours : ℚ) (breaks : List Window) (hhours : refuseBadHours hours = .ok ())
    (hbreaks : ∀ w ∈ breaks, w.start < w.finish) :
    ∃ start' finish', fitTimes clockChange start finish hours breaks = .ok (start', finish') ∧
      fitTimes clockChange start' finish' hours breaks = .ok (start', finish') ∧
      (start = none ∨ finish = none → start' = start ∧ finish' = finish) ∧
      ∀ s ∈ start, ∀ f ∈ finish, (start' = none ∧ finish' = none) ∨
        ∃ s' f', start' = some s' ∧ finish' = some f' ∧
          HoldsHours clockChange hours breaks f s' f' := by
  have hwell : WellFormed breaks := wellFormed_of_lt hbreaks
  have hpart : 1 / 100 ≤ hours := hundredth_of_refuseBadHours hhours
  rcases start with _ | s
  · exact ⟨none, finish, rfl, rfl, fun _ => ⟨rfl, rfl⟩, fun _ hs => by cases hs⟩
  rcases finish with _ | f
  · exact ⟨some s, none, rfl, rfl, fun _ => ⟨rfl, rfl⟩, fun _ _ _ hf => by cases hf⟩
  obtain ⟨s', hs', hmicros, hfree, -⟩ := startAfterBreaks_free s hwell
  have hboth : ∀ start' finish' : Option TimeOfDay, some s = none ∨ some f = none →
      start' = some s ∧ finish' = some f := fun _ _ h => by rcases h with h | h <;> cases h
  by_cases hkept : s' < f ∧ hours - elapsedHours clockChange s' f breaks ≤ timeAgreementTolerance
  · refine ⟨some s', some f, ?_, fitTimes_again hmicros hfree (.inl hkept), hboth _ _, ?_⟩
    · rw [fitTimes, hs', ok_bind, if_pos hkept, pure_eq_ok]
    · rintro _ - _ ⟨rfl⟩
      exact .inr ⟨s', f, rfl, rfl, hkept.1, hfree, fun _ => hkept.2, fun hne => absurd rfl hne⟩
  obtain ⟨placed, hplaced⟩ := finishInTheDay_eq_ok s' (show (0 : ℚ) ≤ hours by linarith) breaks
  rcases placed with _ | f'
  · have hfit : fitTimes clockChange (some s) (some f) hours breaks = .ok (none, none) := by
      rw [fitTimes, hs', ok_bind, if_neg hkept, hplaced, ok_bind, pure_eq_ok]
    exact ⟨none, none, hfit, rfl, hboth _ _, fun _ _ _ _ => .inl ⟨rfl, rfl⟩⟩
  · have hfit : fitTimes clockChange (some s) (some f) hours breaks = .ok (some s', some f') := by
      rw [fitTimes, hs', ok_bind, if_neg hkept, hplaced, ok_bind, pure_eq_ok]
    refine ⟨some s', some f', hfit, fitTimes_again hmicros hfree (.inr hplaced), hboth _ _, ?_⟩
    exact fun _ _ _ _ => .inr ⟨s', f', rfl, rfl,
      holdsHours_of_placed hpart hwell hmicros hfree hplaced⟩

/-- Eight hours cannot end at two in the afternoon round an hour of breaks: the finish moves. -/
theorem fitTimes_holds_eight_hours :
    ∃ start' finish', fitTimes (fun _ _ => 0) (some (clock 7 0 (by decide)))
        (some (clock 14 0 (by decide))) 8 [⟨clock 12 0 (by decide), clock 13 0 (by decide)⟩] =
          .ok (start', finish') ∧ finish' = some (clock 16 0 (by decide)) := by
  obtain ⟨start', finish', hfit, -⟩ := fitTimes_holds (fun _ _ => 0)
    (some (clock 7 0 (by decide))) (some (clock 14 0 (by decide))) 8
    [⟨clock 12 0 (by decide), clock 13 0 (by decide)⟩] (by decide +kernel) (by decide)
  refine ⟨start', finish', hfit, ?_⟩
  have hgiven : fitTimes (fun _ _ => 0) (some (clock 7 0 (by decide)))
      (some (clock 14 0 (by decide))) 8 [⟨clock 12 0 (by decide), clock 13 0 (by decide)⟩] =
        .ok (some (clock 7 0 (by decide)), some (clock 16 0 (by decide))) := by decide +kernel
  rw [hgiven] at hfit
  exact (Prod.mk.inj (Except.ok.inj hfit)).2.symm

/-- **A later finish is kept**: an hour from eight to noon is four hours of times. -/
theorem fitTimes_keeps_a_later_finish :
    ¬∀ (clockChange : TimeOfDay → TimeOfDay → ℤ) (start finish : Option TimeOfDay) (hours : ℚ)
        (breaks : List Window) (start' finish' : Option TimeOfDay), refuseBadHours hours = .ok () →
      (∀ w ∈ breaks, w.start < w.finish) →
      fitTimes clockChange start finish hours breaks = .ok (start', finish') →
      (start' = none ∧ finish' = none) ∨ ∃ s f, start' = some s ∧ finish' = some f ∧ s < f ∧
        Free breaks s.minutes ∧
          |elapsedHours clockChange s f breaks - hours| ≤ timeAgreementTolerance := by
  intro h
  obtain ⟨hnone, -⟩ | ⟨s, f, hs, hf, -, -, hnear⟩ := h (fun _ _ => 0)
    (some (clock 8 0 (by decide))) (some (clock 12 0 (by decide))) 1 []
    (some (clock 8 0 (by decide))) (some (clock 12 0 (by decide))) (by decide +kernel)
    (fun _ hw => absurd hw List.not_mem_nil) (by decide +kernel)
  · cases hnone
  · obtain rfl := Option.some.inj hs
    obtain rfl := Option.some.inj hf
    exact absurd hnear (by decide +kernel)

end Fitting

end Timesheet

end Docketworks
