import Docketworks.Timesheet.Placement
import Docketworks.Timesheet.Pricing
import Mathlib.Algebra.BigOperators.Ring.Finset
import Mathlib.Algebra.BigOperators.Ring.List

/-!
# The hours still to fill

The figures of `fill_figures` beside the windows of `unallocated_windows`, on days that lie on
quarter hours.

* `DayBreak`, `dayBreaks`, `breakWindows_eq_map` — the day's breaks, and which are paid.
* `paidSpanHours`, `fillFigures` — the hours to fill, on breaks, entered and to go.
* `QuarterDay` — the span, the breaks and the entries lie on quarter hours.
* `minutes_of_windows` — then the windows hold every free minute of the span.
* `workedMinutes_layOut` — what is laid out takes its own minutes of the free time.
* `Tidy` — a day whose breaks and entries take just their hours of the span.
* `fillFigures_beside_windows` — what to go and the windows differ by.

**Design.**  The figures are floats of decimals, here the decimals.  The callers pass the sum of the
day's entries as what is entered, leave among them.
-/

namespace Docketworks

open Library Library.Transaction

namespace Timesheet

/-! ## The breaks of a day, paid and unpaid -/

structure DayBreak where
  window : Window
  paid : Bool
deriving DecidableEq, Repr

/-- Whether a break line is a paid break rather than lunch or another unpaid break. -/
def isPaidBreak (db : Timesheets) (line : TimeLine) : Bool := !isUnpaidTime db line

/-- `_planned_breaks` with which are paid. -/
def plannedDayBreaks (company : Company) (day : ℤ) : Except Refusal (List DayBreak) :=
  match standardDay company day with
  | none => .ok []
  | some standard => do
      let breaks ← defaultBreaks company
      pure ((breaks.map fun each => (⟨each.window, each.paid⟩ : DayBreak)).filter fun each =>
        standard.start ≤ each.window.start && each.window.finish ≤ standard.finish)

/-- The order of the day's breaks: by start, then by finish. -/
def DayBreakLE (b c : DayBreak) : Prop := BreakLE b.window c.window

instance : DecidableRel DayBreakLE := fun b c => inferInstanceAs (Decidable (BreakLE b.window c.window))

/-- The day's breaks, paid and unpaid, in the order they happen. -/
def dayBreaks (db : Timesheets) (day : ℤ) (row : Option AttendanceDay) (breakLines : List TimeLine) :
    Except Refusal (List DayBreak) := do
  let taken := breakLines.filterMap fun line =>
    (lineWindow line).map fun window => (⟨window, isPaidBreak db line⟩ : DayBreak)
  let planned ← match row with
    | none => do
        let planned ← plannedDayBreaks db.company day
        pure (planned.filter fun each => !overlaps each.window (taken.map DayBreak.window))
    | some _ => pure []
  pure ((taken ++ planned).insertionSort DayBreakLE)

/-- The stretches of the paid breaks, or of the unpaid ones. -/
def windowsOf (paid : Bool) (breaks : List DayBreak) : List Window :=
  (breaks.filter fun each => each.paid = paid).map DayBreak.window

/-! ## The figures -/

/-- How much of the day there is to account for, and how far the entries go. -/
structure FillData where
  toFillHours : ℚ
  breakHours : ℚ
  enteredHours : ℚ
  toGoHours : ℚ
deriving DecidableEq, Repr

/-- Hours between two clock times less unpaid breaks, to the nearest quarter hour. -/
def paidSpanHours (start finish : TimeOfDay) (unpaid : List Window) : ℚ :=
  let first := start.minutes
  let last := finish.minutes
  let minutes : ℤ := last - first - minutesInside first last unpaid
  let quarters := roundHalfAway 0 ((minutes : ℚ) / quarterHourMinutes)
  quarters * quarterHourMinutes / 60

/-- The day's fill figures over its span; none when it has none. -/
def fillFigures (db : Timesheets) (day : ℤ) (row : Option AttendanceDay) (entered : ℚ)
    (breakLines : List TimeLine) : Except Refusal (Option FillData) :=
  match daySpan db.company db.today day row with
  | none => .ok none
  | some span => do
      let breaks ← dayBreaks db day row breakLines
      let unpaid := windowsOf false breaks
      let onBreaks ← (windowsOf true breaks).mapM fun each => hoursFor each.start each.finish []
      let toFill := paidSpanHours span.start span.finish unpaid
      pure (some
        { toFillHours := toFill
          breakHours := onBreaks.sum
          enteredHours := entered
          toGoHours := toFill - onBreaks.sum - entered })

/-! ## One list of breaks -/

section Breaks

variable {db : Timesheets} {day : ℤ} {row : Option AttendanceDay} {breakLines : List TimeLine}

lemma plannedBreaks_eq_map (company : Company) (day : ℤ) :
    plannedBreaks company day =
      (plannedDayBreaks company day).map fun breaks => breaks.map DayBreak.window := by
  unfold plannedBreaks plannedDayBreaks
  rcases standardDay company day with _ | standard
  · rfl
  · rcases defaultBreaks company with e | breaks
    · rfl
    · simp only [ok_bind, pure, Except.pure, Except.map, List.filter_map, List.map_map]
      rfl

/-- **The stretches entries are placed around are those of the breaks.** -/
lemma breakWindows_eq_map (db : Timesheets) (day : ℤ) (row : Option AttendanceDay)
    (breakLines : List TimeLine) :
    breakWindows db.company day row breakLines =
      (dayBreaks db day row breakLines).map fun breaks => breaks.map DayBreak.window := by
  have hsort : ∀ breaks : List DayBreak, (breaks.map DayBreak.window).insertionSort BreakLE =
      (breaks.insertionSort DayBreakLE).map DayBreak.window := by
    intro breaks
    exact (List.map_insertionSort DayBreakLE BreakLE DayBreak.window breaks
      fun _ _ _ _ => Iff.rfl).symm
  have htaken : (breakLines.filterMap fun line =>
      (lineWindow line).map fun window => (⟨window, isPaidBreak db line⟩ : DayBreak)).map
        DayBreak.window = breakLines.filterMap lineWindow := by
    rw [List.map_filterMap]
    refine List.filterMap_congr fun line _ => ?_
    rcases lineWindow line with _ | w <;> rfl
  unfold breakWindows dayBreaks
  rcases row with _ | row
  · rw [plannedBreaks_eq_map]
    rcases plannedDayBreaks db.company day with e | planned
    · rfl
    · simp only [Except.map, ok_bind, pure, Except.pure, htaken]
      rw [← hsort, List.map_append, htaken, List.filter_map]
      rfl
  · simp only [ok_bind, pure, Except.pure, Except.map]
    rw [← hsort, List.map_append, htaken]
    rfl

lemma mem_windowsOf {paid : Bool} {breaks : List DayBreak} {w : Window} :
    w ∈ windowsOf paid breaks ↔ ∃ each ∈ breaks, each.paid = paid ∧ each.window = w := by
  simp [windowsOf, and_assoc]

lemma mem_windows_iff {breaks : List DayBreak} (w : Window) :
    w ∈ breaks.map DayBreak.window ↔ w ∈ windowsOf true breaks ++ windowsOf false breaks := by
  rw [List.mem_append, mem_windowsOf, mem_windowsOf, List.mem_map]
  constructor
  · rintro ⟨each, heach, hw⟩
    rcases hpaid : each.paid with _ | _
    · exact .inr ⟨each, heach, hpaid, hw⟩
    · exact .inl ⟨each, heach, hpaid, hw⟩
  · rintro (⟨each, heach, -, hw⟩ | ⟨each, heach, -, hw⟩) <;> exact ⟨each, heach, hw⟩

end Breaks

/-! ## Quarter hours -/

/-- The time is a quarter hour. -/
def OnQuarter (t : TimeOfDay) : Prop := quarterHourMinutes ∣ t.minutes

instance : DecidablePred OnQuarter := fun _ => inferInstanceAs (Decidable (_ ∣ _))

/-- A minute that rounding takes nothing before the last quarter hour from. -/
def OnGrid (m : ℕ) : Prop := quarterHourMinutes ∣ m ∨ lastQuarterMinute ≤ m

def GridWindows (windows : List Window) : Prop :=
  ∀ w ∈ windows, OnGrid w.start.minutes ∧ OnGrid w.finish.minutes

section Grid

variable {m v : ℕ} {occupied : List Window}

lemma OnQuarter.le_last {t : TimeOfDay} (h : OnQuarter t) : t.minutes ≤ lastQuarterMinute := by
  have hday := t.minutes_lt
  unfold OnQuarter quarterHourMinutes at h
  unfold lastQuarterMinute quarterHourMinutes
  omega

lemma quarterOf_of_dvd (h : quarterHourMinutes ∣ m) : quarterOf m = min m lastQuarterMinute := by
  obtain ⟨k, rfl⟩ := h
  unfold quarterOf quarterHourMinutes
  congr 1
  omega

lemma quarterOf_of_late (h : lastQuarterMinute ≤ m) : quarterOf m = lastQuarterMinute := by
  refine le_antisymm (min_le_right _ _) ?_
  have hlast : quarterOf lastQuarterMinute = lastQuarterMinute := by decide
  exact hlast ▸ quarterOf_mono h

lemma quarterOf_onQuarter {t : TimeOfDay} (h : OnQuarter t) : quarterOf t.minutes = t.minutes := by
  rw [quarterOf_of_dvd h, min_eq_left h.le_last]

lemma not_lostAfter (h : OnGrid v) : ¬LostAfter quarterOf v m := by
  rintro ⟨hle, hlt⟩
  rcases h with h | h
  · rw [quarterOf_of_dvd h] at hlt
    omega
  · rw [quarterOf_of_late h] at hlt
    omega

lemma not_lostBefore (h : OnGrid v) (hm : m < lastQuarterMinute) : ¬LostBefore quarterOf v m := by
  rintro ⟨hle, hlt⟩
  rcases h with h | h
  · rw [quarterOf_of_dvd h] at hle
    omega
  · rw [quarterOf_of_late h] at hle
    omega

lemma not_lostToRounding {span : Window} (hstart : OnQuarter span.start)
    (hfinish : OnQuarter span.finish) (hoccupied : GridWindows occupied)
    (hm : m < span.finish.minutes) : ¬LostToRounding span occupied m := by
  have hbefore : m < lastQuarterMinute := hm.trans_le hfinish.le_last
  rintro ((h | h) | ⟨w, hw, h⟩ | ⟨w, hw, h⟩)
  · exact not_lostAfter (.inl hstart) h
  · exact not_lostBefore (.inl hfinish) hbefore h
  · exact not_lostAfter (hoccupied w hw).2 h
  · exact not_lostBefore (hoccupied w hw).1 hbefore h

lemma grid_finishMinutes {taken : List (ℕ × ℕ)}
    (htaken : ∀ t ∈ taken, OnGrid t.1 ∧ OnGrid t.2 ∧ t.1 ≤ t.2) {cursor remaining : ℤ}
    (hremaining : 0 ≤ remaining)
    (h : (15 ∣ cursor ∧ 15 ∣ remaining) ∨ 1425 ≤ cursor) :
    15 ∣ finishMinutes cursor remaining taken ∨ 1425 ≤ finishMinutes cursor remaining taken := by
  induction taken generalizing cursor remaining with
  | nil =>
      unfold finishMinutes
      omega
  | cons t rest ih =>
      have hrest : ∀ u ∈ rest, OnGrid u.1 ∧ OnGrid u.2 ∧ u.1 ≤ u.2 :=
        fun u hu => htaken u (List.mem_cons_of_mem _ hu)
      obtain ⟨hstart, hend, hle⟩ := htaken t List.mem_cons_self
      unfold OnGrid lastQuarterMinute quarterHourMinutes at hstart hend
      unfold finishMinutes
      split
      · exact ih hrest hremaining h
      split
      · exact ih hrest hremaining (by omega)
      split
      · omega
      · exact ih hrest (by omega) (by omega)

lemma grid_merged (hgrid : GridWindows occupied) (hoccupied : WellFormed occupied) :
    ∀ t ∈ mergedMinutes occupied, OnGrid t.1 ∧ OnGrid t.2 ∧ t.1 ≤ t.2 := by
  intro t ht
  obtain ⟨⟨w, hw, hstart⟩, v, hv, hend⟩ := bounds_merged ht
  exact ⟨hstart ▸ (hgrid w hw).1, hend ▸ (hgrid v hv).2, ordered_join hoccupied.ordered t ht⟩

end Grid

/-! ## Laying entries out -/

section LayOut

variable {occupied : List Window} {first last : ℕ}

lemma endsAt_of_eq (hoccupied : WellFormed occupied) {cursor n finish : ℕ}
    (h : finishMinutes cursor n (mergedMinutes occupied) = finish) :
    EndsAt (mergedMinutes occupied) cursor n finish := by
  obtain ⟨finish', hfinish', hends⟩ := endsAt_finishMinutes (separated_join hoccupied.ordered)
    (ordered_join hoccupied.ordered) cursor n
  obtain rfl : finish = finish' := by exact_mod_cast h.symm.trans hfinish'
  exact hends

/-- The piece `n` minutes of work are laid out on from `cursor`. -/
structure LaysOut (occupied : List Window) (cursor : TimeOfDay) (n : ℕ) (piece : Window) : Prop where
  begins : finishMinutes cursor.minutes 0 (mergedMinutes occupied) = piece.start.minutes
  ends : ∃ finish : ℕ, finishMinutes piece.start.minutes n (mergedMinutes occupied) = finish ∧
    piece.finish.minutes = min finish (24 * 60 - 1)

lemma layOut_cons (cursor : TimeOfDay) (hoccupied : WellFormed occupied) {line : TimeLine} {n : ℕ}
    (hn : line.quantity * 60 = n) (rest : List TimeLine) :
    ∃ piece, LaysOut occupied cursor n piece ∧
      layOut cursor occupied (line :: rest) = layOut piece.finish (occupied ++ [piece]) rest := by
  obtain ⟨begins, hbegins, -, hminutes, -⟩ := startAfterBreaks_eq_ok cursor occupied
  have hquantity : 0 ≤ line.quantity := by
    have hcast : (0 : ℚ) ≤ line.quantity * 60 := hn ▸ Nat.cast_nonneg n
    linarith
  have hwhole : wholeMinutes line.quantity = n := wholeMinutes_eq hquantity (by rw [hn]; norm_num)
  obtain ⟨finish, hfinish, -⟩ := endsAt_finishMinutes (separated_join hoccupied.ordered)
    (ordered_join hoccupied.ordered) begins.minutes n
  have hends : finishInTheDay begins line.quantity occupied =
      .ok (if h : finish < 24 * 60 then some (.ofMinutes finish h) else none) := by
    unfold finishInTheDay mergedMinutes
    simp only [hwhole, hfinish]
    split
    · rw [dif_neg (by omega)]
    · have hlt : finish < 24 * 60 := by omega
      rw [dif_pos hlt, timeOf_of_lt hlt]
      rfl
  refine ⟨⟨begins, (if h : finish < 24 * 60 then some (TimeOfDay.ofMinutes finish h)
    else none).getD lastMinute⟩, ⟨hminutes.symm, finish, hfinish, ?_⟩, ?_⟩
  · split
    · show finish = min finish (24 * 60 - 1)
      omega
    · show 24 * 60 - 1 = min finish (24 * 60 - 1)
      omega
  · rw [layOut, hbegins, ok_bind, hends]
    rfl

lemma LaysOut.wellFormed {cursor : TimeOfDay} {n : ℕ} {piece : Window}
    (h : LaysOut occupied cursor n piece) (hoccupied : WellFormed occupied) :
    WellFormed (occupied ++ [piece]) := by
  obtain ⟨finish, hfinish, hends⟩ := h.ends
  have hafter := (endsAt_of_eq hoccupied hfinish).after
  have hday := piece.start.minutes_lt
  refine hoccupied.append fun w hw => ?_
  obtain rfl := List.mem_singleton.mp hw
  omega

/-- **What is laid out stays on the grid.** -/
lemma grid_layOut {lines : List TimeLine} {cursor : TimeOfDay} {laid : List Window}
    (hoccupied : WellFormed occupied) (hgrid : GridWindows occupied)
    (hcursor : OnGrid cursor.minutes) (hlines : ∀ line ∈ lines, ∃ n : ℕ, line.quantity * 4 = n)
    (h : layOut cursor occupied lines = .ok laid) : GridWindows laid := by
  induction lines generalizing cursor occupied with
  | nil =>
      obtain rfl := Except.ok.inj h
      exact hgrid
  | cons line rest ih =>
      obtain ⟨k, hk⟩ := hlines line List.mem_cons_self
      have hminutes : line.quantity * 60 = ((15 * k : ℕ) : ℚ) := by
        push_cast
        linarith
      obtain ⟨piece, hpiece, hlaid⟩ := layOut_cons cursor hoccupied hminutes rest
      rw [hlaid] at h
      obtain ⟨finish, hfinish, hends⟩ := hpiece.ends
      have htaken := grid_merged hgrid hoccupied
      have hbegins : OnGrid piece.start.minutes := by
        have hstart : 15 ∣ finishMinutes cursor.minutes 0 (mergedMinutes occupied) ∨
            1425 ≤ finishMinutes cursor.minutes 0 (mergedMinutes occupied) :=
          grid_finishMinutes htaken le_rfl
            (by unfold OnGrid lastQuarterMinute quarterHourMinutes at hcursor; omega)
        rw [hpiece.begins] at hstart
        unfold OnGrid lastQuarterMinute quarterHourMinutes
        omega
      have hend : OnGrid piece.finish.minutes := by
        have hstop : 15 ∣ finishMinutes piece.start.minutes (15 * k : ℕ) (mergedMinutes occupied) ∨
            1425 ≤ finishMinutes piece.start.minutes (15 * k : ℕ) (mergedMinutes occupied) :=
          grid_finishMinutes htaken (by positivity)
            (by unfold OnGrid lastQuarterMinute quarterHourMinutes at hbegins; omega)
        rw [hfinish] at hstop
        unfold OnGrid lastQuarterMinute quarterHourMinutes
        omega
      refine ih (hpiece.wellFormed hoccupied) (fun w hw => ?_) hend
        (fun l hl => hlines l (List.mem_cons_of_mem _ hl)) h
      rcases List.mem_append.mp hw with hw | hw
      · exact hgrid w hw
      · obtain rfl := List.mem_singleton.mp hw
        exact ⟨hbegins, hend⟩

end LayOut

/-! ## Minutes taken -/

section Taken

variable {occupied : List Window} {first last : ℕ} {w : Window}

lemma workedMinutes_cons (hfirst : first ≤ w.start.minutes)
    (hw : w.start.minutes ≤ w.finish.minutes) (hlast : w.finish.minutes ≤ last) :
    workedMinutes (w :: occupied) first last +
      workedMinutes occupied w.start.minutes w.finish.minutes = workedMinutes occupied first last :=
  freeCount_cons hfirst hw hlast

/-- Neither window reaches into the other. -/
def Beside (w v : Window) : Prop :=
  w.finish.minutes ≤ v.start.minutes ∨ v.finish.minutes ≤ w.start.minutes

instance : DecidableRel Beside := fun _ _ => inferInstanceAs (Decidable (_ ∨ _))

lemma Beside.symm {v : Window} (h : Beside w v) : Beside v w := Or.symm h

lemma workedMinutes_append {windows : List Window} (hapart : windows.Pairwise Beside)
    (hin : ∀ w ∈ windows, first ≤ w.start.minutes ∧ w.start.minutes ≤ w.finish.minutes ∧
      w.finish.minutes ≤ last) :
    workedMinutes (windows ++ occupied) first last +
        (windows.map fun w => workedMinutes occupied w.start.minutes w.finish.minutes).sum =
      workedMinutes occupied first last := by
  induction windows with
  | nil => rfl
  | cons w rest ih =>
      obtain ⟨hw, hrest⟩ := List.pairwise_cons.mp hapart
      obtain ⟨hfirst, hle, hlast⟩ := hin w List.mem_cons_self
      have hown : workedMinutes (rest ++ occupied) w.start.minutes w.finish.minutes =
          workedMinutes occupied w.start.minutes w.finish.minutes := by
        refine freeCount_congr fun m hge hlt => ?_
        rw [List.map_append, covers_append, or_iff_right]
        rintro ⟨t, ht, hstart, hend⟩
        obtain ⟨v, hv, rfl⟩ := List.mem_map.mp ht
        have hbeside := hw v hv
        unfold Beside Window.minutes at *
        omega
      have hcons : workedMinutes (w :: (rest ++ occupied)) first last + _ = _ :=
        workedMinutes_cons hfirst hle hlast
      have hih := ih hrest fun v hv => hin v (List.mem_cons_of_mem _ hv)
      rw [hown] at hcons
      rw [List.cons_append, List.map_cons, List.sum_cons]
      omega

lemma workedMinutes_of_beside (h : ∀ v ∈ occupied, Beside w v) :
    workedMinutes occupied w.start.minutes w.finish.minutes = w.finish.minutes - w.start.minutes := by
  refine freeCount_of_free fun m hge hlt => ?_
  rintro ⟨t, ht, hstart, hend⟩
  obtain ⟨v, hv, rfl⟩ := List.mem_map.mp ht
  have hbeside := h v hv
  unfold Beside Window.minutes at *
  omega

/-- **A piece laid out takes its own minutes**: where all is taken before the cursor and the minutes
fit, the piece ends in the span, and all is taken before its end. -/
lemma LaysOut.takes {cursor : TimeOfDay} {n : ℕ} {piece : Window}
    (h : LaysOut occupied cursor n piece) (hoccupied : WellFormed occupied)
    (hday : last < 24 * 60) (hfirst : first ≤ cursor.minutes)
    (hbefore : workedMinutes occupied first cursor.minutes = 0)
    (hfits : n ≤ workedMinutes occupied first last) :
    first ≤ piece.finish.minutes ∧
      workedMinutes (occupied ++ [piece]) first last + n = workedMinutes occupied first last ∧
      workedMinutes (occupied ++ [piece]) first piece.finish.minutes = 0 := by
  have hswap : ∀ a b, workedMinutes (occupied ++ [piece]) a b =
      workedMinutes (piece :: occupied) a b := fun a b =>
    workedMinutes_congr fun v => by simp [or_comm]
  obtain ⟨finish, hfinish, hends⟩ := h.ends
  have hbegin := endsAt_of_eq (n := 0) hoccupied h.begins
  have hend := endsAt_of_eq hoccupied hfinish
  have hge := hbegin.after
  have hgo := hend.after
  have hstartDay := piece.start.minutes_lt
  have hmerged : ∀ a b, workedMinutes occupied a b = freeCount (mergedMinutes occupied) a b :=
    fun _ _ => workedMinutes_eq_merged
  simp only [hswap, hmerged] at hbefore hfits ⊢
  have hnone : freeCount (mergedMinutes occupied) first piece.start.minutes = 0 := by
    rw [freeCount_append hfirst hge, hbefore, hbegin.count]
  have hcount : freeCount (mergedMinutes occupied) first finish = n := by
    rw [freeCount_append (hfirst.trans hge) hgo, hnone, hend.count, Nat.zero_add]
  rcases Nat.eq_zero_or_pos n with rfl | hpos
  · -- no minute: the piece is empty, at the first minute free
    have heq : piece.start.minutes = finish := by
      by_contra hne
      have hone := freeCount_mono (l := mergedMinutes occupied) (a := piece.start.minutes)
        (show piece.start.minutes + 1 ≤ finish by omega)
      rw [hend.count, freeCount_succ le_rfl (hbegin.past rfl)] at hone
      omega
    have hempty : piece.finish.minutes = piece.start.minutes := by omega
    have hsame : ∀ a b, workedMinutes (piece :: occupied) a b =
        freeCount (mergedMinutes occupied) a b := by
      intro a b
      rw [← workedMinutes_eq_merged]
      refine freeCount_congr fun m _ _ => ?_
      rw [List.map_cons, covers_cons, or_iff_right]
      rintro ⟨hstart, hstop⟩
      unfold Window.minutes at *
      omega
    rw [hsame, hsame, hempty]
    exact ⟨hfirst.trans hge, rfl, hnone⟩
  · obtain ⟨m, rfl, hm, hfree⟩ := hend.last hpos
    -- the last minute of the piece is worked, so it is before the span's end
    have hin : m + 1 ≤ last := by
      by_contra hlate
      have hmono := freeCount_mono (l := mergedMinutes occupied) (a := first)
        (show last ≤ m by omega)
      rw [freeCount_succ (by omega) hfree] at hcount
      omega
    have hfinishes : piece.finish.minutes = m + 1 := by omega
    have hown : workedMinutes occupied piece.start.minutes piece.finish.minutes = n := by
      rw [workedMinutes_eq_merged, hfinishes, hend.count]
    have htotal : workedMinutes (piece :: occupied) first last + _ = workedMinutes occupied _ _ :=
      workedMinutes_cons (hfirst.trans hge) (by omega) (by omega)
    have hupto : workedMinutes (piece :: occupied) first piece.finish.minutes + _ =
        workedMinutes occupied _ _ := workedMinutes_cons (hfirst.trans hge) (by omega) le_rfl
    rw [hown, hmerged] at htotal hupto
    rw [hfinishes, hcount] at hupto
    refine ⟨by omega, htotal, ?_⟩
    rw [hfinishes]
    omega

/-- **Entries laid out in the span take just their hours** of what is free: an induction on the
entries, all of the span taken before the cursor. -/
lemma workedMinutes_layOut {lines : List TimeLine} {cursor : TimeOfDay} {laid : List Window}
    (hoccupied : WellFormed occupied) (hday : last < 24 * 60) (hfirst : first ≤ cursor.minutes)
    (hbefore : workedMinutes occupied first cursor.minutes = 0)
    (hlines : ∀ line ∈ lines, ∃ n : ℕ, line.quantity * 60 = n)
    (hfits : (lines.map TimeLine.quantity).sum * 60 ≤ workedMinutes occupied first last)
    (h : layOut cursor occupied lines = .ok laid) :
    (workedMinutes laid first last : ℚ) + (lines.map TimeLine.quantity).sum * 60 =
      workedMinutes occupied first last := by
  induction lines generalizing cursor occupied with
  | nil =>
      obtain rfl := Except.ok.inj h
      simp
  | cons line rest ih =>
      obtain ⟨n, hn⟩ := hlines line List.mem_cons_self
      have hrest : ∀ l ∈ rest, ∃ n : ℕ, l.quantity * 60 = n :=
        fun l hl => hlines l (List.mem_cons_of_mem _ hl)
      have hnonneg : 0 ≤ (rest.map TimeLine.quantity).sum := by
        refine List.sum_nonneg fun q hq => ?_
        obtain ⟨l, hl, rfl⟩ := List.mem_map.mp hq
        obtain ⟨k, hk⟩ := hrest l hl
        have hcast : (0 : ℚ) ≤ l.quantity * 60 := hk ▸ Nat.cast_nonneg k
        linarith
      rw [List.map_cons, List.sum_cons, add_mul, hn] at hfits ⊢
      have hfitsHere : n ≤ workedMinutes occupied first last := by
        have hcast : (n : ℚ) ≤ workedMinutes occupied first last := by linarith
        exact_mod_cast hcast
      obtain ⟨piece, hpiece, hlaid⟩ := layOut_cons cursor hoccupied hn rest
      obtain ⟨hafter, htakes, hbefore'⟩ := hpiece.takes hoccupied hday hfirst hbefore hfitsHere
      have htakesQ : (workedMinutes (occupied ++ [piece]) first last : ℚ) + n =
          workedMinutes occupied first last := by exact_mod_cast htakes
      have hstep := ih (hpiece.wellFormed hoccupied) hafter hbefore' hrest (by linarith)
        (hlaid ▸ h)
      linarith

end Taken

/-! ## The windows and the figures in minutes -/

def windowHours (windows : List Window) : ℚ :=
  (windows.map fun w => (w.finish.minutes : ℚ) - w.start.minutes).sum / 60

section Minutes

variable {span : Window} {occupied windows unpaid : List Window}

lemma minutes_le_of_le {s t : TimeOfDay} (h : s ≤ t) : s.minutes ≤ t.minutes := by
  by_contra hlt
  have hback : t.sinceMidnight < s.sinceMidnight := lt_of_minutes_lt (Nat.lt_of_not_le hlt)
  exact absurd (show s.sinceMidnight ≤ t.sinceMidnight from h) hback.not_ge

/-- **On quarter hours the windows hold every free minute of the span.** -/
lemma minutes_of_windows (hstart : OnQuarter span.start) (hfinish : OnQuarter span.finish)
    (hgrid : GridWindows occupied)
    (h : Allocates (LostToRounding span occupied) span occupied windows) :
    windowHours windows * 60 = workedMinutes occupied span.start.minutes span.finish.minutes := by
  have hfree : ∀ m, Free occupied m ↔ ¬Covers (occupied.map Window.minutes) m := fun m =>
    free_iff.trans (not_congr covers_join)
  have hcovers : ∀ m, span.start.minutes ≤ m → m < span.finish.minutes →
      (Covers (windows.map Window.minutes) m ↔ ¬Covers (occupied.map Window.minutes) m) := by
    intro m hge hlt
    rw [← hfree]
    constructor
    · rintro ⟨t, ht, hin⟩
      obtain ⟨w, hw, rfl⟩ := List.mem_map.mp ht
      exact h.free w hw m hin.1 hin.2
    · intro hm
      obtain ⟨w, hw, hin⟩ := h.covers m hge hlt hm (not_lostToRounding hstart hfinish hgrid hlt)
      exact ⟨w.minutes, List.mem_map_of_mem hw, hin⟩
  have hapart : Apart (windows.map Window.minutes) :=
    List.pairwise_map.mpr (h.apart.imp fun hle => minutes_le_of_le hle)
  have hinside : ∀ w ∈ windows, min span.finish.minutes w.finish.minutes -
      max span.start.minutes w.start.minutes = w.finish.minutes - w.start.minutes := by
    intro w hw
    have hbounds := h.inside w hw
    have hlow := minutes_le_of_le hbounds.1
    have hhigh := minutes_le_of_le hbounds.2
    rw [minutes_toQuarter, quarterOf_onQuarter hstart] at hlow
    rw [minutes_toQuarter, quarterOf_onQuarter hfinish] at hhigh
    rw [min_eq_right hhigh, max_eq_right hlow]
  have hsum : ((windows.map Window.minutes).map fun s =>
      min span.finish.minutes s.2 - max span.start.minutes s.1).sum =
        workedMinutes occupied span.start.minutes span.finish.minutes := by
    have hall := freeCount_add_covered (a := span.start.minutes) (b := span.finish.minutes) hapart
    have hcompl := freeCount_compl (l := occupied.map Window.minutes) hcovers
    unfold workedMinutes
    omega
  have hlength : (windows.map fun w => (w.finish.minutes : ℚ) - w.start.minutes).sum =
      (((windows.map Window.minutes).map fun s =>
        min span.finish.minutes s.2 - max span.start.minutes s.1).sum : ℕ) := by
    rw [List.map_map, Nat.cast_list_sum, List.map_map]
    refine congrArg List.sum (List.map_congr_left fun w hw => ?_)
    have hle : w.start.minutes ≤ w.finish.minutes :=
      minutes_le_of_le (show w.start.sinceMidnight ≤ w.finish.sinceMidnight from
        (show w.start.sinceMidnight < w.finish.sinceMidnight from h.nonempty w hw).le)
    show (w.finish.minutes : ℚ) - w.start.minutes =
      ((min span.finish.minutes w.finish.minutes - max span.start.minutes w.start.minutes : ℕ) : ℚ)
    rw [hinside w hw, Nat.cast_sub hle]
  unfold windowHours
  rw [div_mul_cancel₀ _ (by norm_num), hlength, hsum]

/-- **On quarter hours the hours to fill are the minutes on no unpaid break.** -/
lemma paidSpanHours_eq (hle : span.start.minutes ≤ span.finish.minutes)
    (hstart : OnQuarter span.start) (hfinish : OnQuarter span.finish) (hunpaid : WellFormed unpaid)
    (hquarter : ∀ w ∈ unpaid, OnQuarter w.start ∧ OnQuarter w.finish) :
    paidSpanHours span.start span.finish unpaid * 60 =
      workedMinutes unpaid span.start.minutes span.finish.minutes := by
  have hinside : quarterHourMinutes ∣
      minutesInside span.start.minutes span.finish.minutes unpaid := by
    refine List.dvd_sum fun n hn => ?_
    obtain ⟨t, ht, rfl⟩ := List.mem_map.mp hn
    obtain ⟨⟨w, hw, hfrom⟩, v, hv, hto⟩ := bounds_merged ht
    have hs : quarterHourMinutes ∣ t.1 := hfrom ▸ (hquarter w hw).1
    have hf : quarterHourMinutes ∣ t.2 := hto ▸ (hquarter v hv).2
    unfold OnQuarter quarterHourMinutes at *
    omega
  have hsum := workedMinutes_add_inside span.start.minutes span.finish.minutes hunpaid
  obtain ⟨k, hk⟩ : quarterHourMinutes ∣
      workedMinutes unpaid span.start.minutes span.finish.minutes := by
    unfold OnQuarter quarterHourMinutes at *
    omega
  have hminutes : ((span.finish.minutes : ℤ) - span.start.minutes -
      minutesInside span.start.minutes span.finish.minutes unpaid) = (quarterHourMinutes * k : ℕ) := by
    omega
  have hquarters : roundHalfAway 0 (((quarterHourMinutes * k : ℕ) : ℚ) / quarterHourMinutes) = k := by
    have hdiv : ((quarterHourMinutes * k : ℕ) : ℚ) / quarterHourMinutes = k := by
      unfold quarterHourMinutes
      push_cast
      exact mul_div_cancel_left₀ _ (by norm_num)
    rw [hdiv]
    exact roundHalfAway_of_isDecimal (isDecimal_iff.mpr ⟨k, by push_cast; ring⟩)
  unfold paidSpanHours
  simp only [hminutes, Int.cast_natCast, hquarters, hk]
  unfold quarterHourMinutes
  push_cast
  ring

lemma sum_hoursFor {breaks : List Window} {hours : List ℚ}
    (hquarter : ∀ w ∈ breaks, OnQuarter w.start ∧ OnQuarter w.finish)
    (h : (breaks.mapM fun each => hoursFor each.start each.finish []) = .ok hours) :
    hours.sum = windowHours breaks := by
  induction breaks generalizing hours with
  | nil =>
      obtain rfl : [] = hours := Except.ok.inj h
      simp [windowHours]
  | cons w rest ih =>
      rw [List.mapM_cons] at h
      obtain ⟨here, hhere, h⟩ := bind_eq_ok.mp h
      obtain ⟨others, hothers, h⟩ := bind_eq_ok.mp h
      obtain rfl := Except.ok.inj h
      have hlt := minutes_lt_of_hoursFor hhere
      obtain ⟨⟨i, hi⟩, j, hj⟩ := hquarter w List.mem_cons_self
      unfold hoursFor at hhere
      simp only [if_neg hlt.not_ge] at hhere
      have hnone : minutesInside w.start.minutes w.finish.minutes [] = 0 := rfl
      rw [hnone, Nat.cast_zero, sub_zero, roundHalfEven_of_isDecimal (isDecimal_iff.mpr
        ⟨25 * ((j : ℤ) - i), by rw [hi, hj]; unfold quarterHourMinutes; push_cast; ring⟩)] at hhere
      obtain rfl := Except.ok.inj hhere
      rw [List.sum_cons, ih (fun v hv => hquarter v (List.mem_cons_of_mem _ hv)) hothers]
      unfold windowHours
      rw [List.map_cons, List.sum_cons, add_div]

lemma mapM_hoursFor_eq_ok {breaks : List Window}
    (h : ∀ w ∈ breaks, w.start.minutes < w.finish.minutes) :
    ∃ hours, (breaks.mapM fun each => hoursFor each.start each.finish []) = .ok hours := by
  induction breaks with
  | nil => exact ⟨[], rfl⟩
  | cons w rest ih =>
      obtain ⟨hours, hhours⟩ := ih fun v hv => h v (List.mem_cons_of_mem _ hv)
      obtain ⟨here, hhere⟩ : ∃ here, hoursFor w.start w.finish [] = .ok here := by
        unfold hoursFor
        simp only [if_neg (h w List.mem_cons_self).not_ge]
        exact ⟨_, rfl⟩
      exact ⟨here :: hours, by rw [List.mapM_cons, hhere, hhours]; rfl⟩

end Minutes

/-! ## The figures beside the windows -/

/-- The span, the breaks and the entries of a day run forward. -/
structure RunsForward (db : Timesheets) (day : ℤ) (row : Option AttendanceDay)
    (entries breakLines : List TimeLine) : Prop where
  span : ∀ span ∈ daySpan db.company db.today day row, span.start.minutes ≤ span.finish.minutes
  entries : ∀ line ∈ entries, RightWayRound line
  breaks : ∀ line ∈ breakLines, RightWayRound line

/-- The span, the breaks and the entries of a day lie on quarter hours. -/
structure QuarterDay (db : Timesheets) (day : ℤ) (row : Option AttendanceDay)
    (entries breakLines : List TimeLine) : Prop where
  span : ∀ span ∈ daySpan db.company db.today day row,
    OnQuarter span.start ∧ OnQuarter span.finish
  breaks : ∀ breaks, dayBreaks db day row breakLines = .ok breaks →
    ∀ each ∈ breaks, OnQuarter each.window.start ∧ OnQuarter each.window.finish
  timed : ∀ line ∈ entries, ∀ w ∈ lineWindow line, OnQuarter w.start ∧ OnQuarter w.finish
  untimed : ∀ line ∈ entries, lineWindow line = none → ∃ n : ℕ, line.quantity * 4 = n

instance {occupied : List Window} : DecidablePred (Free occupied) := fun _ =>
  inferInstanceAs (Decidable (∀ _ ∈ _, _))

/-- The minutes of the span on an entry or a paid break, and on no unpaid break. -/
def takenMinutes (span : Window) (unpaid occupied : List Window) : ℕ :=
  ((Finset.Ico span.start.minutes span.finish.minutes).filter fun m =>
    Free unpaid m ∧ ¬Free occupied m).card

/-- A day whose breaks and entries take just their hours of its span. -/
structure Tidy (row : Option AttendanceDay) (span : Window) (breaks : List DayBreak)
    (entries : List TimeLine) : Prop where
  /-- No leave on a clocked day. -/
  no_leave : workedEntries row entries = entries
  /-- A paid break is in the span, and on no other break. -/
  paid_inside : ∀ w ∈ windowsOf true breaks,
    span.start.minutes ≤ w.start.minutes ∧ w.finish.minutes ≤ span.finish.minutes
  paid_apart : breaks.Pairwise fun b c => b.paid ∨ c.paid → Beside b.window c.window
  /-- An entry with times is in the span, on no other, and its hours are its minutes off breaks. -/
  timed_inside : ∀ w ∈ entries.filterMap lineWindow,
    span.start.minutes ≤ w.start.minutes ∧ w.finish.minutes ≤ span.finish.minutes
  timed_apart : (entries.filterMap lineWindow).Pairwise Beside
  timed_hours : ∀ line ∈ entries, ∀ w ∈ lineWindow line, line.quantity * 60 =
    workedMinutes (breaks.map DayBreak.window) w.start.minutes w.finish.minutes
  /-- The entries without times fit in what is then free. -/
  untimed_fit : ((entries.filter fun line => lineWindow line = none).map TimeLine.quantity).sum * 60 ≤
    workedMinutes (breaks.map DayBreak.window ++ entries.filterMap lineWindow)
      span.start.minutes span.finish.minutes

section Figures

variable {db : Timesheets} {day : ℤ} {row : Option AttendanceDay} {span : Window}
  {entries breakLines : List TimeLine} {breaks : List DayBreak} {unpaid occupied : List Window}

lemma takenMinutes_add (h : unpaid ⊆ occupied) :
    takenMinutes span unpaid occupied +
        workedMinutes occupied span.start.minutes span.finish.minutes =
      workedMinutes unpaid span.start.minutes span.finish.minutes := by
  have hcount : ∀ windows : List Window,
      workedMinutes windows span.start.minutes span.finish.minutes =
        ((Finset.Ico span.start.minutes span.finish.minutes).filter (Free windows)).card := by
    intro windows
    unfold workedMinutes freeCount
    congr 1
    refine Finset.filter_congr fun m _ => ?_
    rw [free_iff]
    unfold mergedMinutes
    rw [covers_join]
  have hfree : ∀ m, Free occupied m → Free unpaid m := fun m hm w hw => hm w (h hw)
  rw [hcount, hcount, ← Finset.card_filter_add_card_filter_not (s := Finset.filter (Free unpaid) _)
    (Free occupied), Finset.filter_filter, Finset.filter_filter, add_comm]
  unfold takenMinutes
  congr 2
  refine Finset.filter_congr fun m _ => ?_
  exact ⟨fun hm => ⟨hfree m hm, hm⟩, fun hm => hm.2⟩

lemma sum_quantity {windows : List Window}
    (h : ∀ line ∈ entries, ∀ w ∈ lineWindow line,
      line.quantity * 60 = workedMinutes windows w.start.minutes w.finish.minutes) :
    (entries.map TimeLine.quantity).sum * 60 =
      (((entries.filterMap lineWindow).map fun w =>
          workedMinutes windows w.start.minutes w.finish.minutes).sum : ℕ) +
        ((entries.filter fun line => lineWindow line = none).map TimeLine.quantity).sum * 60 := by
  induction entries with
  | nil => simp
  | cons line rest ih =>
      have hrest := ih fun l hl => h l (List.mem_cons_of_mem _ hl)
      rw [List.map_cons, List.sum_cons, add_mul, hrest]
      rcases hline : lineWindow line with _ | w
      · rw [List.filterMap_cons_none hline, List.filter_cons_of_pos (by simpa using hline),
          List.map_cons, List.sum_cons]
        ring
      · rw [List.filterMap_cons_some hline, List.filter_cons_of_neg (by simp [hline]),
          List.map_cons, List.sum_cons, h line List.mem_cons_self w hline]
        push_cast
        ring

lemma Tidy.paid (h : Tidy row span breaks entries)
    (hforward : WellFormed (breaks.map DayBreak.window)) :
    (workedMinutes (breaks.map DayBreak.window) span.start.minutes span.finish.minutes : ℚ) +
        windowHours (windowsOf true breaks) * 60 =
      workedMinutes (windowsOf false breaks) span.start.minutes span.finish.minutes := by
  have : Std.Symm fun b c : DayBreak => b.paid ∨ c.paid → Beside b.window c.window :=
    ⟨fun _ _ hbc hpaid => (hbc hpaid.symm).symm⟩
  have hright : ∀ w ∈ windowsOf true breaks, w.start.minutes ≤ w.finish.minutes := fun w hw =>
    hforward w ((mem_windows_iff w).mpr (List.mem_append_left _ hw))
  have hapart : (windowsOf true breaks).Pairwise Beside := by
    refine List.pairwise_map.mpr ((h.paid_apart.filter _).imp_of_mem fun hb _ hbc => ?_)
    exact hbc (.inl (by simpa using List.of_mem_filter hb))
  have hown : ∀ w ∈ windowsOf true breaks,
      workedMinutes (windowsOf false breaks) w.start.minutes w.finish.minutes =
        w.finish.minutes - w.start.minutes := by
    intro w hw
    obtain ⟨b, hb, hpaid, rfl⟩ := mem_windowsOf.mp hw
    refine workedMinutes_of_beside fun v hv => ?_
    obtain ⟨c, hc, hunpaid, rfl⟩ := mem_windowsOf.mp hv
    have hne : b ≠ c := by
      rintro rfl
      rw [hpaid] at hunpaid
      cases hunpaid
    exact h.paid_apart.forall hb hc hne (.inl hpaid)
  have htakes : workedMinutes (windowsOf true breaks ++ windowsOf false breaks) _ _ + _ = _ :=
    workedMinutes_append hapart fun w hw =>
      ⟨(h.paid_inside w hw).1, hright w hw, (h.paid_inside w hw).2⟩
  rw [List.map_congr_left hown, ← workedMinutes_congr mem_windows_iff] at htakes
  have hhours : windowHours (windowsOf true breaks) * 60 =
      (((windowsOf true breaks).map fun w => w.finish.minutes - w.start.minutes).sum : ℕ) := by
    unfold windowHours
    rw [div_mul_cancel₀ _ (by norm_num), Nat.cast_list_sum, List.map_map]
    exact congrArg List.sum (List.map_congr_left fun w hw => (Nat.cast_sub (hright w hw)).symm)
  rw [hhours]
  exact_mod_cast htakes

/-- **On a tidy day the time taken is what is entered**: the entries with times come off what the
breaks leave, and those without off what is then free. -/
lemma Tidy.entered (h : Tidy row span breaks entries)
    (hforward : WellFormed (breaks.map DayBreak.window ++ entries.filterMap lineWindow))
    (hquarters : ∀ line ∈ entries, lineWindow line = none → ∃ n : ℕ, line.quantity * 4 = n)
    (hlaid : layOut span.start (breaks.map DayBreak.window ++ entries.filterMap lineWindow)
      (entries.filter fun line => lineWindow line = none) = .ok occupied) :
    (workedMinutes occupied span.start.minutes span.finish.minutes : ℚ) +
        (entries.map TimeLine.quantity).sum * 60 =
      workedMinutes (breaks.map DayBreak.window) span.start.minutes span.finish.minutes := by
  have huntimed := workedMinutes_layOut hforward span.finish.minutes_lt le_rfl freeCount_self
    (fun line hline => by
      obtain ⟨n, hn⟩ := hquarters line (List.mem_of_mem_filter hline)
        (by simpa using List.of_mem_filter hline)
      exact ⟨15 * n, by push_cast; linarith⟩) h.untimed_fit hlaid
  have hright : ∀ w ∈ entries.filterMap lineWindow, w.start.minutes ≤ w.finish.minutes :=
    fun w hw => hforward w (List.mem_append_right _ hw)
  have htimed : workedMinutes (entries.filterMap lineWindow ++ breaks.map DayBreak.window) _ _ + _ =
      _ := workedMinutes_append h.timed_apart
    fun w hw => ⟨(h.timed_inside w hw).1, hright w hw, (h.timed_inside w hw).2⟩
  have hswap : workedMinutes (entries.filterMap lineWindow ++ breaks.map DayBreak.window)
      span.start.minutes span.finish.minutes =
        workedMinutes (breaks.map DayBreak.window ++ entries.filterMap lineWindow)
          span.start.minutes span.finish.minutes :=
    workedMinutes_congr fun w => by rw [List.mem_append, List.mem_append, or_comm]
  rw [hswap] at htimed
  have htimedQ : (workedMinutes (breaks.map DayBreak.window ++ entries.filterMap lineWindow)
        span.start.minutes span.finish.minutes : ℚ) +
      (((entries.filterMap lineWindow).map fun w => workedMinutes (breaks.map DayBreak.window)
        w.start.minutes w.finish.minutes).sum : ℕ) =
      workedMinutes (breaks.map DayBreak.window) span.start.minutes span.finish.minutes := by
    exact_mod_cast htimed
  rw [sum_quantity h.timed_hours]
  linarith

end Figures

/-! ## Every day -/

section Day

variable {db : Timesheets} {day : ℤ} {row : Option AttendanceDay} {span : Window}
  {entries breakLines : List TimeLine} {breaks : List DayBreak}

lemma fillFigures_eq_some {entered : ℚ} {figures : FillData} :
    fillFigures db day row entered breakLines = .ok (some figures) ↔
      ∃ span breaks onBreaks, daySpan db.company db.today day row = some span ∧
        dayBreaks db day row breakLines = .ok breaks ∧
        ((windowsOf true breaks).mapM fun each => hoursFor each.start each.finish []) =
          .ok onBreaks ∧
        figures =
          { toFillHours := paidSpanHours span.start span.finish (windowsOf false breaks)
            breakHours := onBreaks.sum
            enteredHours := entered
            toGoHours := paidSpanHours span.start span.finish (windowsOf false breaks) -
              onBreaks.sum - entered } := by
  unfold fillFigures
  rcases daySpan db.company db.today day row with _ | span
  · simp
  · simp only [bind_eq_ok, pure_eq_ok, Option.some.injEq, exists_and_left, exists_eq_left']
    constructor
    · rintro ⟨breaks, hbreaks, onBreaks, honBreaks, rfl⟩
      exact ⟨breaks, hbreaks, onBreaks, honBreaks, rfl⟩
    · rintro ⟨breaks, hbreaks, onBreaks, honBreaks, rfl⟩
      exact ⟨breaks, hbreaks, onBreaks, honBreaks, rfl⟩

/-- **The figure before a fill and the hours the fill makes**, on every day that runs forward and
lies on quarter hours.  Where there are figures there are windows; the hours to go fall short of the
windows by what is on paid breaks and entered over the time of the span these take; and on a tidy
day they are the hours of the windows.  Where there are windows there are figures, unless a paid
break lasts no minute. -/
theorem fillFigures_beside_windows (db : Timesheets) (day : ℤ) (row : Option AttendanceDay)
    (entries breakLines : List TimeLine)
    (hforward : RunsForward db day row entries breakLines)
    (hquarter : QuarterDay db day row entries breakLines) :
    (∀ figures,
      fillFigures db day row (entries.map TimeLine.quantity).sum breakLines = .ok (some figures) →
      ∃ span breaks occupied windows, daySpan db.company db.today day row = some span ∧
        dayBreaks db day row breakLines = .ok breaks ∧
        occupiedWindows db.company day row span.start entries breakLines = .ok occupied ∧
        unallocatedWindows db.company db.today day row entries breakLines = .ok (some windows) ∧
        figures.toGoHours + (figures.breakHours + figures.enteredHours) =
          windowHours windows + takenMinutes span (windowsOf false breaks) occupied / 60 ∧
        (Tidy row span breaks entries → figures.toGoHours = windowHours windows)) ∧
    ∀ windows,
      unallocatedWindows db.company db.today day row entries breakLines = .ok (some windows) →
      ∃ breaks, dayBreaks db day row breakLines = .ok breaks ∧
        ((∀ w ∈ windowsOf true breaks, w.start.minutes < w.finish.minutes) →
          ∃ figures, fillFigures db day row (entries.map TimeLine.quantity).sum breakLines =
            .ok (some figures)) := by
  refine ⟨fun figures hfigures => ?_, fun windows hwindows => ?_⟩
  · obtain ⟨span, breaks, onBreaks, hspan, hbreaks, honBreaks, rfl⟩ :=
      fillFigures_eq_some.mp hfigures
    have hbreakWindows : breakWindows db.company day row breakLines =
        .ok (breaks.map DayBreak.window) := by
      rw [breakWindows_eq_map, hbreaks]
      rfl
    obtain ⟨occupied, windows, hoccupied, hsub, -, hwindows, hallocates⟩ :=
      unallocatedWindows_eq_ok hforward.entries hforward.breaks hspan hbreakWindows
    have hbreaksForward : WellFormed (breaks.map DayBreak.window) :=
      wellFormed_breakWindows hforward.breaks hbreakWindows
    have hbreaksQuarter : ∀ w ∈ breaks.map DayBreak.window,
        OnQuarter w.start ∧ OnQuarter w.finish := by
      intro w hw
      obtain ⟨each, heach, rfl⟩ := List.mem_map.mp hw
      exact hquarter.breaks breaks hbreaks each heach
    have hkind : ∀ {paid : Bool} {w : Window}, w ∈ windowsOf paid breaks →
        w ∈ breaks.map DayBreak.window := by
      intro paid w hw
      obtain ⟨each, heach, -, rfl⟩ := mem_windowsOf.mp hw
      exact List.mem_map_of_mem heach
    obtain ⟨hstart, hfinish⟩ := hquarter.span span hspan
    -- the layout of the worked entries, and that it stays on the grid
    have hworked : ∀ line ∈ workedEntries row entries, line ∈ entries := by
      rcases row with _ | row
      · exact fun _ h => h
      · exact fun _ h => List.mem_of_mem_filter h
    have hlaid := hoccupied
    unfold occupiedWindows at hlaid
    rw [hbreakWindows, ok_bind] at hlaid
    have hforwardAll : WellFormed (breaks.map DayBreak.window ++
        (workedEntries row entries).filterMap lineWindow) :=
      hbreaksForward.append (wellFormed_lineWindows (rightWayRound_workedEntries hforward.entries))
    have hgrid : GridWindows occupied := by
      refine grid_layOut hforwardAll (fun w hw => ?_) (.inl hstart) (fun line hline => ?_) hlaid
      · rcases List.mem_append.mp hw with hw | hw
        · exact ⟨.inl (hbreaksQuarter w hw).1, .inl (hbreaksQuarter w hw).2⟩
        · obtain ⟨line, hline, hwindow⟩ := List.mem_filterMap.mp hw
          have htimed := hquarter.timed line (hworked line hline) w hwindow
          exact ⟨.inl htimed.1, .inl htimed.2⟩
      · exact hquarter.untimed line (hworked line (List.mem_of_mem_filter hline))
          (by simpa using List.of_mem_filter hline)
    have hwindowHours := minutes_of_windows hstart hfinish hgrid hallocates
    have htoFill : paidSpanHours span.start span.finish (windowsOf false breaks) * 60 = _ :=
      paidSpanHours_eq (hforward.span span hspan) hstart hfinish
        (fun w hw => hbreaksForward w (hkind hw)) fun w hw => hbreaksQuarter w (hkind hw)
    have honHours := sum_hoursFor (fun w hw => hbreaksQuarter w (hkind hw)) honBreaks
    have htaken : takenMinutes span (windowsOf false breaks) occupied + _ = _ :=
      takenMinutes_add fun w hw => hsub (hkind hw)
    have htakenQ : (takenMinutes span (windowsOf false breaks) occupied : ℚ) +
        workedMinutes occupied span.start.minutes span.finish.minutes =
          workedMinutes (windowsOf false breaks) span.start.minutes span.finish.minutes := by
      exact_mod_cast htaken
    refine ⟨span, breaks, occupied, windows, hspan, hbreaks, hoccupied, hwindows, ?_,
      fun htidy => ?_⟩
    · show _ - _ - _ + (_ + _) = _
      linarith
    · have hpaid := htidy.paid hbreaksForward
      rw [htidy.no_leave] at hlaid hforwardAll
      have hentered := htidy.entered hforwardAll hquarter.untimed hlaid
      show _ - _ - _ = _
      linarith
  · obtain ⟨span, windows', hspan, hbreakWindows⟩ := daySpan_of_unallocatedWindows hwindows
    rw [breakWindows_eq_map] at hbreakWindows
    rcases hbreaks : dayBreaks db day row breakLines with e | breaks
    · rw [hbreaks] at hbreakWindows
      cases hbreakWindows
    · refine ⟨breaks, rfl, fun hlast => ?_⟩
      obtain ⟨onBreaks, honBreaks⟩ := mapM_hoursFor_eq_ok hlast
      exact ⟨_, fillFigures_eq_some.mpr ⟨span, breaks, onBreaks, hspan, hbreaks, honBreaks, rfl⟩⟩

end Day

/-! ## Three days -/

/-- The pay item of time that is not hours. -/
def unpaidItem : PayItem where
  id := 7
  name := "Unpaid"
  usesLeaveApi := false
  connected := true
  multiplier := some 0

/-- A workshop with one pay item, for time that is not hours. -/
def unpaidShop : Timesheets where
  company := defaultCompany
  staff := .empty
  jobs := .empty
  leaveTypes := .empty
  payItems := ⟨[unpaidItem], by decide⟩
  labourSubtypes := []
  labourRates := .empty
  attendance := .empty
  lines := .empty
  fresh := 0
  today := 7
  now := clock 9 0 (by decide)
  clockChangeMinutes := fun _ _ _ => 0

/-- A line of the clocked day between two whole hours. -/
def hoursLine (job payItem : ℕ) (hours : ℚ) (times : Option (TimeOfDay × TimeOfDay)) : TimeLine :=
  { morningEntry with
    job := job
    payItem := some payItem
    quantity := hours
    payload := { morningEntry.payload with
      startTime := times.map Prod.fst
      endTime := times.map Prod.snd } }

/-- Lunch from noon, an hour. -/
def lunchLine : TimeLine :=
  hoursLine 1 7 1 (some (clock 12 0 noon, clock 13 0 (by decide)))

/-- Two hours from nine, and half an hour without times. -/
def tidyEntries : List TimeLine :=
  [hoursLine 3 1 2 (some (clock 9 0 (by decide), clock 11 0 (by decide))),
    hoursLine 3 1 (1 / 2) none]

/-- Four and a half hours to go, and windows of as many. -/
theorem fillFigures_beside_windows_a_tidy_day :
    ∃ figures windows,
      fillFigures unpaidShop 0 (some clockedDay) (tidyEntries.map TimeLine.quantity).sum
        [lunchLine] = .ok (some figures) ∧
      unallocatedWindows unpaidShop.company unpaidShop.today 0 (some clockedDay) tidyEntries
        [lunchLine] = .ok (some windows) ∧
      figures.toGoHours = windowHours windows := by
  have hspan : daySpan unpaidShop.company unpaidShop.today 0 (some clockedDay) =
      some ⟨clock 8 0 (by decide), clock 16 0 (by decide)⟩ := by decide +kernel
  have hbreaks : dayBreaks unpaidShop 0 (some clockedDay) [lunchLine] =
      .ok [⟨⟨clock 12 0 (by decide), clock 13 0 (by decide)⟩, false⟩] := by decide +kernel
  have hforward : RunsForward unpaidShop 0 (some clockedDay) tidyEntries [lunchLine] :=
    ⟨by rw [hspan]; decide, by decide +kernel, by decide +kernel⟩
  have hquarter : QuarterDay unpaidShop 0 (some clockedDay) tidyEntries [lunchLine] := by
    refine ⟨by rw [hspan]; decide, fun breaks h => ?_, by decide +kernel, fun line hline hnone => ?_⟩
    · obtain rfl := Except.ok.inj (hbreaks.symm.trans h)
      decide
    · obtain rfl : line = hoursLine 3 1 (1 / 2) none := by
        rcases List.mem_cons.mp hline with rfl | hline
        · cases hnone
        · exact List.mem_singleton.mp hline
      exact ⟨2, by decide +kernel⟩
  obtain ⟨span, breaks, occupied, windows, hspan', hbreaks', -, hwindows, -, h⟩ :=
    (fillFigures_beside_windows unpaidShop 0 (some clockedDay) tidyEntries [lunchLine]
      hforward hquarter).1 ⟨7, 0, 5 / 2, 9 / 2⟩ (by decide +kernel)
  obtain rfl := Option.some.inj (hspan.symm.trans hspan')
  obtain rfl := Except.ok.inj (hbreaks.symm.trans hbreaks')
  exact ⟨_, windows, by decide +kernel, hwindows, h ⟨by decide +kernel, by decide +kernel,
    by decide +kernel, by decide +kernel, by decide +kernel, by decide +kernel, by decide +kernel⟩⟩

/-- **The figure is not the windows of every day on quarter hours**: an hour entered after the span
leaves the windows and takes an hour off the figure, and a lunch stored backward leaves the figure
and makes the windows overlap. -/
theorem figures_miss_the_windows :
    (∃ entries figures windows,
      RunsForward unpaidShop 0 (some clockedDay) entries [] ∧
      QuarterDay unpaidShop 0 (some clockedDay) entries [] ∧
      fillFigures unpaidShop 0 (some clockedDay) (entries.map TimeLine.quantity).sum [] =
        .ok (some figures) ∧
      unallocatedWindows unpaidShop.company unpaidShop.today 0 (some clockedDay) entries [] =
        .ok (some windows) ∧
      figures.toGoHours ≠ windowHours windows) ∧
    ∃ lunch figures windows,
      QuarterDay unpaidShop 0 (some clockedDay) [] [lunch] ∧
      fillFigures unpaidShop 0 (some clockedDay) 0 [lunch] = .ok (some figures) ∧
      unallocatedWindows unpaidShop.company unpaidShop.today 0 (some clockedDay) [] [lunch] =
        .ok (some windows) ∧
      figures.toGoHours ≠ windowHours windows := by
  have hspan : daySpan unpaidShop.company unpaidShop.today 0 (some clockedDay) =
      some ⟨clock 8 0 (by decide), clock 16 0 (by decide)⟩ := by decide +kernel
  have hnoBreaks : dayBreaks unpaidShop 0 (some clockedDay) [] = .ok [] := by decide +kernel
  refine ⟨⟨[hoursLine 3 1 1 (some (clock 16 0 (by decide), clock 17 0 (by decide)))], ⟨8, 0, 1, 7⟩,
    [⟨clock 8 0 (by decide), clock 16 0 (by decide)⟩],
    ⟨by rw [hspan]; decide, by decide +kernel, by decide⟩,
    ⟨by rw [hspan]; decide, fun breaks h => ?_, by decide +kernel, fun line hline hnone => ?_⟩,
    by decide +kernel, by decide +kernel, by decide +kernel⟩,
    ⟨hoursLine 1 7 1 (some (clock 13 0 (by decide), clock 12 0 (by decide))), ⟨8, 0, 0, 8⟩,
      [⟨clock 8 0 (by decide), clock 13 0 (by decide)⟩,
        ⟨clock 12 0 (by decide), clock 16 0 (by decide)⟩],
      ⟨by rw [hspan]; decide, fun breaks h => ?_, by decide,
        fun _ hline => absurd hline List.not_mem_nil⟩,
      by decide +kernel, by decide +kernel, by decide +kernel⟩⟩
  · obtain rfl := Except.ok.inj (hnoBreaks.symm.trans h)
    decide
  · obtain rfl := List.mem_singleton.mp hline
    cases hnone
  · have hbreaks : dayBreaks unpaidShop 0 (some clockedDay)
        [hoursLine 1 7 1 (some (clock 13 0 (by decide), clock 12 0 (by decide)))] =
          .ok [⟨⟨clock 13 0 (by decide), clock 12 0 (by decide)⟩, false⟩] := by decide +kernel
    obtain rfl := Except.ok.inj (hbreaks.symm.trans h)
    decide

end Timesheet

end Docketworks
