import Docketworks.Core.Errors
import Docketworks.Library.Decimal
import Docketworks.Library.Stretches

/-!
# Times of a day

The clock arithmetic of `apps/timesheet/services/attendance.py`.  Times are stored to the
microsecond, and every rule but a comparison reads the minute alone.

* `TimeOfDay`, `Window` — a time of a day, a stretch of it.
* `toQuarter` — the rounding rule of an entry's start and stop.
* `mergedMinutes`, `minutesInside` — windows as minute stretches, joined.
* `finishInTheDay`, `startAfterBreaks` — where work ends that steps over the breaks.
* `hoursFor` — the hours between two times.

**Design.**  The second bound of a window is `finish`: `end` is a word of the language.  A number
of minutes becomes a time by `timeOf`, which refuses what no day holds as the source's constructor
does.
-/

namespace Docketworks

open Library

namespace Timesheet

/-! ## Times and windows -/

@[ext]
structure TimeOfDay where
  minutes : ℕ
  micros : ℕ
  minutes_lt : minutes < 24 * 60
  micros_lt : micros < 60 * 1000000
deriving DecidableEq, Repr

def TimeOfDay.sinceMidnight (t : TimeOfDay) : ℕ := t.minutes * (60 * 1000000) + t.micros

instance : LT TimeOfDay := ⟨fun s t => s.sinceMidnight < t.sinceMidnight⟩
instance : LE TimeOfDay := ⟨fun s t => s.sinceMidnight ≤ t.sinceMidnight⟩
instance : DecidableLT TimeOfDay := fun s t =>
  inferInstanceAs (Decidable (s.sinceMidnight < t.sinceMidnight))
instance : DecidableLE TimeOfDay := fun s t =>
  inferInstanceAs (Decidable (s.sinceMidnight ≤ t.sinceMidnight))

def TimeOfDay.ofMinutes (minutes : ℕ) (h : minutes < 24 * 60) : TimeOfDay :=
  ⟨minutes, 0, h, by decide⟩

/-- `time(minutes // 60, minutes % 60)`. -/
def timeOf (minutes : ℤ) : Except Refusal TimeOfDay :=
  if h : 0 ≤ minutes ∧ minutes.toNat < 24 * 60 then .ok (.ofMinutes minutes.toNat h.2)
  else .error (.value "hour must be in 0..23")

/-- A stretch of a day. -/
structure Window where
  start : TimeOfDay
  finish : TimeOfDay
deriving DecidableEq, Repr

def Window.minutes (w : Window) : ℕ × ℕ := (w.start.minutes, w.finish.minutes)

/-- Some window meets this one. -/
def overlaps (window : Window) (others : List Window) : Bool :=
  others.any fun other => window.start < other.finish && other.start < window.finish

/-! ## Rounding -/

def quarterHourMinutes : ℕ := 15

def lastQuarterMinute : ℕ := 24 * 60 - quarterHourMinutes

/-- The nearest quarter hour to a minute, halves up; the day has no 24:00. -/
def quarterOf (minutes : ℕ) : ℕ :=
  min ((2 * minutes + quarterHourMinutes) / (2 * quarterHourMinutes) * quarterHourMinutes)
    lastQuarterMinute

lemma quarterOf_lt (minutes : ℕ) : quarterOf minutes < 24 * 60 :=
  (min_le_right _ _).trans_lt (by decide)

/-- The nearest quarter hour: the one rounding rule for an entry's start or stop. -/
def toQuarter (moment : TimeOfDay) : TimeOfDay :=
  .ofMinutes (quarterOf moment.minutes) (quarterOf_lt _)

@[simp] lemma minutes_toQuarter (t : TimeOfDay) : (toQuarter t).minutes = quarterOf t.minutes := rfl

lemma quarterOf_mono : Monotone quarterOf := by
  intro m n h
  unfold quarterOf quarterHourMinutes
  exact min_le_min_right _ (Nat.mul_le_mul_right _ (Nat.div_le_div_right (by omega)))

/-- A number of hours as whole minutes, halves away from zero. -/
def wholeMinutes (hours : ℚ) : ℤ :=
  if 0 ≤ hours then ⌊hours * 60 + 1 / 2⌋ else ⌈hours * 60 - 1 / 2⌉

lemma wholeMinutes_nonneg {hours : ℚ} (h : 0 ≤ hours) : 0 ≤ wholeMinutes hours := by
  unfold wholeMinutes
  rw [if_pos h]
  exact Int.floor_nonneg.mpr (by positivity)

lemma wholeMinutes_eq {hours : ℚ} {minutes : ℕ} (h0 : 0 ≤ hours)
    (h : |hours * 60 - minutes| ≤ 3 / 10) : wholeMinutes hours = minutes := by
  unfold wholeMinutes
  rw [if_pos h0, Int.floor_eq_iff]
  rw [abs_le] at h
  push_cast
  constructor <;> linarith

/-! ## Windows as stretches -/

/-- Windows as minute stretches in order, with overlapping or touching ones joined. -/
def mergedMinutes (windows : List Window) : List (ℕ × ℕ) :=
  join (windows.map Window.minutes)

/-- How many minutes of the breaks fall between two minutes of the day. -/
def minutesInside (first last : ℕ) (breaks : List Window) : ℕ :=
  ((mergedMinutes breaks).map fun taken => min last taken.2 - max first taken.1).sum

def breakMinutesIn (span : Window) (breaks : List Window) : ℕ :=
  minutesInside span.start.minutes span.finish.minutes breaks

/-! ## Stepping over breaks -/

/-- The minute work ends that starts at `cursor` and steps over the breaks. -/
def finishMinutes (cursor remaining : ℤ) : List (ℕ × ℕ) → ℤ
  | [] => cursor + remaining
  | (breakStart, breakEnd) :: rest =>
      if (breakEnd : ℤ) ≤ cursor then finishMinutes cursor remaining rest
      else if (breakStart : ℤ) ≤ cursor then finishMinutes breakEnd remaining rest
      else if cursor + remaining ≤ breakStart then cursor + remaining
      else finishMinutes breakEnd (remaining - (breakStart - cursor)) rest

/-- When work of `hours` begun at `start` ends, stepping over every break; none where it would run
past midnight. -/
def finishInTheDay (start : TimeOfDay) (hours : ℚ) (breaks : List Window) :
    Except Refusal (Option TimeOfDay) :=
  let finish := finishMinutes start.minutes (wholeMinutes hours) (mergedMinutes breaks)
  if 24 * 60 - 1 < finish then .ok none else (timeOf finish).map some

/-- `start`, or the end of the break it falls inside. -/
def startAfterBreaks (start : TimeOfDay) (breaks : List Window) : Except Refusal TimeOfDay := do
  match ← finishInTheDay start 0 breaks with
  | some stepped => .ok stepped
  | none => .error (.value "Stepping past the breaks from %(start)s left the day.")

/-- The hours worked between two times: the span less the breaks inside it. -/
def hoursFor (start finish : TimeOfDay) (breaks : List Window) : Except Refusal ℚ :=
  let first := start.minutes
  let last := finish.minutes
  if last ≤ first then .error (.invalidInput "The finish has to be after the start.")
  else .ok (roundHalfEven 2 (((last : ℚ) - first - minutesInside first last breaks) / 60))

/-! ## Times in order -/

lemma lt_of_minutes_lt {s t : TimeOfDay} (h : s.minutes < t.minutes) : s < t := by
  have hmicros := s.micros_lt
  change s.minutes * (60 * 1000000) + s.micros < t.minutes * (60 * 1000000) + t.micros
  omega

lemma minutes_lt_of_hoursFor {start finish : TimeOfDay} {hours : ℚ} {breaks : List Window}
    (h : hoursFor start finish breaks = .ok hours) : start.minutes < finish.minutes := by
  unfold hoursFor at h
  simp only at h
  split at h
  · cases h
  · rename_i hlt
    exact lt_of_not_ge hlt

lemma lt_of_hoursFor {start finish : TimeOfDay} {hours : ℚ} {breaks : List Window}
    (h : hoursFor start finish breaks = .ok hours) : start < finish :=
  lt_of_minutes_lt (minutes_lt_of_hoursFor h)

/-! ## What stepping over breaks does -/

section Stepping

variable {breaks : List Window}

/-- No window of the list ends before it starts. -/
def WellFormed (windows : List Window) : Prop :=
  ∀ w ∈ windows, w.start.minutes ≤ w.finish.minutes

instance (windows : List Window) : Decidable (WellFormed windows) :=
  inferInstanceAs (Decidable (∀ _ ∈ _, _))

lemma WellFormed.ordered (h : WellFormed breaks) : Ordered (breaks.map Window.minutes) := by
  intro s hs
  obtain ⟨w, hw, rfl⟩ := List.mem_map.mp hs
  exact h w hw

lemma lt_day_of_mem_merged {s : ℕ × ℕ} (h : s ∈ mergedMinutes breaks) :
    s.1 < 24 * 60 ∧ s.2 < 24 * 60 := by
  obtain ⟨⟨t, ht, hstart⟩, u, hu, hend⟩ := bounds_join h
  obtain ⟨v, -, rfl⟩ := List.mem_map.mp ht
  obtain ⟨w, -, rfl⟩ := List.mem_map.mp hu
  rw [← hstart, ← hend]
  exact ⟨v.start.minutes_lt, w.finish.minutes_lt⟩

lemma timeOf_eq_ok {m : ℤ} {t : TimeOfDay} (h : timeOf m = .ok t) : (t.minutes : ℤ) = m := by
  unfold timeOf at h
  split at h
  · rename_i hm
    obtain rfl := Except.ok.inj h
    exact Int.toNat_of_nonneg hm.1
  · cases h

lemma timeOf_of_lt {m : ℕ} (h : m < 24 * 60) : timeOf m = .ok (.ofMinutes m h) := by
  unfold timeOf
  rw [dif_pos ⟨Int.natCast_nonneg m, by simpa using h⟩]
  rfl

lemma le_finishMinutes {taken : List (ℕ × ℕ)} {cursor remaining : ℤ} (h : 0 ≤ remaining) :
    cursor ≤ finishMinutes cursor remaining taken := by
  induction taken generalizing cursor remaining with
  | nil => exact le_add_of_nonneg_right h
  | cons t rest ih =>
      unfold finishMinutes
      split
      · exact ih h
      split
      · rename_i hpast hin
        exact le_trans (lt_of_not_ge hpast).le (ih h)
      split
      · exact le_add_of_nonneg_right h
      · rename_i hpast hout hover
        have hrest : 0 ≤ remaining - (t.1 - cursor) := by omega
        exact le_trans (lt_of_not_ge hpast).le (ih hrest)

lemma finishMinutes_zero_lt {taken : List (ℕ × ℕ)} {cursor : ℤ} (hcursor : cursor < 24 * 60)
    (h : ∀ t ∈ taken, t.2 < 24 * 60) : finishMinutes cursor 0 taken < 24 * 60 := by
  induction taken generalizing cursor with
  | nil => simpa [finishMinutes] using hcursor
  | cons t rest ih =>
      have hrest : ∀ u ∈ rest, u.2 < 24 * 60 := fun u hu => h u (List.mem_cons_of_mem _ hu)
      have ht : (t.2 : ℤ) < 24 * 60 := by exact_mod_cast h t List.mem_cons_self
      unfold finishMinutes
      split
      · exact ih hcursor hrest
      split
      · exact ih ht hrest
      split
      · simpa using hcursor
      · rename_i hpast hout hover
        omega

lemma finishMinutes_clear {taken : List (ℕ × ℕ)} {cursor remaining : ℤ}
    (h : ∀ t ∈ taken, (t.2 : ℤ) ≤ cursor ∨ (cursor < t.1 ∧ cursor + remaining ≤ t.1)) :
    finishMinutes cursor remaining taken = cursor + remaining := by
  induction taken with
  | nil => rfl
  | cons t rest ih =>
      unfold finishMinutes
      rcases h t List.mem_cons_self with hpast | ⟨hahead, hfits⟩
      · rw [if_pos hpast]
        exact ih fun u hu => h u (List.mem_cons_of_mem _ hu)
      · split
        · exact ih fun u hu => h u (List.mem_cons_of_mem _ hu)
        split
        · omega
        · rfl

lemma startAfterBreaks_eq_ok (start : TimeOfDay) (breaks : List Window) :
    ∃ t, startAfterBreaks start breaks = .ok t ∧ t.micros = 0 ∧
      (t.minutes : ℤ) = finishMinutes start.minutes 0 (mergedMinutes breaks) ∧
        start.minutes ≤ t.minutes := by
  have hzero : wholeMinutes 0 = 0 := by decide +kernel
  have hle : (start.minutes : ℤ) ≤ finishMinutes start.minutes 0 (mergedMinutes breaks) :=
    le_finishMinutes le_rfl
  have hlt : finishMinutes start.minutes 0 (mergedMinutes breaks) < 24 * 60 :=
    finishMinutes_zero_lt (by exact_mod_cast start.minutes_lt) fun t ht => (lt_day_of_mem_merged ht).2
  obtain ⟨n, hn⟩ := Int.eq_ofNat_of_zero_le (le_trans (Int.natCast_nonneg _) hle)
  rw [hn] at hle hlt
  have hday : n < 24 * 60 := by exact_mod_cast hlt
  refine ⟨.ofMinutes n hday, ?_, rfl, hn.symm, by exact_mod_cast hle⟩
  unfold startAfterBreaks finishInTheDay
  rw [hzero, hn]
  have hnot : ¬(24 * 60 - 1 < (n : ℤ)) := by omega
  simp only [if_neg hnot, timeOf_of_lt hday]
  rfl

lemma le_finishInTheDay {start t : TimeOfDay} {hours : ℚ} (hhours : 0 ≤ hours)
    (h : finishInTheDay start hours breaks = .ok (some t)) : start.minutes ≤ t.minutes := by
  unfold finishInTheDay at h
  simp only at h
  split at h
  · cases h
  · rcases hfinish : timeOf (finishMinutes start.minutes (wholeMinutes hours) (mergedMinutes breaks))
      with e | u
    · rw [hfinish] at h
      cases h
    · rw [hfinish] at h
      obtain rfl : u = t := by simpa [Except.map] using h
      have hle : (start.minutes : ℤ) ≤
          finishMinutes start.minutes (wholeMinutes hours) (mergedMinutes breaks) :=
        le_finishMinutes (wholeMinutes_nonneg hhours)
      rw [← timeOf_eq_ok hfinish] at hle
      exact_mod_cast hle

lemma finishInTheDay_eq_ok (start : TimeOfDay) {hours : ℚ} (hhours : 0 ≤ hours)
    (breaks : List Window) : ∃ finish, finishInTheDay start hours breaks = .ok finish := by
  unfold finishInTheDay
  simp only
  split
  · exact ⟨none, rfl⟩
  · rename_i hlt
    have hle : (start.minutes : ℤ) ≤
        finishMinutes start.minutes (wholeMinutes hours) (mergedMinutes breaks) :=
      le_finishMinutes (wholeMinutes_nonneg hhours)
    obtain ⟨n, hn⟩ := Int.eq_ofNat_of_zero_le (le_trans (Int.natCast_nonneg _) hle)
    rw [hn] at hlt ⊢
    have hday : n < 24 * 60 := by omega
    exact ⟨some (.ofMinutes n hday), by rw [timeOf_of_lt hday]; rfl⟩

lemma startAfterBreaks_clear {start : TimeOfDay} (hwhole : start.micros = 0)
    (h : ∀ t ∈ mergedMinutes breaks, t.2 ≤ start.minutes ∨ start.minutes < t.1) :
    startAfterBreaks start breaks = .ok start := by
  obtain ⟨t, ht, hmicros, hminutes, -⟩ := startAfterBreaks_eq_ok start breaks
  have hclear : finishMinutes start.minutes 0 (mergedMinutes breaks) = start.minutes + 0 :=
    finishMinutes_clear fun s hs => by
      rcases h s hs with hpast | hahead
      · exact .inl (by exact_mod_cast hpast)
      · exact .inr ⟨by exact_mod_cast hahead, by omega⟩
  have heq : t = start := by
    refine TimeOfDay.ext ?_ (hmicros.trans hwhole.symm)
    omega
  rw [ht, heq]

lemma finishInTheDay_clear {start : TimeOfDay} {hours : ℚ} {n : ℕ} (hhours : wholeMinutes hours = n)
    (hday : start.minutes + n < 24 * 60)
    (h : ∀ t ∈ mergedMinutes breaks, t.2 ≤ start.minutes ∨
      (start.minutes < t.1 ∧ start.minutes + n ≤ t.1)) :
    finishInTheDay start hours breaks = .ok (some (.ofMinutes (start.minutes + n) hday)) := by
  have hclear : finishMinutes start.minutes n (mergedMinutes breaks) = start.minutes + n :=
    finishMinutes_clear fun s hs => by
      rcases h s hs with hpast | ⟨hahead, hfits⟩
      · exact .inl (by exact_mod_cast hpast)
      · exact .inr ⟨by exact_mod_cast hahead, by exact_mod_cast hfits⟩
  unfold finishInTheDay
  simp only [hhours, hclear]
  rw [if_neg (by omega)]
  have hcast : (start.minutes : ℤ) + n = ((start.minutes + n : ℕ) : ℤ) := by push_cast; ring
  rw [hcast, timeOf_of_lt hday]
  rfl

end Stepping

end Timesheet

end Docketworks
