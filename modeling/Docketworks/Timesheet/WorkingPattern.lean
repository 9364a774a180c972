import Docketworks.Timesheet.Pricing
import Mathlib.Algebra.BigOperators.Intervals

/-!
# The hours of a working pattern

What `contracted_hours_on` answers over one cycle of a salaried pattern, from any day on.

* `sum_window` — the sum of one period of a sequence is the same from wherever it starts.
* `patternHours` — the hours of all the weeks of a pattern.
* `cycle_of_contracted_hours` — a cycle has the hours of its pattern, and the average week is these over
  the number of weeks, as far as a `Decimal` holds it.
-/

namespace Docketworks

open Library Finset

namespace Timesheet

/-! ## One period -/

section Window

variable {f : ℕ → ℚ} {period : ℕ}

lemma sum_window (h : ∀ s, f (s + period) = f s) (start : ℕ) :
    ∑ i ∈ range period, f (start + i) = ∑ i ∈ range period, f i := by
  induction start with
  | zero => simp
  | succ start ih =>
      rw [← ih]
      have hlast := sum_range_succ (fun i => f (start + i)) period
      have hfirst := sum_range_succ' (fun i => f (start + i)) period
      have hshift : ∀ i, f (start + (i + 1)) = f (start + 1 + i) := fun i => congrArg f (by omega)
      rw [hfirst, h start, Nat.add_zero] at hlast
      simp only [hshift] at hlast
      exact add_right_cancel hlast

lemma sum_weeks {g : ℕ → ℕ → ℚ} (weeks first : ℕ) :
    ∑ t ∈ range (7 * weeks), g (t / 7) ((first + t) % 7) = ∑ k ∈ range weeks, ∑ day ∈ range 7, g k day := by
  induction weeks with
  | zero => simp
  | succ weeks ih =>
      rw [Nat.mul_succ, sum_range_add, ih, sum_range_succ _ weeks]
      congr 1
      have hweek : ∀ r ∈ range 7, g ((7 * weeks + r) / 7) ((first + (7 * weeks + r)) % 7) =
          g weeks ((first + r) % 7) := by
        intro r hr
        rw [mem_range] at hr
        rw [show (7 * weeks + r) / 7 = weeks by omega,
          show (first + (7 * weeks + r)) % 7 = (first + r) % 7 by omega]
      rw [sum_congr rfl hweek]
      -- seven days on from any day are the seven days of a week
      have hperiod : ∀ s, g weeks ((s + 7) % 7) = g weeks (s % 7) := fun s => by rw [Nat.add_mod_right]
      rw [sum_window (f := fun s => g weeks (s % 7)) hperiod first]
      exact sum_congr rfl fun day hday => by rw [Nat.mod_eq_of_lt (mem_range.mp hday)]

end Window

/-! ## The hours of a pattern -/

/-- The hours a week has for a day, and none where it names no day. -/
def WorkingWeek.hours (week : WorkingWeek) (day : ℕ) : ℚ := (week.hours? day).getD 0

def patternHours (weeks : List WorkingWeek) : ℚ :=
  (weeks.map fun week => ((List.range 7).map week.hours).sum).sum

section Pattern

variable {staff : Staff} {term : PayrollTerm} {weeks : List WorkingWeek} {start day : ℤ} {p : ℕ}

lemma patternHours_eq_sum : patternHours weeks =
    ∑ k ∈ range weeks.length, ∑ day ∈ range 7, (weeks[k]?.getD []).hours day := by
  have hlist : weeks = (List.range weeks.length).map fun k => weeks[k]?.getD [] := by
    refine List.ext_getElem (by simp) fun k hk _ => ?_
    simp [hk]
  unfold patternHours
  conv_lhs => rw [hlist]
  rw [List.map_map]
  rfl

lemma effectiveFrom_le_of_termOn (h : termOn staff day = some term) : term.effectiveFrom ≤ day := by
  unfold termOn at h
  simpa using (List.mem_filter.mp (List.argmax_mem h)).2

lemma length_pos_of_workingWeeks (h : workingWeeks term = .ok weeks) : 0 < weeks.length := by
  unfold workingWeeks at h
  split at h
  · cases h
  next hweeks =>
    split at h
    · obtain rfl := Except.ok.inj h
      exact List.length_pos_iff.mpr hweeks
    · cases h

lemma contractedHoursOn_eq_ok (hweeks : workingWeeks term = .ok weeks) (hsalary : term.payBasis = .salary)
    {t : ℕ} (hterm : termOn staff (term.effectiveFrom + t) = some term) :
    contractedHoursOn staff (term.effectiveFrom + t) =
      .ok ((weeks[t / 7 % weeks.length]?.getD []).hours ((weekday term.effectiveFrom + t) % 7)) := by
  have hday : weekday (term.effectiveFrom + t) = (weekday term.effectiveFrom + t) % 7 := by
    unfold weekday
    omega
  unfold contractedHoursOn
  simp only [hterm, hsalary, if_true, hweeks, add_sub_cancel_left, hday]
  rfl

/-- **One cycle from any day on** has the hours of the pattern. -/
lemma sum_contractedHoursOn (hweeks : workingWeeks term = .ok weeks) (hsalary : term.payBasis = .salary)
    (hterm : ∀ i < 7 * weeks.length, termOn staff (start + i) = some term) :
    ∃ hours : ℕ → ℚ, (∀ i < 7 * weeks.length, contractedHoursOn staff (start + i) = .ok (hours i)) ∧
      ∑ i ∈ range (7 * weeks.length), hours i = patternHours weeks := by
  have hpos := length_pos_of_workingWeeks hweeks
  obtain ⟨first, hfirst⟩ : ∃ first : ℕ, start = term.effectiveFrom + first := by
    have hle := effectiveFrom_le_of_termOn (hterm 0 (by omega))
    exact ⟨(start - term.effectiveFrom).toNat, by omega⟩
  let g (k day : ℕ) : ℚ := (weeks[k % weeks.length]?.getD []).hours day
  let f (t : ℕ) : ℚ := g (t / 7) ((weekday term.effectiveFrom + t) % 7)
  have hperiod : ∀ t, f (t + 7 * weeks.length) = f t := fun t => by
    show g ((t + 7 * weeks.length) / 7) ((weekday term.effectiveFrom + (t + 7 * weeks.length)) % 7) =
      g (t / 7) ((weekday term.effectiveFrom + t) % 7)
    rw [Nat.add_mul_div_left _ _ (by decide), ← Nat.add_assoc, Nat.add_mul_mod_self_left]
    simp only [g, Nat.add_mod_right]
  refine ⟨fun i => f (first + i), fun i hi => ?_, ?_⟩
  · have hday : start + i = term.effectiveFrom + ((first + i : ℕ) : ℤ) := by
      push_cast
      omega
    rw [hday]
    exact contractedHoursOn_eq_ok hweeks hsalary (hday ▸ hterm i hi)
  · rw [sum_window hperiod first, sum_weeks weeks.length (weekday term.effectiveFrom) (g := g),
      patternHours_eq_sum]
    exact sum_congr rfl fun k hk => by simp only [g, Nat.mod_eq_of_lt (mem_range.mp hk)]

/-! ## The average week -/

/-- Every figure of the pattern has at most `p` places, and 28 digits hold them all added up. -/
def FitsContext (p : ℕ) (weeks : List WorkingWeek) : Prop :=
  p ≤ 28 ∧ (∀ week ∈ weeks, ∀ day < 7, IsDecimal p (week.hours day)) ∧
    (weeks.map fun week => ((List.range 7).map fun day => |week.hours day|).sum).sum < 10 ^ (28 - p)

lemma abs_sum_le (values : List ℚ) : |values.sum| ≤ (values.map abs).sum := by
  induction values with
  | nil => simp
  | cons value values ih =>
      rw [List.map_cons, List.sum_cons, List.sum_cons]
      exact (abs_add_le _ _).trans (by linarith)

lemma averageWeeklyHours_eq_ok (hweeks : workingWeeks term = .ok weeks) (hfits : FitsContext p weeks)
    {average : ℚ} (h : averageWeeklyHours term = .ok average) :
    average = inContext (patternHours weeks / weeks.length) := by
  obtain ⟨hp, hdecimal, hsum⟩ := hfits
  have hdays : ∀ week ∈ weeks, ∀ value ∈ (List.range 7).map week.hours, IsDecimal p value := by
    intro week hweek value hvalue
    obtain ⟨day, hday, rfl⟩ := List.mem_map.mp hvalue
    exact hdecimal week hweek day (List.mem_range.mp hday)
  have hbelow : ∀ week ∈ weeks, (((List.range 7).map week.hours).map abs).sum < 10 ^ (28 - p) := by
    intro week hweek
    refine lt_of_le_of_lt ?_ hsum
    rw [List.map_map]
    exact List.single_le_sum (fun total htotal => by
      obtain ⟨other, -, rfl⟩ := List.mem_map.mp htotal
      exact List.sum_nonneg (by simp)) _ (List.mem_map_of_mem (f := fun week : WorkingWeek =>
        ((List.range 7).map fun day => |week.hours day|).sum) hweek)
  have htotals : weeks.map WorkingWeek.total = weeks.map fun week => ((List.range 7).map week.hours).sum :=
    List.map_congr_left fun week hweek => sumInContext_of_fits hp (hdays week hweek) (hbelow week hweek)
  have hall : sumInContext (weeks.map WorkingWeek.total) = patternHours weeks := by
    rw [htotals]
    refine sumInContext_of_fits hp (fun total htotal => ?_) (lt_of_le_of_lt ?_ hsum)
    · obtain ⟨week, hweek, rfl⟩ := List.mem_map.mp htotal
      exact IsDecimal.list_sum (hdays week hweek)
    · rw [List.map_map]
      refine List.sum_le_sum fun week _ => ?_
      exact (abs_sum_le ((List.range 7).map week.hours)).trans_eq (by rw [List.map_map]; rfl)
  unfold averageWeeklyHours at h
  obtain ⟨weeks', hweeks', h⟩ := bind_eq_ok.mp h
  obtain rfl := Except.ok.inj (hweeks.symm.trans hweeks')
  simp only [hall] at h
  split at h
  · cases h
  · exact (Except.ok.inj h).symm

/-- **The hours of a cycle.**  Over one cycle of a salaried pattern, from any day it is in force on, the
contracted hours come to the hours of the pattern.  The average week is the pattern's hours over its
weeks, to 28 digits: where these hold the quotient, the average times the weeks is the hours again. -/
theorem cycle_of_contracted_hours (staff : Staff) (term : PayrollTerm) (weeks : List WorkingWeek) (start : ℤ)
    (hweeks : workingWeeks term = .ok weeks) (hsalary : term.payBasis = .salary)
    (hterm : ∀ i < 7 * weeks.length, termOn staff (start + i) = some term) :
    (∃ hours : ℕ → ℚ, (∀ i < 7 * weeks.length, contractedHoursOn staff (start + i) = .ok (hours i)) ∧
      ∑ i ∈ range (7 * weeks.length), hours i = patternHours weeks) ∧
    ∀ p, FitsContext p weeks → ∀ average, averageWeeklyHours term = .ok average →
      average = inContext (patternHours weeks / weeks.length) ∧
      ∀ q ≤ 28, Fits 28 q (patternHours weeks / weeks.length) → average * weeks.length = patternHours weeks := by
  refine ⟨sum_contractedHoursOn hweeks hsalary hterm, fun p hfits average haverage => ?_⟩
  have hquotient := averageWeeklyHours_eq_ok hweeks hfits haverage
  refine ⟨hquotient, fun q hq hexact => ?_⟩
  have hlength : (weeks.length : ℚ) ≠ 0 := by
    exact_mod_cast (length_pos_of_workingWeeks hweeks).ne'
  rw [hquotient, inContext_of_fits hq hexact, div_mul_cancel₀ _ hlength]

/-! ### Three weeks of a hundred hours -/

def mondayWeek (hours : ℚ) : WorkingWeek := (List.range 7).map fun day => (day, if day = 0 then hours else 0)

/-- Forty hours, thirty and thirty. -/
def threeWeeks : PayrollTerm where
  id := 1
  effectiveFrom := 2
  payBasis := .salary
  annualSalary := some 52000
  workingWeeks := [mondayWeek 40, mondayWeek 30, mondayWeek 30]

/-- Two weeks of forty and thirty hours, from a Wednesday on. -/
def twoWeeks : PayrollTerm := { threeWeeks with workingWeeks := [mondayWeek 40, mondayWeek 30] }

def onTerm (term : PayrollTerm) : Staff where
  id := 7
  isOfficeStaff := false
  hasPayrollId := true
  employmentStartDate := 0
  dateLeft := none
  payBasis := some .salary
  wageRate := 25
  defaultLabourSubtype := none
  rosterHours := [8, 8, 8, 8, 8, 0, 0]
  payrollTerms := [term]

theorem cycle_of_contracted_hours_two_weeks :
    (∃ hours : ℕ → ℚ, (∀ i : ℕ, i < 14 → contractedHoursOn (onTerm twoWeeks) (9 + i) = .ok (hours i)) ∧
      ∑ i ∈ range 14, hours i = 70) ∧
    ∀ average, averageWeeklyHours twoWeeks = .ok average → average * 2 = 70 := by
  have hpattern : patternHours twoWeeks.workingWeeks = 70 := by decide +kernel
  obtain ⟨hcycle, haverage⟩ := cycle_of_contracted_hours (onTerm twoWeeks) twoWeeks twoWeeks.workingWeeks 9
    (by decide +kernel) rfl fun i _ => by
      have hbegun : (onTerm twoWeeks).payrollTerms.filter (fun term => term.effectiveFrom ≤ 9 + (i : ℤ)) =
          [twoWeeks] := List.filter_eq_self.mpr fun term hterm => by
        obtain rfl := List.mem_singleton.mp hterm
        exact decide_eq_true (show (2 : ℤ) ≤ 9 + i by omega)
      unfold termOn
      rw [hbegun]
      rfl
  rw [hpattern] at hcycle haverage
  refine ⟨hcycle, fun average h => ?_⟩
  have hfits : FitsContext 0 twoWeeks.workingWeeks := ⟨by decide, by decide +kernel, by decide +kernel⟩
  exact (haverage 0 hfits average h).2 0 (by decide) ⟨by decide +kernel, by norm_num [twoWeeks, threeWeeks]⟩

/-- A third of a hundred hours has no end of digits. -/
theorem three_weeks_average_to_less : patternHours threeWeeks.workingWeeks = 100 ∧
    ∃ average, averageWeeklyHours threeWeeks = .ok average ∧ average * 3 ≠ 100 :=
  ⟨by decide +kernel, 3333333333333333333333333333 / 10 ^ 26, by decide +kernel, by norm_num⟩

end Pattern

end Timesheet

end Docketworks
