import Docketworks.Library.Effective
import Docketworks.Timesheet.WorkingPattern

/-!
# Contracted hours through the imported terms

How a person's pay records and working patterns are joined into payroll terms
(`apps/xero/payroll_employees.py`), and what `contracted_hours_on` then reads.

* `SalaryAndWage`, `EffectivePattern` — the two histories Xero keeps.
* `termSnapshots` — the terms they are joined into, cut at the dates of both.
* `replacePayrollTerms` — the terms as they are stored.
* `hoursFrom` — the hours of a day in repeating weeks counted from a date.
* `snapshot_in_force` — the term in force has the pay and the pattern in force, from the later of their
  dates.
* `contracted_hours_follow_pattern_iff` — exactly when the cut does not show in the contracted hours.
* `a_pay_rise_moves_the_week` — a raise in the middle of a cycle starts its weeks again.

**Design.**  The hours of a week are read with the day's name for its key, as `_working_patterns` writes
them.  The import refuses a pattern without weeks, so a pattern has one at least here.
-/

namespace Docketworks

open Library

namespace Payroll

open Timesheet (PayBasis PayrollTerm WorkingWeek contractedHoursOn termOn weekday workingWeeks)

/-! ## What Xero holds -/

structure SalaryAndWage where
  effectiveFrom : Option ℤ
  status : Option String
  paymentType : Option String
  annualSalary : Option ℚ
  ratePerUnit : Option ℚ
  salaryAndWagesId : Option String
deriving DecidableEq, Repr

/-- A working pattern: from its date on, weeks that repeat. -/
structure EffectivePattern where
  effectiveFrom : ℤ
  id : Option String
  /-- The hours of each week's days from Monday; a day Xero leaves out has none. -/
  weeks : List (List (Option ℚ))
  weeks_ne_nil : weeks ≠ []
deriving DecidableEq, Repr

def weekHours (week : List (Option ℚ)) : WorkingWeek :=
  (List.range 7).map fun day => (day, ((week[day]?).join).getD 0)

/-- `working_weeks`: the repeating weeks. -/
def EffectivePattern.workingWeeks (pattern : EffectivePattern) : List WorkingWeek :=
  pattern.weeks.map weekHours

/-! ## Joining the histories -/

/-- One pay and pattern combination effective from a date. -/
structure PayrollTermSnapshot where
  effectiveFrom : ℤ
  payBasis : PayBasis
  annualSalary : Option ℚ
  hourlyRate : Option ℚ
  workingWeeks : List WorkingWeek
  salaryWageId : Option String
  workingPatternId : Option String
deriving DecidableEq, Repr

/-- The pay records with the dates they are effective from; on request only those that are active. -/
def datedPays (payRecords : List SalaryAndWage) (requireActive : Bool) : List (SalaryAndWage × ℤ) :=
  payRecords.filterMap fun row =>
    row.effectiveFrom.bind fun effective =>
      if requireActive && (row.status.getD "").toLower ≠ "active" then none
      else some (row, effective)

def validPayBasis (paymentType : Option String) : Option PayBasis :=
  let text := (paymentType.getD "").toLower
  if text = "hourly" then some .hourly else if text = "salary" then some .salary else none

def figure (value : Option ℚ) : Option ℚ := value.filter (· ≠ 0)

/-- The snapshot of a date; none before the first pay record. -/
def snapshotOn (pays : List (SalaryAndWage × ℤ)) (patterns : List EffectivePattern) (effective : ℤ) :
    Except Refusal (Option PayrollTermSnapshot) :=
  match inForce Prod.snd pays effective with
  | none => .ok none
  | some (pay, _) =>
      let pattern := inForce EffectivePattern.effectiveFrom patterns effective
      match validPayBasis pay.paymentType with
      | none => .error (.validation "payment_type")
      | some basis =>
          if basis = .salary ∧ pattern = none then .error (.validation "working_pattern")
          else if basis = .salary ∧ (figure pay.annualSalary).all (· ≤ 0) then
            .error (.validation "annual_salary")
          else .ok (some
            { effectiveFrom := effective
              payBasis := basis
              annualSalary := figure pay.annualSalary
              hourlyRate := figure pay.ratePerUnit
              workingWeeks := (pattern.map EffectivePattern.workingWeeks).getD []
              salaryWageId := pay.salaryAndWagesId.filter (· ≠ "")
              workingPatternId := pattern.bind EffectivePattern.id })

/-- The dates of both histories, in order. -/
def termDates (pays : List (SalaryAndWage × ℤ)) (patterns : List EffectivePattern) : List ℤ :=
  (pays.map Prod.snd ++ patterns.map EffectivePattern.effectiveFrom).dedup.insertionSort (· ≤ ·)

def termSnapshots (payRecords : List SalaryAndWage) (patterns : List EffectivePattern)
    (requireActive : Bool) : Except Refusal (List PayrollTermSnapshot) := do
  let pays := datedPays payRecords requireActive
  let snapshots ← (termDates pays patterns).mapM (snapshotOn pays patterns)
  pure (snapshots.filterMap id)

/-- `_money`: rounded to the cent, halves away from zero. -/
def money (value : ℚ) : ℚ :=
  (if 0 ≤ value then ⌊value * 100 + 1 / 2⌋ else ⌈value * 100 - 1 / 2⌉) / 100

/-- A snapshot as it is stored; a term keeps the identity of the stored term of its date. -/
def storedTerm (stored : List PayrollTerm) (newId : ℤ → ℕ) (snapshot : PayrollTermSnapshot) :
    PayrollTerm :=
  { id := ((stored.find? fun term => term.effectiveFrom = snapshot.effectiveFrom).map
      PayrollTerm.id).getD (newId snapshot.effectiveFrom)
    effectiveFrom := snapshot.effectiveFrom
    payBasis := snapshot.payBasis
    annualSalary := snapshot.annualSalary.map money
    workingWeeks := snapshot.workingWeeks }

/-- `_replace_payroll_terms`: the complete history replaces the stored one. -/
def replacePayrollTerms (stored : List PayrollTerm) (newId : ℤ → ℕ)
    (snapshots : List PayrollTermSnapshot) : List PayrollTerm :=
  snapshots.map (storedTerm stored newId)

def importTerms (staff : Timesheet.Staff) (newId : ℤ → ℕ) (snapshots : List PayrollTermSnapshot) :
    Timesheet.Staff :=
  { staff with payrollTerms := replacePayrollTerms staff.payrollTerms newId snapshots }

/-- The hours of a day in repeating weeks that are counted from a date. -/
def hoursFrom (weeks : List WorkingWeek) (start day : ℤ) : ℚ :=
  (weeks[((day - start) / 7 % weeks.length).toNat]?.getD []).hours (weekday day)

/-! ## The term in force -/

section Joined

variable {payRecords : List SalaryAndWage} {pays : List (SalaryAndWage × ℤ)}
  {patterns : List EffectivePattern} {requireActive : Bool} {snapshots : List PayrollTermSnapshot}
  {snapshot : PayrollTermSnapshot} {pay : SalaryAndWage} {paid day : ℤ}
  {pattern : EffectivePattern}

lemma mem_termDates {date : ℤ} : date ∈ termDates pays patterns ↔
    (∃ pay ∈ pays, pay.2 = date) ∨ ∃ pattern ∈ patterns, pattern.effectiveFrom = date := by
  simp [termDates, List.mem_insertionSort]

lemma date_of_snapshotOn (h : snapshotOn pays patterns day = .ok (some snapshot)) :
    snapshot.effectiveFrom = day := by
  unfold snapshotOn at h
  split at h
  · cases h
  simp only at h
  split at h
  · cases h
  split at h
  · cases h
  split at h
  · cases h
  · obtain rfl := Option.some.inj (Except.ok.inj h)
    rfl

lemma snapshotOn_salaried (hpay : inForce Prod.snd pays day = some (pay, paid))
    (hsalary : validPayBasis pay.paymentType = some .salary)
    {answer : Option PayrollTermSnapshot} (h : snapshotOn pays patterns day = .ok answer) :
    ∃ pattern, inForce EffectivePattern.effectiveFrom patterns day = some pattern ∧
      answer = some
        { effectiveFrom := day
          payBasis := .salary
          annualSalary := figure pay.annualSalary
          hourlyRate := figure pay.ratePerUnit
          workingWeeks := pattern.workingWeeks
          salaryWageId := pay.salaryAndWagesId.filter (· ≠ "")
          workingPatternId := pattern.id } := by
  unfold snapshotOn at h
  rw [hpay] at h
  simp only [hsalary, true_and] at h
  split at h
  · cases h
  rename_i hpattern
  split at h
  · cases h
  obtain ⟨pattern, hpattern⟩ := Option.ne_none_iff_exists'.mp hpattern
  refine ⟨pattern, hpattern, ?_⟩
  rw [← Except.ok.inj h, hpattern]
  rfl

lemma mem_of_mapM {ε α β : Type} {f : α → Except ε β} {as : List α} {bs : List β}
    (h : as.mapM f = .ok bs) {b : β} : b ∈ bs ↔ ∃ a ∈ as, f a = .ok b := by
  have hall : List.Forall₂ (· = ·) (as.map f) (bs.map Except.ok) :=
    List.forall₂_map_left_iff.mpr (List.forall₂_map_right_iff.mpr (mapM_eq_ok.mp h))
  rw [List.forall₂_eq_eq_eq] at hall
  have hmem : (.ok b : Except ε β) ∈ bs.map Except.ok ↔ .ok b ∈ as.map f := by rw [hall]
  simpa using hmem

lemma exists_of_mapM {ε α β : Type} {f : α → Except ε β} {as : List α} {bs : List β}
    (h : as.mapM f = .ok bs) {a : α} (ha : a ∈ as) : ∃ b ∈ bs, f a = .ok b := by
  induction as generalizing bs with
  | nil => exact absurd ha List.not_mem_nil
  | cons first as ih =>
      rw [mapM_eq_ok] at h
      rcases h with _ | ⟨hfirst, hrest⟩
      rcases List.mem_cons.mp ha with rfl | ha
      · exact ⟨_, List.mem_cons_self, hfirst⟩
      · obtain ⟨b, hb, hon⟩ := ih (mapM_eq_ok.mpr hrest) ha
        exact ⟨b, List.mem_cons_of_mem _ hb, hon⟩

lemma mem_snapshots (h : termSnapshots payRecords patterns requireActive = .ok snapshots) :
    snapshot ∈ snapshots ↔
      ∃ date ∈ termDates (datedPays payRecords requireActive) patterns,
        snapshotOn (datedPays payRecords requireActive) patterns date = .ok (some snapshot) := by
  unfold termSnapshots at h
  simp only [bind_eq_ok, pure_eq_ok] at h
  obtain ⟨answers, hanswers, rfl⟩ := h
  simp only [List.mem_filterMap, id_eq, exists_eq_right]
  exact mem_of_mapM hanswers

/-- **The term in force on a salaried date** has the pay and the pattern in force on it, and is
effective from the later of their dates. -/
lemma snapshot_in_force (h : termSnapshots payRecords patterns requireActive = .ok snapshots)
    (hpay : inForce Prod.snd (datedPays payRecords requireActive) day = some (pay, paid))
    (hsalary : validPayBasis pay.paymentType = some .salary) :
    ∃ pattern snapshot, inForce EffectivePattern.effectiveFrom patterns day = some pattern ∧
      inForce PayrollTermSnapshot.effectiveFrom snapshots day = some snapshot ∧
      snapshot.effectiveFrom = max paid pattern.effectiveFrom ∧
      snapshot.payBasis = .salary ∧ snapshot.annualSalary = figure pay.annualSalary ∧
      snapshot.hourlyRate = figure pay.ratePerUnit ∧
      snapshot.workingWeeks = pattern.workingWeeks := by
  obtain ⟨hmem, hpaid⟩ := mem_of_inForce hpay
  have hanswer : ∀ date ∈ termDates (datedPays payRecords requireActive) patterns, ∃ answer,
      snapshotOn (datedPays payRecords requireActive) patterns date = .ok answer := by
    unfold termSnapshots at h
    simp only [bind_eq_ok, pure_eq_ok] at h
    obtain ⟨answers, hanswers, -⟩ := h
    intro date hdate
    obtain ⟨answer, -, hon⟩ := exists_of_mapM hanswers hdate
    exact ⟨answer, hon⟩
  -- the pay record's own date has a snapshot, so a pattern is in force since then
  have hpayAt := inForce_mono hpay le_rfl hpaid
  obtain ⟨first, hfirst⟩ := hanswer paid (mem_termDates.mpr (.inl ⟨_, hmem, rfl⟩))
  obtain ⟨early, hearly, -⟩ := snapshotOn_salaried hpayAt hsalary hfirst
  obtain ⟨hearlyMem, hearlyLe⟩ := mem_of_inForce hearly
  obtain ⟨pattern, hpattern⟩ := exists_inForce hearlyMem (hearlyLe.trans hpaid)
  obtain ⟨hpatternMem, hpatternLe⟩ := mem_of_inForce hpattern
  -- the snapshot of the later date
  have hcut : max paid pattern.effectiveFrom ≤ day := max_le hpaid hpatternLe
  have hdate : max paid pattern.effectiveFrom ∈
      termDates (datedPays payRecords requireActive) patterns := by
    rcases max_choice paid pattern.effectiveFrom with heq | heq
    · rw [heq]
      exact mem_termDates.mpr (.inl ⟨_, hmem, rfl⟩)
    · rw [heq]
      exact mem_termDates.mpr (.inr ⟨_, hpatternMem, rfl⟩)
  obtain ⟨answer, hon⟩ := hanswer _ hdate
  obtain ⟨pattern', hpattern', rfl⟩ :=
    snapshotOn_salaried (inForce_mono hpay (le_max_left _ _) hcut) hsalary hon
  obtain rfl : pattern' = pattern := Option.some.inj
    (hpattern'.symm.trans (inForce_mono hpattern (le_max_right _ _) hcut))
  have hsnapshot := (mem_snapshots h).mpr ⟨_, hdate, hon⟩
  refine ⟨pattern', _, hpattern, inForce_of_latest hsnapshot hcut ?_ ?_, rfl, rfl, rfl, rfl, rfl⟩
  · intro other hother hle
    obtain ⟨date, hin, hother⟩ := (mem_snapshots h).mp hother
    obtain rfl := date_of_snapshotOn hother
    rcases mem_termDates.mp hin with ⟨record, hrecord, heq⟩ | ⟨record, hrecord, heq⟩
    · exact (heq ▸ le_of_inForce hpay hrecord (heq.le.trans hle)).trans (le_max_left _ _)
    · exact (heq ▸ le_of_inForce hpattern hrecord (heq.le.trans hle)).trans (le_max_right _ _)
  · intro other hother heq
    obtain ⟨date, hin, hother⟩ := (mem_snapshots h).mp hother
    obtain rfl := date_of_snapshotOn hother
    rw [show other.effectiveFrom = max paid pattern'.effectiveFrom from heq, hon] at hother
    exact (Option.some.inj (Except.ok.inj hother)).symm

/-! ## The contracted hours -/

def EffectivePattern.weekOn (pattern : EffectivePattern) (start day : ℤ) : WorkingWeek :=
  (pattern.workingWeeks[((day - start) / 7 % pattern.workingWeeks.length).toNat]?).getD []

/-- A pay record is in force, and where it came after the pattern, the week counted from its date has
the hours for the day that the week counted from the pattern's date has. -/
def PayUnseen (pays : List (SalaryAndWage × ℤ)) (pattern : EffectivePattern) (day : ℤ) : Prop :=
  ∃ pay paid, inForce Prod.snd pays day = some (pay, paid) ∧
    (pattern.effectiveFrom < paid → (pattern.weekOn paid day).hours (weekday day) =
      (pattern.weekOn pattern.effectiveFrom day).hours (weekday day))

lemma payUnseen_of_dvd (hpay : inForce Prod.snd pays day = some (pay, paid))
    (hcycles : (7 * pattern.weeks.length : ℤ) ∣ paid - pattern.effectiveFrom) :
    PayUnseen pays pattern day := by
  refine ⟨pay, paid, hpay, fun _ => ?_⟩
  obtain ⟨cycles, hcycles⟩ := hcycles
  have hlength : pattern.workingWeeks.length = pattern.weeks.length := List.length_map _
  have hdays : day - pattern.effectiveFrom = day - paid + 7 * (pattern.weeks.length * cycles) := by
    linarith
  unfold EffectivePattern.weekOn
  rw [hlength, hdays, Int.add_mul_ediv_left _ _ (by decide), Int.add_mul_emod_self_left]

lemma workingWeeks_imported {term : PayrollTerm} (h : term.workingWeeks = pattern.workingWeeks) :
    workingWeeks term = .ok pattern.workingWeeks := by
  have hne : pattern.workingWeeks ≠ [] := by
    simpa [EffectivePattern.workingWeeks] using pattern.weeks_ne_nil
  have hdays : pattern.workingWeeks.all fun week => (List.range 7).all fun day =>
      (week.hours? day).isSome := by
    simp only [List.all_eq_true, EffectivePattern.workingWeeks, List.mem_map]
    rintro - ⟨week, -, rfl⟩ day hday
    simp only [Timesheet.WorkingWeek.hours?, Option.isSome_map, List.find?_isSome, weekHours,
      List.mem_map]
    exact ⟨_, ⟨day, hday, rfl⟩, decide_eq_true rfl⟩
  unfold workingWeeks
  rw [h, if_neg hne, if_pos hdays]

lemma termOn_importTerms (staff : Timesheet.Staff) (newId : ℤ → ℕ) :
    termOn (importTerms staff newId snapshots) day =
      (inForce PayrollTermSnapshot.effectiveFrom snapshots day).map
        (storedTerm staff.payrollTerms newId) :=
  inForce_map (storedTerm staff.payrollTerms newId) snapshots

lemma inForce_snapshots_eq_none
    (h : termSnapshots payRecords patterns requireActive = .ok snapshots)
    (hnone : inForce Prod.snd (datedPays payRecords requireActive) day = none) :
    inForce PayrollTermSnapshot.effectiveFrom snapshots day = none := by
  refine Option.eq_none_iff_forall_ne_some.mpr fun snapshot hsnapshot => ?_
  obtain ⟨hmem, hle⟩ := mem_of_inForce hsnapshot
  obtain ⟨date, -, hon⟩ := (mem_snapshots h).mp hmem
  obtain rfl := date_of_snapshotOn hon
  unfold snapshotOn at hon
  split at hon
  · cases hon
  next hpay =>
    obtain ⟨hmem, hpaid⟩ := mem_of_inForce hpay
    obtain ⟨later, hlater⟩ := exists_inForce hmem (hpaid.trans hle)
    rw [hnone] at hlater
    cases hlater

/-- **Contracted hours through the terms.**  On a date with a pattern in force and no pay but a salary,
`contractedHoursOn` is the hours of the pattern counted from its own date exactly when the pay in force
is not seen; and the term in force has the figures of the latest pay record. -/
theorem contracted_hours_follow_pattern_iff {staff : Timesheet.Staff} {newId : ℤ → ℕ}
    (h : termSnapshots payRecords patterns requireActive = .ok snapshots)
    (hstaff : staff.payBasis = some .salary)
    (hsalary : ∀ pay paid, inForce Prod.snd (datedPays payRecords requireActive) day = some (pay, paid) →
      validPayBasis pay.paymentType = some .salary)
    (hpattern : inForce EffectivePattern.effectiveFrom patterns day = some pattern) :
    (contractedHoursOn (importTerms staff newId snapshots) day =
        .ok (hoursFrom pattern.workingWeeks pattern.effectiveFrom day) ↔
      PayUnseen (datedPays payRecords requireActive) pattern day) ∧
    ∀ pay paid, inForce Prod.snd (datedPays payRecords requireActive) day = some (pay, paid) →
      ∃ snapshot term, inForce PayrollTermSnapshot.effectiveFrom snapshots day = some snapshot ∧
        snapshot.annualSalary = figure pay.annualSalary ∧ snapshot.hourlyRate = figure pay.ratePerUnit ∧
        termOn (importTerms staff newId snapshots) day = some term ∧ term.payBasis = .salary ∧
        term.annualSalary = snapshot.annualSalary.map money := by
  have hterm : termOn (importTerms staff newId snapshots) day = _ := termOn_importTerms staff newId
  rcases hpay : inForce Prod.snd (datedPays payRecords requireActive) day with _ | ⟨pay, paid⟩
  · refine ⟨⟨fun hread => ?_, ?_⟩, fun _ _ h => by cases h⟩
    · unfold contractedHoursOn at hread
      rw [hterm, inForce_snapshots_eq_none h hpay] at hread
      simp only [Option.map_none] at hread
      rw [if_pos (show (importTerms staff newId snapshots).payBasis = _ from hstaff)] at hread
      cases hread
    · rintro ⟨pay, paid, hsome, -⟩
      rw [hpay] at hsome
      cases hsome
  · obtain ⟨pattern', snapshot, hpattern', hsnapshot, hfrom, hbasis, hannual, hrate, hweeks⟩ :=
      snapshot_in_force h hpay (hsalary pay paid hpay)
    obtain rfl := Option.some.inj (hpattern.symm.trans hpattern')
    have hstart : (storedTerm staff.payrollTerms newId snapshot).effectiveFrom = snapshot.effectiveFrom :=
      rfl
    have hsalaried : (storedTerm staff.payrollTerms newId snapshot).payBasis = .salary := hbasis
    have hstored : workingWeeks (storedTerm staff.payrollTerms newId snapshot) = .ok pattern.workingWeeks :=
      workingWeeks_imported hweeks
    rw [hsnapshot, Option.map_some] at hterm
    have hread : contractedHoursOn (importTerms staff newId snapshots) day =
        .ok ((pattern.weekOn (max paid pattern.effectiveFrom) day).hours (weekday day)) := by
      unfold contractedHoursOn
      simp only [hterm, hsalaried, if_true, hstored, hstart, hfrom]
      rfl
    refine ⟨?_, ?_⟩
    · have hours_eq : hoursFrom pattern.workingWeeks pattern.effectiveFrom day =
          (pattern.weekOn pattern.effectiveFrom day).hours (weekday day) := rfl
      rw [hread, hours_eq, Except.ok.injEq]
      constructor
      · intro heq
        refine ⟨pay, paid, hpay, fun hlate => ?_⟩
        rwa [max_eq_left hlate.le] at heq
      · rintro ⟨pay', paid', hpay', heq⟩
        rw [hpay] at hpay'
        obtain ⟨rfl, rfl⟩ := Prod.mk.inj (Option.some.inj hpay')
        rcases lt_or_ge pattern.effectiveFrom paid with hlate | hearly
        · rw [max_eq_left hlate.le]
          exact heq hlate
        · rw [max_eq_right hearly]
    · intro pay' paid' hpay'
      obtain ⟨rfl, rfl⟩ := Prod.mk.inj (Option.some.inj hpay')
      exact ⟨snapshot, _, hsnapshot, hannual, hrate, hterm, hsalaried, rfl⟩

end Joined

/-! ## A pay rise -/

def alternateWeeks : EffectivePattern where
  effectiveFrom := 0
  id := some "pattern"
  weeks := [[some 8, some 8, some 8, some 8, some 8], []]
  weeks_ne_nil := by decide

def salaryFrom (day : ℤ) (annualSalary : ℚ) : SalaryAndWage :=
  ⟨some day, some "Active", some "Salary", some annualSalary, none, some "salary"⟩

def salaried : Timesheet.Staff := ⟨1, false, true, 0, none, some .salary, 0, none, [], []⟩

/-- A raise in the second week: the week off is read as a full week. -/
theorem a_pay_rise_moves_the_week :
    inForce EffectivePattern.effectiveFrom [alternateWeeks] 7 = some alternateWeeks ∧
      hoursFrom alternateWeeks.workingWeeks alternateWeeks.effectiveFrom 7 = 0 ∧
      (termSnapshots [salaryFrom 0 80000] [alternateWeeks] true).bind (fun snapshots =>
        contractedHoursOn (importTerms salaried Int.toNat snapshots) 7) = .ok 0 ∧
      (termSnapshots [salaryFrom 0 80000, salaryFrom 7 90000] [alternateWeeks] true).bind (fun snapshots =>
        contractedHoursOn (importTerms salaried Int.toNat snapshots) 7) = .ok 8 := by
  decide +kernel

/-- A raise a whole cycle on leaves the weeks where they were. -/
theorem contracted_hours_after_a_cycle :
    ∃ snapshots,
      termSnapshots [salaryFrom 0 80000, salaryFrom 14 90000] [alternateWeeks] true = .ok snapshots ∧
      contractedHoursOn (importTerms salaried Int.toNat snapshots) 21 =
        .ok (hoursFrom alternateWeeks.workingWeeks 0 21) := by
  obtain ⟨snapshots, hsnapshots⟩ : ∃ snapshots, termSnapshots [salaryFrom 0 80000, salaryFrom 14 90000]
      [alternateWeeks] true = .ok snapshots := by
    rcases hresult : termSnapshots [salaryFrom 0 80000, salaryFrom 14 90000] [alternateWeeks] true with
      _ | snapshots
    · have hok : (termSnapshots [salaryFrom 0 80000, salaryFrom 14 90000] [alternateWeeks] true).isOk := by
        decide +kernel
      rw [hresult] at hok
      cases hok
    · exact ⟨snapshots, rfl⟩
  have hpay : inForce Prod.snd (datedPays [salaryFrom 0 80000, salaryFrom 14 90000] true) 21 =
      some (salaryFrom 14 90000, 14) := by decide +kernel
  have hfollow := @contracted_hours_follow_pattern_iff _ _ _ _ _ _ salaried Int.toNat hsnapshots rfl
    (fun pay paid h => by
      rw [hpay] at h
      obtain ⟨rfl, rfl⟩ := Prod.mk.inj (Option.some.inj h)
      decide +kernel)
    (show inForce EffectivePattern.effectiveFrom [alternateWeeks] 21 = some alternateWeeks by decide +kernel)
  exact ⟨snapshots, hsnapshots, hfollow.1.mpr (payUnseen_of_dvd hpay ⟨1, by decide⟩)⟩

end Payroll

end Docketworks
