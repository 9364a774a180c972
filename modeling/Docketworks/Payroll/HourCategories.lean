import Docketworks.Payroll.Organisation
import Docketworks.Timesheet.Pricing
import Mathlib.Algebra.Group.Prod

/-!
# How the hours of a week are classified

`apps/timesheet/services/hour_categories.py` and the payroll side of `time_entry_rates.py`.

* `LeaveCatalogue` — the configured categories: `codeFor`, `surfaceFor`.
* `categorise` — the figures the timesheet screens and the payroll check report.
* `categorise_eq_ok` — the timesheet figure is the hours of the lines that reach Xero through the
  Timesheets API, and so for the two other routes.
* `categorise_partitions` — along each axis the figures are all of the hours, and of no others; the
  figures of two lists together are those of each, added up.
-/

namespace Docketworks

open Library

namespace Payroll

/-- `is_unpaid_time`: logged time that is not hours. -/
def isUnpaidTime (line : PayLine) : Bool :=
  line.xeroPayItem.any fun item =>
    !item.usesLeaveApi && item.multiplier = some Timesheet.zeroMultiplier

def hours (lines : List PayLine) : List PayLine := lines.filter fun line => !isUnpaidTime line

/-! ## The catalogue -/

/-- The configured leave categories, keyed by what identifies a line as one; of two entries under one
key the later stands. -/
structure LeaveCatalogue where
  codeByPayItem : List (ℕ × LeaveCode)
  codeByJob : List (ℕ × LeaveCode)

/-- Pay items name the categories posted through the Leave API, jobs the ones Xero pays itself. -/
def LeaveCatalogue.load (db : Database) : LeaveCatalogue where
  codeByPayItem := db.leaveTypes.filterMap fun row => match row.job with
    | some (_, some item) =>
        if LeaveType.surfaceFor row.code = .leaveApi then some (item, row.code) else none
    | _ => none
  codeByJob := db.leaveTypes.filterMap fun row => match row.job with
    | some (job, _) =>
        if LeaveType.surfaceFor row.code = .xeroComputed then some (job, row.code) else none
    | none => none

namespace LeaveCatalogue

variable (catalogue : LeaveCatalogue) (line : PayLine)

/-- The leave category a line belongs to; none for worked time. -/
def codeFor : Except PayrollError (Option LeaveCode) :=
  match catalogue.codeByJob.reverse.lookup line.job with
  | some computed => .ok (some computed)
  | none => match line.xeroPayItem with
    | none => .error (.value
        ("Time line %(line_id)s has no xero_pay_item and its job is not a leave " ++
          "category Xero pays itself. Fix the line rather than reading it as work."))
    | some item =>
        if item.usesLeaveApi then
          match catalogue.codeByPayItem.reverse.lookup item.id with
          | some code => .ok (some code)
          | none => .error (.value
              ("Xero leave type %(leave_type)s is not mapped to a DocketWorks leave " ++
                "category, so how it is reported and paid is unknown. Map it under " ++
                "Timesheets -> Leave settings."))
        else .ok none

/-- Where a category's hours, or worked time, reach payroll. -/
def surfaceOf : Option LeaveCode → PostingSurface
  | none => .timesheet
  | some code => LeaveType.surfaceFor code

/-- Where this line's hours reach payroll. -/
def surfaceFor : Except PayrollError PostingSurface := (catalogue.codeFor line).map surfaceOf

end LeaveCatalogue

/-! ## The categories -/

/-- The figures of `HourCategories`. -/
inductive Column where
  | billable
  | nonBillable
  | billed
  | unbilled
  | overtimeOneAndAHalf
  | overtimeDouble
  | sickLeave
  | annualLeave
  | bereavementLeave
  | otherLeave
  | leaveApi
  | xeroComputed
deriving DecidableEq, Repr

/-- The column each leave category is reported in. -/
def columnByCode : LeaveCode → Column
  | .sick => .sickLeave
  | .annual => .annualLeave
  | .bereavement => .bereavementLeave
  | .unpaid => .otherLeave
  | .publicHoliday => .otherLeave

/-- One set of time lines, split the ways the screens and payroll report. -/
def HourCategories : Type := Column → ℚ

namespace HourCategories

def zero : HourCategories := fun _ => 0

def add (totals : HourCategories) (column : Column) (hours : ℚ) : HourCategories :=
  fun other => totals other + if other = column then hours else 0

variable (self : HourCategories)

def overtime : ℚ := self .overtimeOneAndAHalf + self .overtimeDouble

def leave : ℚ :=
  self .sickLeave + self .annualLeave + self .bereavementLeave + self .otherLeave

/-- Every hour in the set. -/
def total : ℚ := self .billable + self .nonBillable

/-- The hours that reach Xero through the Timesheets API. -/
def timesheet : ℚ := self.total - self .leaveApi - self .xeroComputed

variable {self} {column other : Column} {hours : ℚ}

@[simp] lemma add_apply :
    self.add column hours other = self other + if other = column then hours else 0 := rfl

/-- The figures payroll compares: the total, and the hours of the two routes that are not the
Timesheets API. -/
def compared (self : HourCategories) : ℚ × ℚ × ℚ :=
  (self.total, self .leaveApi, self .xeroComputed)

/-- What hours in a column add to the figures payroll compares. -/
def share (hours : ℚ) : Column → ℚ × ℚ × ℚ
  | .billable | .nonBillable => (hours, 0, 0)
  | .leaveApi => (0, hours, 0)
  | .xeroComputed => (0, 0, hours)
  | _ => 0

lemma compared_add : (self.add column hours).compared = self.compared + share hours column := by
  cases column <;> simp [compared, total, share] <;> ring

end HourCategories

/-- The figures with a line of a category, or of worked time, counted in. -/
def HourCategories.count (totals : HourCategories) (line : PayLine) (leave : Option LeaveCode) :
    HourCategories :=
  let hours := line.quantity
  let charged := totals.add (if line.isBillable then .billable else .nonBillable) hours
  match leave with
  | some leave =>
      (charged.add (columnByCode leave) hours).add
        (if LeaveType.surfaceFor leave = .xeroComputed then .xeroComputed else .leaveApi) hours
  | none =>
      let worked := charged.add (if line.isBillable then .billed else .unbilled) hours
      if line.wageRateMultiplier = 3 / 2 then worked.add .overtimeOneAndAHalf hours
      else if line.wageRateMultiplier = 2 then worked.add .overtimeDouble hours
      else worked

/-- `categorise`, one line. -/
def countLine (catalogue : LeaveCatalogue) (totals : HourCategories) (line : PayLine) :
    Except PayrollError HourCategories :=
  (catalogue.codeFor line).map (totals.count line)

/-- Split a set of time lines into the reported hour categories. -/
def categorise (lines : List PayLine) (catalogue : LeaveCatalogue) :
    Except PayrollError HourCategories :=
  (hours lines).foldlM (countLine catalogue) .zero

/-! ## What the figures add up to -/

/-- The hours of the lines that reach payroll by a route. -/
def hoursOn (catalogue : LeaveCatalogue) (surface : PostingSurface) (lines : List PayLine) : ℚ :=
  ((lines.filter fun line => catalogue.surfaceFor line = .ok surface).map PayLine.quantity).sum

section Categorise

variable {catalogue : LeaveCatalogue} {totals totals' : HourCategories} {line : PayLine}
  {lines : List PayLine} {surface : PostingSurface}

@[simp] lemma hoursOn_nil : hoursOn catalogue surface [] = 0 := rfl

lemma hoursOn_cons : hoursOn catalogue surface (line :: lines) =
    (if catalogue.surfaceFor line = .ok surface then line.quantity else 0) +
      hoursOn catalogue surface lines := by
  unfold hoursOn
  by_cases h : catalogue.surfaceFor line = .ok surface
  · rw [List.filter_cons_of_pos (by simpa using h), List.map_cons, List.sum_cons, if_pos h]
  · rw [List.filter_cons_of_neg (by simpa using h), if_neg h, zero_add]

/-- What a line that reaches payroll by `surface` adds to the figures payroll compares. -/
def lineShare (hours : ℚ) : PostingSurface → ℚ × ℚ × ℚ
  | .timesheet => (hours, 0, 0)
  | .leaveApi => (hours, hours, 0)
  | .xeroComputed => (hours, 0, hours)

lemma compared_count {leave : Option LeaveCode} : (totals.count line leave).compared =
    totals.compared + lineShare line.quantity (LeaveCatalogue.surfaceOf leave) := by
  have hcharged : HourCategories.share line.quantity
      (if line.isBillable then .billable else .nonBillable) = (line.quantity, 0, 0) := by
    split <;> rfl
  unfold HourCategories.count
  rcases leave with _ | leave
  · -- worked time is on no other route, and its overtime is in none of these figures
    simp only
    split_ifs <;>
      simp only [HourCategories.compared_add, HourCategories.share, add_zero,
        LeaveCatalogue.surfaceOf, lineShare]
  · have hreported : HourCategories.share line.quantity (columnByCode leave) = 0 := by
      cases leave <;> rfl
    rw [HourCategories.compared_add, HourCategories.compared_add, HourCategories.compared_add,
      hcharged, hreported, add_zero, add_assoc]
    cases leave <;>
      simp [HourCategories.share, LeaveCatalogue.surfaceOf, LeaveType.surfaceFor, lineShare]

lemma countLine_eq_ok (h : countLine catalogue totals line = .ok totals') :
    ∃ surface, catalogue.surfaceFor line = .ok surface ∧
      totals'.compared = totals.compared + lineShare line.quantity surface := by
  unfold countLine at h
  obtain ⟨code, hcode, rfl⟩ := map_eq_ok.mp h
  refine ⟨LeaveCatalogue.surfaceOf code, ?_, compared_count⟩
  rw [LeaveCatalogue.surfaceFor, hcode]
  rfl

lemma foldlM_countLine_eq_ok (h : lines.foldlM (countLine catalogue) totals = .ok totals') :
    totals'.compared = totals.compared + ((lines.map PayLine.quantity).sum,
      hoursOn catalogue .leaveApi lines, hoursOn catalogue .xeroComputed lines) ∧
    (lines.map PayLine.quantity).sum = hoursOn catalogue .timesheet lines +
      hoursOn catalogue .leaveApi lines + hoursOn catalogue .xeroComputed lines := by
  induction lines generalizing totals with
  | nil =>
      obtain rfl := pure_eq_ok.mp h
      simp
  | cons line lines ih =>
      rw [List.foldlM_cons] at h
      obtain ⟨counted, hline, hrest⟩ := bind_eq_ok.mp h
      obtain ⟨surface, hsurface, hcounted⟩ := countLine_eq_ok hline
      obtain ⟨hfigures, hsplit⟩ := ih hrest
      rw [hfigures, hcounted, List.map_cons, List.sum_cons, hoursOn_cons, hoursOn_cons,
        hoursOn_cons, hsplit]
      simp only [hsurface]
      rcases surface with _ | _ | _ <;> simp [lineShare, add_assoc] <;> ring

/-- **Each hour is counted on the route it takes.** -/
theorem categorise_eq_ok {figures : HourCategories} (h : categorise lines catalogue = .ok figures) :
    figures.timesheet = hoursOn catalogue .timesheet (hours lines) ∧
    figures .leaveApi = hoursOn catalogue .leaveApi (hours lines) ∧
    figures .xeroComputed = hoursOn catalogue .xeroComputed (hours lines) ∧
    ((hours lines).map PayLine.quantity).sum = hoursOn catalogue .timesheet (hours lines) +
      hoursOn catalogue .leaveApi (hours lines) + hoursOn catalogue .xeroComputed (hours lines) := by
  obtain ⟨hfigures, hsplit⟩ := foldlM_countLine_eq_ok h
  have hzero : HourCategories.zero.compared = 0 := by
    simp [HourCategories.compared, HourCategories.total, HourCategories.zero]
  rw [hzero, zero_add] at hfigures
  obtain ⟨htotal, hrest⟩ := Prod.mk.inj hfigures
  obtain ⟨hleave, hcomputed⟩ := Prod.mk.inj hrest
  refine ⟨?_, hleave, hcomputed, hsplit⟩
  unfold HourCategories.timesheet
  rw [htotal, hleave, hcomputed]
  rw [hsplit]
  ring

end Categorise

/-! ## The axes -/

/-- Two sets of figures, added field by field. -/
def HourCategories.plus (self other : HourCategories) : HourCategories :=
  fun column => self column + other column

/-- What the payroll split and the leave columns come to. -/
def HourCategories.paidOrAway (self : HourCategories) : ℚ :=
  self .billed + self .unbilled + self.leave

section Axes

variable {catalogue : LeaveCatalogue} {totals : HourCategories} {line : PayLine}
  {lines lines' : List PayLine} {figures : HourCategories}

lemma HourCategories.paidOrAway_add {column : Column} {hours : ℚ} :
    (totals.add column hours).paidOrAway = totals.paidOrAway + match column with
      | .billed | .unbilled | .sickLeave | .annualLeave | .bereavementLeave | .otherLeave => hours
      | _ => 0 := by
  cases column <;> simp [HourCategories.paidOrAway, HourCategories.leave] <;> ring

lemma paidOrAway_count {leave : Option LeaveCode} :
    (totals.count line leave).paidOrAway = totals.paidOrAway + line.quantity := by
  unfold HourCategories.count
  rcases leave with _ | leave
  · simp only
    split_ifs <;> simp only [HourCategories.paidOrAway_add, add_zero]
  · simp only [HourCategories.paidOrAway_add]
    cases leave <;> cases line.isBillable <;> simp [columnByCode, LeaveType.surfaceFor]

lemma paidOrAway_of_foldlM (h : lines.foldlM (countLine catalogue) totals = .ok figures) :
    figures.paidOrAway = totals.paidOrAway + (lines.map PayLine.quantity).sum := by
  induction lines generalizing totals with
  | nil =>
      obtain rfl := pure_eq_ok.mp h
      simp
  | cons line lines ih =>
      rw [List.foldlM_cons] at h
      obtain ⟨counted, hline, hrest⟩ := bind_eq_ok.mp h
      obtain ⟨leave, -, rfl⟩ := map_eq_ok.mp hline
      rw [ih hrest, paidOrAway_count, List.map_cons, List.sum_cons, add_assoc]

lemma count_plus {leave : Option LeaveCode} :
    (figures.plus totals).count line leave = figures.plus (totals.count line leave) := by
  have hadd : ∀ (totals : HourCategories) column hours,
      (figures.plus totals).add column hours = figures.plus (totals.add column hours) :=
    fun totals column hours => funext fun other => add_assoc _ _ _
  unfold HourCategories.count
  rcases leave with _ | leave
  · simp only [hadd]
    split_ifs <;> rfl
  · simp only [hadd]

lemma foldlM_countLine_plus : lines.foldlM (countLine catalogue) (figures.plus totals) =
    (lines.foldlM (countLine catalogue) totals).map figures.plus := by
  induction lines generalizing totals with
  | nil => rfl
  | cons line lines ih =>
      rw [List.foldlM_cons, List.foldlM_cons]
      unfold countLine
      cases hcode : catalogue.codeFor line with
      | error e => rfl
      | ok leave =>
          show lines.foldlM (countLine catalogue) ((figures.plus totals).count line leave) =
            (lines.foldlM (countLine catalogue) (totals.count line leave)).map figures.plus
          rw [count_plus, ih]

lemma categorise_append : categorise (lines ++ lines') catalogue =
    (do let first ← categorise lines catalogue
        let second ← categorise lines' catalogue
        pure (first.plus second)) := by
  have hzero : ∀ first : HourCategories, first = first.plus .zero :=
    fun first => funext fun column => (add_zero _).symm
  unfold categorise hours
  rw [List.filter_append, List.foldlM_append]
  refine congrArg _ (funext fun first => ?_)
  conv_lhs => rw [hzero first]
  exact foldlM_countLine_plus

/-- **The hours of a set of lines, split along each axis**: by who is charged, by the route to payroll
and by what they are, the figures come to all the hours; time that is not hours is in none of them; and
lists of lines are counted together as they are apart. -/
theorem categorise_partitions (catalogue : LeaveCatalogue) (lines lines' : List PayLine) :
    (∀ figures, categorise lines catalogue = .ok figures →
      figures .billable + figures .nonBillable = ((hours lines).map PayLine.quantity).sum ∧
      figures.timesheet + figures .leaveApi + figures .xeroComputed = figures.total ∧
      figures.timesheet = hoursOn catalogue .timesheet (hours lines) ∧
      figures .leaveApi = hoursOn catalogue .leaveApi (hours lines) ∧
      figures .xeroComputed = hoursOn catalogue .xeroComputed (hours lines) ∧
      figures .billed + figures .unbilled + figures.leave = figures.total) ∧
    (∀ line, isUnpaidTime line = true →
      categorise (lines ++ line :: lines') catalogue = categorise (lines ++ lines') catalogue) ∧
    categorise (lines ++ lines') catalogue =
      (do let first ← categorise lines catalogue
          let second ← categorise lines' catalogue
          pure (first.plus second)) := by
  refine ⟨fun figures h => ?_, fun line hline => ?_, categorise_append⟩
  · obtain ⟨htimesheet, hleave, hcomputed, -⟩ := categorise_eq_ok h
    have htotal : figures.total = ((hours lines).map PayLine.quantity).sum := by
      have hcompared := congrArg Prod.fst (foldlM_countLine_eq_ok h).1
      simpa [HourCategories.compared, HourCategories.total, HourCategories.zero] using hcompared
    have hpaid : figures.paidOrAway = ((hours lines).map PayLine.quantity).sum := by
      rw [paidOrAway_of_foldlM h]
      simp [HourCategories.paidOrAway, HourCategories.leave, HourCategories.zero]
    refine ⟨htotal, ?_, htimesheet, hleave, hcomputed, hpaid.trans htotal.symm⟩
    unfold HourCategories.timesheet
    ring
  · unfold categorise hours
    rw [List.filter_append, List.filter_append, List.filter_cons_of_neg (by simp [hline])]

end Axes

end Payroll

end Docketworks
