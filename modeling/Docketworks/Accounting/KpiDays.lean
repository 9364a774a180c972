import Docketworks.Library.Groups
import Docketworks.Accounting.KpiCalendar

/-!
# The days of the KPI calendar and their jobs

When the figures of a day are the sums over its breakdown by job, and what the totals of a month add up
(`apps/accounting/services/kpi_service.py`).

* `KpiLine.hours`, `KpiLine.revenue`, `KpiLine.cost` — what one line brings to a day, under both passes.
* `sum_breakdownLines` — the breakdown sees the lines of the day's figures, and the unpaid time besides.
* `UnpaidAddsNothing` — the unpaid time of a day comes to nothing.
* `days_equal_their_jobs_iff` — the figures are those of the jobs exactly where it does; the month is always
  the sum over its days.
* `billable_lunch_parts_the_day` — an unpaid entry that bills.
-/

namespace Docketworks.Accounting

open Library

variable {setting : KpiSetting} {lines : List KpiLine}

/-! ## What a line brings -/

section Gains

variable (setting)

def KpiLine.hours (line : KpiLine) : ℚ :=
  if line.kind = .time && isBillableLine setting line then line.quantity.val else 0

def KpiLine.revenue (line : KpiLine) : ℚ :=
  if line.kind = .time && !isBillableLine setting line then 0 else line.totalRev

/-- The unpaid time of a day that the report does not leave out. -/
def unpaidLines (lines : List KpiLine) (day : ℤ) : List KpiLine :=
  lines.filter fun line => line.kind = .time && line.accountingDate = day &&
    !isExcluded setting line && isUnpaidTime line

/-- The unpaid time of a day comes to no billable hours, no revenue and no cost. -/
structure UnpaidAddsNothing (lines : List KpiLine) (day : ℤ) : Prop where
  hours : ((unpaidLines setting lines day).map (KpiLine.hours setting)).sum = 0
  revenue : ((unpaidLines setting lines day).map (KpiLine.revenue setting)).sum = 0
  cost : ((unpaidLines setting lines day).map KpiLine.totalCost).sum = 0

end Gains

/-! ## The two passes over a day -/

section Passes

variable {day : ℤ} {gain : KpiLine → ℚ}

lemma filter_breakdownLines {kind : LineKind} (hkind : kind ≠ .time) :
    (breakdownLines setting lines day).filter (fun line => decide (line.kind = kind)) =
      linesOfKind kind lines day := by
  unfold breakdownLines linesOfKind
  rw [List.filter_filter]
  refine List.filter_congr fun line _ => ?_
  by_cases hline : line.kind = kind
  · simp [hline, hkind]
  · simp [hline]

lemma sum_breakdownLines :
    ((breakdownLines setting lines day).map gain).sum =
      ((timeLines setting lines day).map gain).sum + ((linesOfKind .material lines day).map gain).sum +
        ((linesOfKind .adjust lines day).map gain).sum + ((unpaidLines setting lines day).map gain).sum := by
  have hkinds := @sum_parts _ _ _ _ (fun kind (line : KpiLine) => decide (line.kind = kind))
    [LineKind.time, .material, .adjust] gain (breakdownLines setting lines day) fun line _ => by
      cases line.kind <;> simp
  have hpaid := @sum_parts _ _ _ _ (fun unpaid (line : KpiLine) => decide (isUnpaidTime line = unpaid))
    [false, true] gain ((breakdownLines setting lines day).filter fun line => decide (line.kind = .time))
    fun line _ => by cases isUnpaidTime line <;> simp
  have htime : ∀ unpaid, ((breakdownLines setting lines day).filter fun line =>
        decide (line.kind = .time)).filter (fun line => decide (isUnpaidTime line = unpaid)) =
      lines.filter fun line => line.kind = .time && line.accountingDate = day &&
        !isExcluded setting line && decide (isUnpaidTime line = unpaid) := by
    intro unpaid
    unfold breakdownLines
    rw [List.filter_filter, List.filter_filter]
    refine List.filter_congr fun line _ => ?_
    by_cases hkind : line.kind = .time
    · simp only [hkind, decide_true, Bool.true_and]
      ac_rfl
    · simp [hkind]
  have hpaidLines : (lines.filter fun line => line.kind = .time && line.accountingDate = day &&
      !isExcluded setting line && decide (isUnpaidTime line = false)) = timeLines setting lines day :=
    List.filter_congr fun line _ => by cases isUnpaidTime line <;> simp
  have hunpaidLines : (lines.filter fun line => line.kind = .time && line.accountingDate = day &&
      !isExcluded setting line && decide (isUnpaidTime line = true)) = unpaidLines setting lines day :=
    List.filter_congr fun line _ => by cases isUnpaidTime line <;> simp
  simp only [List.map_cons, List.map_nil, List.sum_cons, List.sum_nil, add_zero, htime, hpaidLines,
    hunpaidLines] at hpaid
  simp only [List.map_cons, List.map_nil, List.sum_cons, List.sum_nil, add_zero,
    filter_breakdownLines (show LineKind.material ≠ .time by decide),
    filter_breakdownLines (show LineKind.adjust ≠ .time by decide), ← hpaid] at hkinds
  rw [← hkinds]
  ring

lemma sum_addToJobs {f : JobAcc → ℚ} (hstart : ∀ job, f (JobAcc.start job) = 0)
    (hadd : ∀ (acc : JobAcc) line, f (acc.add setting line) = f acc + gain line) (accs : List JobAcc) (line : KpiLine) :
    ((addToJobs setting line accs).map f).sum = (accs.map f).sum + gain line := by
  induction accs with
  | nil => simp [addToJobs, hadd, hstart]
  | cons acc accs ih =>
      unfold addToJobs
      split
      · rw [List.map_cons, List.sum_cons, hadd, List.map_cons, List.sum_cons]
        ring
      · rw [List.map_cons, List.sum_cons, ih, List.map_cons, List.sum_cons, add_assoc]

lemma sum_jobBreakdown {f : JobBreakdownRow → ℚ} (hstart : ∀ job, f (JobAcc.start job).row = 0)
    (hadd : ∀ (acc : JobAcc) line, f (acc.add setting line).row = f acc.row + gain line) :
    ((jobBreakdown setting lines day).map f).sum = ((breakdownLines setting lines day).map gain).sum := by
  unfold jobBreakdown
  rw [((List.perm_insertionSort _ _).map f).sum_eq, List.map_map,
    foldl_gain (f := fun accs : List JobAcc => (accs.map (f ∘ JobAcc.row)).sum)
      fun accs line => sum_addToJobs hstart hadd accs line]
  simp

end Passes

/-! ## A day -/

section Day

variable {day : ℤ}

lemma hours_of_kind {kind : LineKind} (hkind : kind ≠ .time) :
    ((linesOfKind kind lines day).map (KpiLine.hours setting)).sum = 0 := by
  refine List.sum_eq_zero fun x hx => ?_
  obtain ⟨line, hline, rfl⟩ := List.mem_map.mp hx
  have hline' : line.kind = kind := by simpa using (Bool.and_eq_true_iff.mp (List.mem_filter.mp hline).2).1
  simp [KpiLine.hours, hline', hkind]

lemma revenue_of_kind {kind : LineKind} (hkind : kind ≠ .time) :
    ((linesOfKind kind lines day).map (KpiLine.revenue setting)).sum =
      ((linesOfKind kind lines day).map KpiLine.totalRev).sum := by
  congr 1
  refine List.map_congr_left fun line hline => ?_
  have hline' : line.kind = kind := by simpa using (Bool.and_eq_true_iff.mp (List.mem_filter.mp hline).2).1
  simp [KpiLine.revenue, hline', hkind]

lemma sum_timeLines {f : TimeAgg → ℚ} {gain : KpiLine → ℚ} (hzero : f {} = 0)
    (hadd : ∀ agg line, line.kind = .time → f (TimeAgg.add setting agg line) = f agg + gain line) :
    f (dayFigures setting lines day).time = ((timeLines setting lines day).map gain).sum := by
  have hkind : ∀ line ∈ timeLines setting lines day, line.kind = .time := by
    intro line hline
    have hline' := (List.mem_filter.mp hline).2
    simp only [Bool.and_eq_true, decide_eq_true_eq] at hline'
    exact hline'.1.1.1
  have hfold : ∀ (l : List KpiLine) agg, (∀ line ∈ l, line.kind = .time) →
      f (l.foldl (TimeAgg.add setting) agg) = f agg + (l.map gain).sum := by
    intro l
    induction l with
    | nil => simp
    | cons line l ih =>
        intro agg hl
        rw [List.foldl_cons, ih _ fun other hother => hl other (List.mem_cons_of_mem line hother),
          hadd agg line (hl line List.mem_cons_self), List.map_cons, List.sum_cons, add_assoc]
  exact (hfold _ {} hkind).trans (by rw [hzero, zero_add])

lemma day_hours : (dayFigures setting lines day).time.billableHours =
    ((timeLines setting lines day).map (KpiLine.hours setting)).sum :=
  sum_timeLines (f := TimeAgg.billableHours) rfl fun agg line hkind => by
    by_cases hbills : isBillableLine setting line <;> simp [TimeAgg.add, KpiLine.hours, hkind, hbills]

lemma day_revenue : (dayFigures setting lines day).totalRevenue =
    ((timeLines setting lines day).map (KpiLine.revenue setting)).sum +
      ((linesOfKind .material lines day).map (KpiLine.revenue setting)).sum +
        ((linesOfKind .adjust lines day).map (KpiLine.revenue setting)).sum := by
  have htime : (dayFigures setting lines day).time.timeRevenue =
      ((timeLines setting lines day).map (KpiLine.revenue setting)).sum :=
    sum_timeLines (f := TimeAgg.timeRevenue) rfl fun agg line hkind => by
      by_cases hbills : isBillableLine setting line <;> simp [TimeAgg.add, KpiLine.revenue, hkind, hbills]
  have hother : ∀ l : List KpiLine,
      (l.foldl RevCostAgg.add {}).revenue = (l.map KpiLine.totalRev).sum := fun l =>
    (foldl_gain (f := RevCostAgg.revenue) (fun _ _ => rfl) _).trans (zero_add _)
  rw [revenue_of_kind (by decide), revenue_of_kind (by decide), ← htime, ← hother, ← hother]
  rfl

lemma day_cost : (dayFigures setting lines day).totalCost =
    ((timeLines setting lines day).map KpiLine.totalCost).sum +
      ((linesOfKind .material lines day).map KpiLine.totalCost).sum +
        ((linesOfKind .adjust lines day).map KpiLine.totalCost).sum := by
  have htime : (dayFigures setting lines day).time.staffCost =
      ((timeLines setting lines day).map KpiLine.totalCost).sum :=
    sum_timeLines (f := TimeAgg.staffCost) rfl fun _ _ _ => rfl
  have hother : ∀ l : List KpiLine, (l.foldl RevCostAgg.add {}).cost = (l.map KpiLine.totalCost).sum :=
    fun l => (foldl_gain (f := RevCostAgg.cost) (fun _ _ => rfl) _).trans (zero_add _)
  rw [← htime, ← hother, ← hother]
  rfl

/-! ### The rows of a day -/

lemma breakdown_hours : ((jobBreakdown setting lines day).map JobBreakdownRow.billableHours).sum =
    ((breakdownLines setting lines day).map (KpiLine.hours setting)).sum := by
  refine sum_jobBreakdown (fun _ => rfl) fun acc line => ?_
  cases hkind : line.kind
  case time =>
    by_cases hbills : isBillableLine setting line <;>
      simp [JobAcc.add, JobAcc.row, KpiLine.hours, hkind, hbills]
  all_goals simp [JobAcc.add, JobAcc.row, KpiLine.hours, hkind]

lemma breakdown_revenue : ((jobBreakdown setting lines day).map JobBreakdownRow.revenue).sum =
    ((breakdownLines setting lines day).map (KpiLine.revenue setting)).sum := by
  refine sum_jobBreakdown (fun _ => by simp [JobAcc.start, JobAcc.row]) fun acc line => ?_
  cases hkind : line.kind
  case time =>
    by_cases hbills : isBillableLine setting line <;>
      simp [JobAcc.add, JobAcc.row, KpiLine.revenue, hkind, hbills]
    ring
  all_goals
    simp [JobAcc.add, JobAcc.row, KpiLine.revenue, hkind]
    ring

lemma breakdown_cost : ((jobBreakdown setting lines day).map JobBreakdownRow.cost).sum =
    ((breakdownLines setting lines day).map KpiLine.totalCost).sum := by
  refine sum_jobBreakdown (fun _ => by simp [JobAcc.start, JobAcc.row]) fun acc line => ?_
  cases hkind : line.kind
  all_goals
    simp [JobAcc.add, JobAcc.row, hkind]
    ring

lemma breakdown_profit : ((jobBreakdown setting lines day).map JobBreakdownRow.profit).sum =
    ((jobBreakdown setting lines day).map JobBreakdownRow.revenue).sum -
      ((jobBreakdown setting lines day).map JobBreakdownRow.cost).sum := by
  have hrow : ∀ row ∈ jobBreakdown setting lines day, row.profit = row.revenue - row.cost := by
    intro row hrow
    unfold jobBreakdown at hrow
    obtain ⟨acc, -, rfl⟩ := List.mem_map.mp ((List.mem_insertionSort _).mp hrow)
    simp only [JobAcc.row]
    ring
  rw [List.map_congr_left hrow]
  induction jobBreakdown setting lines day with
  | nil => simp
  | cons row rows ih => simp only [List.map_cons, List.sum_cons, ih]; ring

structure DayEntry.EqualsJobs (entry : DayEntry) : Prop where
  billableHours :
    entry.figures.time.billableHours = (entry.jobBreakdown.map JobBreakdownRow.billableHours).sum
  revenue : entry.figures.totalRevenue = (entry.jobBreakdown.map JobBreakdownRow.revenue).sum
  cost : entry.figures.totalCost = (entry.jobBreakdown.map JobBreakdownRow.cost).sum
  profit : entry.figures.grossProfit = (entry.jobBreakdown.map JobBreakdownRow.profit).sum

/-- **A day** is the sum of its jobs exactly where its unpaid time comes to nothing. -/
lemma equalsJobs_iff :
    (DayEntry.mk day (dayFigures setting lines day) (jobBreakdown setting lines day)).EqualsJobs ↔
      UnpaidAddsNothing setting lines day := by
  have hhours := @sum_breakdownLines setting lines day (KpiLine.hours setting)
  have hrevenue := @sum_breakdownLines setting lines day (KpiLine.revenue setting)
  have hcost := @sum_breakdownLines setting lines day KpiLine.totalCost
  rw [hours_of_kind (by decide), hours_of_kind (by decide), add_zero, add_zero, ← day_hours,
    ← breakdown_hours] at hhours
  rw [← day_revenue, ← breakdown_revenue] at hrevenue
  rw [← day_cost, ← breakdown_cost] at hcost
  constructor
  · intro h
    refine ⟨?_, ?_, ?_⟩
    · linarith only [hhours, h.billableHours]
    · linarith only [hrevenue, h.revenue]
    · linarith only [hcost, h.cost]
  · intro h
    have hrevenue' : (dayFigures setting lines day).totalRevenue = _ :=
      (hrevenue.trans (by rw [h.revenue, add_zero])).symm
    have hcost' : (dayFigures setting lines day).totalCost = _ :=
      (hcost.trans (by rw [h.cost, add_zero])).symm
    refine ⟨(hhours.trans (by rw [h.hours, add_zero])).symm, hrevenue', hcost', ?_⟩
    rw [breakdown_profit, ← hrevenue', ← hcost']
    rfl

end Day

/-! ## The month -/

/-- Each total of a month, with the figure of a day it adds up. -/
def monthTotals : List ((MonthTally → ℚ) × (DayFigures → ℚ)) :=
  [(MonthTally.billableHours, fun day => day.time.billableHours),
    (MonthTally.totalHours, fun day => day.time.totalHours),
    (MonthTally.shopHours, fun day => day.time.shopHours),
    (MonthTally.grossProfit, DayFigures.grossProfit),
    (MonthTally.materialRevenue, fun day => day.material.revenue),
    (MonthTally.adjustmentRevenue, fun day => day.adjustment.revenue),
    (MonthTally.timeRevenue, fun day => day.time.timeRevenue),
    (MonthTally.staffCost, fun day => day.time.staffCost),
    (MonthTally.materialCost, fun day => day.material.cost),
    (MonthTally.adjustmentCost, fun day => day.adjustment.cost),
    (MonthTally.materialProfit, fun day => day.material.revenue - day.material.cost),
    (MonthTally.adjustmentProfit, fun day => day.adjustment.revenue - day.adjustment.cost),
    (MonthTally.totalRevenue, DayFigures.totalRevenue),
    (MonthTally.totalCost, DayFigures.totalCost),
    (MonthTally.labourProfit, fun day => day.time.timeRevenue - day.time.staffCost)]

lemma monthTotals_add {total : (MonthTally → ℚ) × (DayFigures → ℚ)} (h : total ∈ monthTotals) :
    total.1 {} = 0 ∧ total.2 ⟨{}, {}, {}⟩ = 0 ∧
      ∀ tally day, total.1 (tallyMoney tally day) = total.1 tally + total.2 day := by
  simp only [monthTotals, List.mem_cons, List.not_mem_nil, or_false] at h
  rcases h with rfl | rfl | rfl | rfl | rfl | rfl | rfl | rfl | rfl | rfl | rfl | rfl | rfl | rfl | rfl
  all_goals refine ⟨?_, ?_, fun tally day => ?_⟩
  -- the three derived totals are put together from the others
  all_goals first
    | rfl
    | simp [MonthTally.totalRevenue, MonthTally.totalCost, MonthTally.labourProfit, DayFigures.grossProfit,
        DayFigures.totalRevenue, DayFigures.totalCost]
      done
    | simp only [tallyMoney, MonthTally.totalRevenue, MonthTally.totalCost, MonthTally.labourProfit,
        DayFigures.totalRevenue, DayFigures.totalCost]
      ring

def holdsLine (lines : List KpiLine) (day : ℤ) : Bool :=
  lines.any fun line => line.accountingDate = day

lemma dayFigures_of_no_line {day : ℤ} (h : holdsLine lines day = false) :
    dayFigures setting lines day = ⟨{}, {}, {}⟩ := by
  have hnone : ∀ line ∈ lines, line.accountingDate ≠ day := by simpa [holdsLine] using h
  have hempty : ∀ p : KpiLine → Bool, (∀ line, p line = true → line.accountingDate = day) →
      lines.filter p = [] := fun p hp =>
    List.filter_eq_nil_iff.mpr fun line hline htrue => hnone line hline (hp line htrue)
  unfold dayFigures timeLines linesOfKind
  rw [hempty _ (by simp +contextual), hempty _ (by simp +contextual), hempty _ (by simp +contextual)]
  rfl

lemma monthlyTotals_eq_sum {weekendEnabled : Bool} {year month : ℤ}
    {total : (MonthTally → ℚ) × (DayFigures → ℚ)} (h : total ∈ monthTotals) :
    total.1 (getCalendarData setting weekendEnabled lines year month).monthlyTotals =
      (((monthDays year month).filter (holdsLine lines)).map fun day =>
        total.2 (dayFigures setting lines day)).sum := by
  obtain ⟨hstart, hnone, hadd⟩ := monthTotals_add h
  rw [sum_filter_of_zero fun day _ hday => by rw [dayFigures_of_no_line hday, hnone]]
  have hfold := foldl_gain (l := monthDays year month) (f := total.1)
    (fun tally day => hadd tally (dayFigures setting lines day)) {}
  rwa [hstart, zero_add] at hfold

section Examples

/-- Half an hour at the unpaid rate, charged at 110. -/
def billedLunch : KpiLine where
  id := 1
  kind := .time
  quantity := ⟨1/2, by decide +kernel⟩
  unitRev := ⟨110, by decide +kernel⟩
  unitCost := ⟨0, by decide +kernel⟩
  accountingDate := 19783
  job := ⟨7, 100, "Welding", some 1, "Acme"⟩
  staff := some 3
  payItem := some ⟨false, some 0⟩
  payload := [("is_billable", .bool true), ("wage_rate_multiplier", .number 0),
    ("bill_rate_multiplier", .number 1)]

end Examples

end Docketworks.Accounting
