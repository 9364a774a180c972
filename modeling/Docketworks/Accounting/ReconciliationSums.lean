import Mathlib.Tactic.MkIffOfInductiveProp
import Docketworks.Accounting.ReconciliationReport

/-!
# When the published figures add up

Each row, each week's totals and each summary is rounded to the cent on its own.

* `FiguresAddUp` — the totals of every week, the summaries, the heatmap and the grand totals are the sums
  of the published rows.
* `RoundingCancels` — a condition on the unrounded weeks: what the rows of a week lose in hours, in cost and
  in the difference to Xero comes to less than half a cent, and every person's half-cent ties against odd
  figures of Xero are rounded up as often as down.

`figures_add_up_iff` says that the first holds of a report exactly when the second holds of its weeks;
`half_cents_do_not_add_up` is a week of two people at half a cent each.
-/

namespace Docketworks.Accounting

open Library

/-! ## The two properties -/

def weekFigures : List ((PayrollWeekTotals → ℚ) × (PayrollStaffWeekRow → ℚ)) :=
  [(PayrollWeekTotals.xeroGross, PayrollStaffWeekRow.xeroGross),
    (PayrollWeekTotals.jmCost, PayrollStaffWeekRow.jmCost),
    (PayrollWeekTotals.diff, PayrollStaffWeekRow.costDiff),
    (PayrollWeekTotals.xeroHours, PayrollStaffWeekRow.xeroHours),
    (PayrollWeekTotals.jmHours, PayrollStaffWeekRow.jmHours),
    (PayrollWeekTotals.jmBasePay, PayrollStaffWeekRow.jmBasePay),
    (PayrollWeekTotals.payDiff, PayrollStaffWeekRow.payDiff)]

def summaryFigures : List ((PayrollStaffSummary → ℚ) × (PayrollStaffWeekRow → ℚ)) :=
  [(PayrollStaffSummary.xeroHours, PayrollStaffWeekRow.xeroHours),
    (PayrollStaffSummary.xeroGross, PayrollStaffWeekRow.xeroGross),
    (PayrollStaffSummary.jmHours, PayrollStaffWeekRow.jmHours),
    (PayrollStaffSummary.jmCost, PayrollStaffWeekRow.jmCost),
    (PayrollStaffSummary.hoursDiff, PayrollStaffWeekRow.hoursDiff),
    (PayrollStaffSummary.costDiff, PayrollStaffWeekRow.costDiff),
    (PayrollStaffSummary.hoursCostImpact, PayrollStaffWeekRow.hoursCostImpact),
    (PayrollStaffSummary.rateCostImpact, PayrollStaffWeekRow.rateCostImpact)]

def grandFigures : List ((PayrollGrandTotals → ℚ) × (PayrollStaffWeekRow → ℚ)) :=
  [(PayrollGrandTotals.xeroGross, PayrollStaffWeekRow.xeroGross),
    (PayrollGrandTotals.jmCost, PayrollStaffWeekRow.jmCost),
    (PayrollGrandTotals.diff, PayrollStaffWeekRow.costDiff)]

def rowsOf (key : String) (rows : List PayrollStaffWeekRow) : List PayrollStaffWeekRow :=
  rows.filter fun row => row.key = key

def PayrollReconciliationData.rows (data : PayrollReconciliationData) : List PayrollStaffWeekRow :=
  data.weeks.flatMap PayrollWeek.staff

/-- A row of the heatmap shows of each person what the week's rows of that person come to. -/
structure CellsAgree (week : PayrollWeek) (row : PayrollHeatmapRow) : Prop where
  start : row.weekStart = week.weekStart
  blank : ∀ cell ∈ row.cells, cell.2 = none ↔ rowsOf cell.1 week.staff = []
  shown : ∀ cell ∈ row.cells,
    cell.2.getD 0 = ((rowsOf cell.1 week.staff).map PayrollStaffWeekRow.costDiff).sum

/-- **The published figures add up.** -/
structure FiguresAddUp (data : PayrollReconciliationData) : Prop where
  weeks : ∀ week ∈ data.weeks, ∀ figure ∈ weekFigures,
    figure.1 week.totals = (week.staff.map figure.2).sum
  summaries : ∀ summary ∈ data.staffSummaries, ∀ figure ∈ summaryFigures,
    figure.1 summary = ((rowsOf summary.key data.rows).map figure.2).sum
  heatmap : List.Forall₂ CellsAgree data.weeks data.heatmap.rows
  grand : ∀ figure ∈ grandFigures, figure.1 data.grandTotals = (data.rows.map figure.2).sum

/-- The people of one key, week after week. -/
def sidesOf (key : String) (weeks : List WeekSides) : List Sides :=
  (weeks.flatMap WeekSides.staff).filter fun sides => sides.key = key

/-- Whoever is in one of the weeks. -/
def staffKeys (weeks : List WeekSides) : List String :=
  (weeks.flatMap WeekSides.staff).map Sides.key

/-- **What rounding takes off cancels.** -/
@[mk_iff] structure RoundingCancels (weeks : List WeekSides) : Prop where
  hours : ∀ week ∈ weeks, RoundsAsOne 2 (week.staff.map Sides.jmHours)
  cost : ∀ week ∈ weeks, RoundsAsOne 2 (week.staff.map Sides.jmCost)
  diff : ∀ week ∈ weeks,
    RoundsAsOne 2 (week.staff.map fun sides => sides.jmCost - sides.xeroGross)
  staffHours : ∀ key ∈ staffKeys weeks, ((sidesOf key weeks).map fun sides =>
    swing 2 sides.jmHours sides.xeroHours).sum = 0
  staffCost : ∀ key ∈ staffKeys weeks, ((sidesOf key weeks).map fun sides =>
    swing 2 sides.jmCost sides.xeroGross).sum = 0

instance (weeks : List WeekSides) : Decidable (RoundingCancels weeks) :=
  decidable_of_iff' _ (roundingCancels_iff weeks)

variable {records : PayrollRecords} {startDate endDate : ℤ} {staffMap : String → Option Staff}
  {week : WeekSides} {weeks : List WeekSides} {rows : List PayrollStaffWeekRow} {key : String}
  {sides : Sides}

/-! ## Digits -/

lemma isDecimal_xeroGross (sides : Sides) : IsDecimal 2 sides.xeroGross := by
  cases sides with
  | xeroOnly xero => exact xero.gross.isDecimal
  | jmOnly jm => exact isDecimal_zero
  | both xero jm => exact xero.gross.isDecimal

lemma isDecimal_xeroHours (sides : Sides) : IsDecimal 2 sides.xeroHours := by
  cases sides with
  | xeroOnly xero => exact xero.hours.isDecimal
  | jmOnly jm => exact isDecimal_zero
  | both xero jm => exact xero.hours.isDecimal

lemma isDecimal_jmBasePay (sides : Sides) : IsDecimal 2 sides.jmBasePay := by
  cases sides with
  | xeroOnly xero => exact isDecimal_zero
  | jmOnly jm => exact jm.basePay.isDecimal
  | both xero jm => exact jm.basePay.isDecimal

lemma wire_sum_wire {ι : Type} (is : List ι) (figure : ι → ℚ) :
    wire (is.map fun i => wire (figure i)).sum = (is.map fun i => wire (figure i)).sum := by
  refine roundHalfEven_of_isDecimal (IsDecimal.list_sum fun q hq => ?_)
  obtain ⟨i, -, rfl⟩ := List.mem_map.mp hq
  exact isDecimal_roundHalfEven

lemma total_sub (staff : List Sides) (f g : Sides → ℚ) :
    total staff f - total staff g = total staff fun sides => f sides - g sides := by
  unfold total
  induction staff with
  | nil => simp
  | cons sides staff ih =>
      simp only [List.map_cons, List.sum_cons]
      rw [← ih]
      ring

lemma wire_total_of_isDecimal {figure : Sides → ℚ} (h : ∀ sides, IsDecimal 2 (figure sides))
    (staff : List Sides) :
    wire (total staff figure) = (staff.map fun sides => wire (figure sides)).sum := by
  have hsum := @roundHalfEven_sum_of_isDecimal 2 (staff.map figure) (by
    rintro q hq
    obtain ⟨sides, -, rfl⟩ := List.mem_map.mp hq
    exact h sides)
  rw [List.map_map] at hsum
  exact hsum

lemma wire_total_iff {figure : Sides → ℚ} (staff : List Sides) :
    wire (total staff figure) = (staff.map fun sides => wire (figure sides)).sum ↔
      RoundsAsOne 2 (staff.map figure) := by
  have hsum := @roundHalfEven_sum_iff 2 (staff.map figure)
  rw [List.map_map] at hsum
  exact hsum

/-! ## One week -/

/-- The totals of a week add up when the three figures with digits below a cent do. -/
theorem week_adds_up_iff (staffMap : String → Option Staff) (week : WeekSides) :
    (∀ figure ∈ weekFigures, figure.1 (week.reconcile staffMap).totals =
        ((week.reconcile staffMap).staff.map figure.2).sum) ↔
      RoundsAsOne 2 (week.staff.map Sides.jmHours) ∧ RoundsAsOne 2 (week.staff.map Sides.jmCost) ∧
        RoundsAsOne 2 (week.staff.map fun sides => sides.jmCost - sides.xeroGross) := by
  have hgross := wire_total_of_isDecimal isDecimal_xeroGross week.staff
  have hhours := wire_total_of_isDecimal isDecimal_xeroHours week.staff
  have hpay := wire_total_of_isDecimal isDecimal_jmBasePay week.staff
  have hpayDiff := wire_total_of_isDecimal
    (fun sides => (isDecimal_jmBasePay sides).sub (isDecimal_xeroGross sides)) week.staff
  simp only [weekFigures, List.forall_mem_cons, List.not_mem_nil, false_implies, implies_true, and_true,
    WeekSides.reconcile, List.map_map, Function.comp_def, Sides.row, total_sub, wire_total_iff,
    hgross, hhours, hpay, hpayDiff, true_and]
  tauto

/-! ## One person -/

lemma accumulated (figure : StaffAccum → ℚ) (added : PayrollStaffWeekRow → ℚ)
    (hzero : ∀ key, figure (.zero key) = 0)
    (hadd : ∀ acc row, figure (acc.add row) = figure acc + added row) (rows : List PayrollStaffWeekRow) :
    (∀ acc ∈ (rows.foldl accumulate Table.empty).rows,
        figure acc = ((rowsOf acc.key rows).map added).sum) ∧
      ∀ row ∈ rows, ((rows.foldl accumulate Table.empty).find? row.key).isSome := by
  induction rows using List.reverseRecOn with
  | nil => simp [Table.empty]
  | append_singleton rows row ih =>
      obtain ⟨hfigures, hmet⟩ := ih
      rw [List.foldl_append, List.foldl_cons, List.foldl_nil]
      generalize rows.foldl accumulate Table.empty = byKey at *
      unfold accumulate
      have hkey : (((byKey.find? row.key).getD (.zero row.key)).add row).key = row.key := by
        cases hfound : byKey.find? row.key with
        | none => rfl
        | some acc => exact (Table.key_of_find? hfound : acc.key = row.key)
      have hnew : figure (((byKey.find? row.key).getD (.zero row.key)).add row) =
          ((rowsOf row.key rows).map added).sum + added row := by
        rw [hadd]
        congr 1
        cases hfound : byKey.find? row.key with
        | none =>
            have hnone : rowsOf row.key rows = [] := by
              refine List.filter_eq_nil_iff.mpr fun other hother => ?_
              have hsome := hmet other hother
              intro heq
              rw [of_decide_eq_true heq, hfound] at hsome
              cases hsome
            rw [hnone]
            exact hzero row.key
        | some acc =>
            have hacc := hfigures acc (Table.mem_of_find? hfound)
            rwa [Table.key_of_find? hfound] at hacc
      generalize ((byKey.find? row.key).getD (.zero row.key)).add row = new at hkey hnew ⊢
      constructor
      · intro acc hacc
        by_cases hsame : acc.key = row.key
        · have heq := Table.eq_of_mem_upsert hacc (hsame.trans hkey.symm)
          rw [heq, hnew, hkey]
          simp [rowsOf]
        · rcases Table.eq_or_mem_of_mem_upsert hacc with rfl | hold
          · exact absurd hkey hsame
          · rw [hfigures acc hold]
            simp [rowsOf, Ne.symm hsame]
      · intro other hother
        by_cases hsame : other.key = row.key
        · rw [hsame, ← hkey, Table.find?_upsert_self]
          exact Option.isSome_some
        · rw [Table.find?_upsert_of_ne (by rwa [hkey])]
          rcases List.mem_append.mp hother with hold | hlast
          · exact hmet other hold
          · exact absurd (by rw [List.mem_singleton.mp hlast]) hsame

def publishedRows (staffMap : String → Option Staff) (weeks : List WeekSides) :
    List PayrollStaffWeekRow :=
  (weeks.flatMap WeekSides.staff).map fun sides => sides.row (staffMap sides.key)

lemma flatMap_reconcile (staffMap : String → Option Staff) (weeks : List WeekSides) :
    (weeks.map (WeekSides.reconcile staffMap)).flatMap PayrollWeek.staff =
      publishedRows staffMap weeks := by
  rw [publishedRows, List.map_flatMap, List.flatMap_map]
  rfl

lemma rowsOf_publishedRows (key : String) :
    rowsOf key (publishedRows staffMap weeks) =
      (sidesOf key weeks).map fun sides => sides.row (staffMap sides.key) := by
  rw [rowsOf, publishedRows, List.filter_map, sidesOf]
  rfl

lemma forall_staffKeys_iff {figure : Sides → ℤ} :
    (∀ key ∈ staffKeys weeks, ((sidesOf key weeks).map figure).sum = 0) ↔
      ∀ key, ((sidesOf key weeks).map figure).sum = 0 := by
  refine ⟨fun h key => ?_, fun h key _ => h key⟩
  by_cases hkey : key ∈ staffKeys weeks
  · exact h key hkey
  · have hnone : sidesOf key weeks = [] :=
      List.filter_eq_nil_iff.mpr fun sides hsides heq =>
        hkey (of_decide_eq_true heq ▸ List.mem_map_of_mem hsides)
    rw [hnone]
    rfl

lemma differences_add_up_iff {a b : Sides → ℚ} (hb : ∀ sides, IsDecimal 2 (b sides))
    (staff : List Sides) :
    (staff.map fun sides => wire (a sides)).sum - (staff.map fun sides => wire (b sides)).sum =
        (staff.map fun sides => wire (a sides - b sides)).sum ↔
      (staff.map fun sides => swing 2 (a sides) (b sides)).sum = 0 := by
  have hwhole : (staff.map fun sides => wire (b sides)) = staff.map b :=
    List.map_congr_left fun sides _ => roundHalfEven_of_isDecimal (hb sides)
  rw [hwhole]
  exact sum_roundHalfEven_sub_iff fun sides _ => hb sides

lemma wire_sub_sums (staff : List Sides) (a b : Sides → ℚ) :
    wire ((staff.map fun sides => wire (a sides)).sum - (staff.map fun sides => wire (b sides)).sum) =
      (staff.map fun sides => wire (a sides)).sum - (staff.map fun sides => wire (b sides)).sum := by
  rw [← wire_sum_wire staff a, ← wire_sum_wire staff b]
  exact roundHalfEven_of_isDecimal (isDecimal_roundHalfEven.sub isDecimal_roundHalfEven)

lemma summary_adds_up_iff {acc : StaffAccum}
    (hacc : acc ∈ ((publishedRows staffMap weeks).foldl accumulate Table.empty).rows) :
    (∀ figure ∈ summaryFigures, figure.1 acc.summary =
        ((rowsOf acc.key (publishedRows staffMap weeks)).map figure.2).sum) ↔
      ((sidesOf acc.key weeks).map fun sides => swing 2 sides.jmHours sides.xeroHours).sum = 0 ∧
        ((sidesOf acc.key weeks).map fun sides => swing 2 sides.jmCost sides.xeroGross).sum = 0 := by
  have hsum : ∀ (figure : StaffAccum → ℚ) {added : PayrollStaffWeekRow → ℚ},
      (∀ key, figure (.zero key) = 0) → (∀ acc row, figure (acc.add row) = figure acc + added row) →
      figure acc = ((sidesOf acc.key weeks).map fun sides =>
        added (sides.row (staffMap sides.key))).sum := by
    intro figure added hzero hadd
    rw [(accumulated figure added hzero hadd _).1 acc hacc, rowsOf_publishedRows, List.map_map]
    rfl
  have hxeroHours := hsum StaffAccum.xeroHours (fun _ => rfl) (fun _ _ => rfl)
  have hxeroGross := hsum StaffAccum.xeroGross (fun _ => rfl) (fun _ _ => rfl)
  have hjmHours := hsum StaffAccum.jmHours (fun _ => rfl) (fun _ _ => rfl)
  have hjmCost := hsum StaffAccum.jmCost (fun _ => rfl) (fun _ _ => rfl)
  have hhoursImpact := hsum StaffAccum.hoursCostImpact (fun _ => rfl) (fun _ _ => rfl)
  have hrateImpact := hsum StaffAccum.rateCostImpact (fun _ => rfl) (fun _ _ => rfl)
  have hhours := differences_add_up_iff (a := Sides.jmHours) isDecimal_xeroHours (sidesOf acc.key weeks)
  have hcost := differences_add_up_iff (a := Sides.jmCost) isDecimal_xeroGross (sidesOf acc.key weeks)
  simp only [summaryFigures, List.forall_mem_cons, List.not_mem_nil, false_implies, implies_true,
    and_true, rowsOf_publishedRows, List.map_map, Function.comp_def, StaffAccum.summary, hxeroHours,
    hxeroGross, hjmHours, hjmCost, hhoursImpact, hrateImpact, Sides.row, wire_sum_wire, true_and]
  rw [wire_sub_sums, wire_sub_sums, hhours, hcost]

theorem summaries_add_up_iff (staffMap : String → Option Staff) (weeks : List WeekSides) :
    (∀ summary ∈ buildStaffSummaries (weeks.map (WeekSides.reconcile staffMap)),
        ∀ figure ∈ summaryFigures, figure.1 summary =
          ((rowsOf summary.key (publishedRows staffMap weeks)).map figure.2).sum) ↔
      (∀ key, ((sidesOf key weeks).map fun sides => swing 2 sides.jmHours sides.xeroHours).sum = 0) ∧
        ∀ key, ((sidesOf key weeks).map fun sides => swing 2 sides.jmCost sides.xeroGross).sum = 0 := by
  have hmem : ∀ summary, summary ∈ buildStaffSummaries (weeks.map (WeekSides.reconcile staffMap)) ↔
      ∃ acc ∈ ((publishedRows staffMap weeks).foldl accumulate Table.empty).rows,
        acc.summary = summary := by
    intro summary
    rw [buildStaffSummaries, flatMap_reconcile, List.mem_map]
    simp only [List.mem_insertionSort]
  simp only [hmem]
  constructor
  · intro h
    have hkey : ∀ key,
        ((sidesOf key weeks).map fun sides => swing 2 sides.jmHours sides.xeroHours).sum = 0 ∧
          ((sidesOf key weeks).map fun sides => swing 2 sides.jmCost sides.xeroGross).sum = 0 := by
      intro key
      rcases hsides : sidesOf key weeks with _ | ⟨sides, rest⟩
      · simp
      · -- whoever has a row has an accumulator
        have hin : sides ∈ sidesOf key weeks := hsides ▸ List.mem_cons_self
        obtain ⟨hweeks, hkey⟩ := List.mem_filter.mp hin
        have hrow : sides.row (staffMap sides.key) ∈ publishedRows staffMap weeks :=
          List.mem_map_of_mem (f := fun sides : Sides => sides.row (staffMap sides.key)) hweeks
        have hmet := (accumulated StaffAccum.jmCost PayrollStaffWeekRow.jmCost (fun _ => rfl)
          (fun _ _ => rfl) _).2 _ hrow
        obtain ⟨acc, hacc⟩ := Option.isSome_iff_exists.mp hmet
        have hacckey : acc.key = key := (Table.key_of_find? hacc).trans (of_decide_eq_true hkey)
        have hadds := (summary_adds_up_iff (Table.mem_of_find? hacc)).mp
          (h acc.summary ⟨acc, Table.mem_of_find? hacc, rfl⟩)
        rw [← hsides, ← hacckey]
        exact hadds
    exact ⟨fun key => (hkey key).1, fun key => (hkey key).2⟩
  · rintro ⟨hhours, hcost⟩ summary ⟨acc, hacc, rfl⟩
    exact (summary_adds_up_iff hacc).mpr ⟨hhours acc.key, hcost acc.key⟩

/-! ## The heatmap -/

lemma rowsOf_eq_toList (key : String) (hnodup : (rows.map PayrollStaffWeekRow.key).Nodup) :
    rowsOf key rows = (rows.find? fun row => row.key = key).toList := by
  induction rows with
  | nil => rfl
  | cons row rows ih =>
      rw [List.map_cons, List.nodup_cons] at hnodup
      by_cases hkey : row.key = key
      · have hnone : rowsOf key rows = [] := by
          refine List.filter_eq_nil_iff.mpr fun other hother heq => hnodup.1 ?_
          rw [hkey, ← of_decide_eq_true heq]
          exact List.mem_map_of_mem hother
        simp [rowsOf, hkey] at hnone ⊢
        exact hnone
      · simpa [rowsOf, hkey] using ih hnodup.2

lemma cellsAgree_of_nodup {columns : List PayrollHeatmapColumn} {week : PayrollWeek}
    (hnodup : (week.staff.map PayrollStaffWeekRow.key).Nodup) :
    CellsAgree week
      { weekStart := week.weekStart
        cells := columns.map fun column =>
          (column.key, (week.staff.reverse.find? fun row => row.key = column.key).map
            PayrollStaffWeekRow.costDiff) } := by
  have hcell : ∀ key, rowsOf key week.staff =
      (week.staff.reverse.find? fun row => row.key = key).toList := by
    intro key
    have hreverse : (week.staff.reverse.map PayrollStaffWeekRow.key).Nodup := by
      rw [List.map_reverse]
      exact List.nodup_reverse.mpr hnodup
    have hrows := rowsOf_eq_toList key hreverse
    have hfilter : rowsOf key week.staff.reverse = (rowsOf key week.staff).reverse :=
      List.filter_reverse ..
    rw [hfilter] at hrows
    cases hfound : week.staff.reverse.find? fun row => row.key = key with
    | none =>
        rw [hfound] at hrows
        simpa using hrows
    | some row =>
        rw [hfound] at hrows
        simpa using congrArg List.reverse hrows
  refine ⟨rfl, fun cell hcellmem => ?_, fun cell hcellmem => ?_⟩
  · obtain ⟨column, -, rfl⟩ := List.mem_map.mp hcellmem
    rw [hcell]
    simp
  · obtain ⟨column, -, rfl⟩ := List.mem_map.mp hcellmem
    rw [hcell]
    cases week.staff.reverse.find? fun row => row.key = column.key <;> simp

/-! ## One row to a key -/

/-- The people of a week are there once. -/
def WeekSides.Distinct (week : WeekSides) : Prop := (week.staff.map Sides.key).Nodup

lemma nodup_allSides {xeroData : Table XeroStaffWeek.key} {jmData : List JmStaffWeek}
    (hjm : (jmData.map JmStaffWeek.key).Nodup) :
    ((allSides xeroData jmData).map Sides.key).Nodup := by
  unfold allSides
  simp only
  refine ((List.perm_insertionSort _ _).map Sides.key).nodup_iff.mpr ?_
  rw [List.map_append, List.map_map, List.map_map]
  have hxero : Sides.key ∘ XeroStaffWeek.beside jmData = XeroStaffWeek.key := by
    funext xero
    simp only [Function.comp_apply, XeroStaffWeek.beside]
    split <;> rfl
  have hjmKeys : (Sides.key ∘ Sides.jmOnly) = JmStaffWeek.key := rfl
  rw [hxero, hjmKeys]
  refine List.Nodup.append xeroData.nodup (hjm.sublist (List.filter_sublist.map _)) ?_
  intro key hx hj
  obtain ⟨jm, hjmem, rfl⟩ := List.mem_map.mp hj
  obtain ⟨xero, hxmem, hkey⟩ := List.mem_map.mp hx
  have hnone := (List.mem_filter.mp hjmem).2
  rw [← hkey, Table.find?_of_mem hxmem] at hnone
  simp at hnone

lemma distinct_of_collectWeek {monday : ℤ} {payRuns : List PayRun}
    (h : collectWeek records monday payRuns = .ok week) : week.Distinct := by
  simp only [collectWeek, getJmWeekData, bind_eq_ok, pure_eq_ok] at h
  obtain ⟨xeroData, -, jmData, ⟨accums, -, rfl⟩, rfl⟩ := h
  refine nodup_allSides ?_
  rw [List.map_map]
  exact accums.nodup

lemma distinct_of_collectWeeks (h : collectWeeks records startDate endDate = .ok weeks) :
    ∀ week ∈ weeks, week.Distinct := by
  simp only [collectWeeks, bind_eq_ok] at h
  obtain ⟨xeroWeeks, -, hweeks⟩ := h
  rw [mapM_eq_ok] at hweeks
  generalize List.insertionSort (fun a b : ℤ => a ≤ b) _ = mondays at hweeks
  induction hweeks with
  | nil => simp
  | cons hcollect _ ih => exact List.forall_mem_cons.mpr ⟨distinct_of_collectWeek hcollect, ih⟩

/-! ## The report -/

lemma sum_map_flatMap {α β : Type} (as : List α) (g : α → List β) (f : β → ℚ) :
    ((as.flatMap g).map f).sum = (as.map fun a => ((g a).map f).sum).sum := by
  induction as with
  | nil => rfl
  | cons a as ih => simp [ih]

lemma grand_adds_up
    (hweeks : ∀ week ∈ weeks, ∀ figure ∈ weekFigures, figure.1 (week.reconcile staffMap).totals =
      ((week.reconcile staffMap).staff.map figure.2).sum)
    (hcost : ∀ key, ((sidesOf key weeks).map fun sides =>
      swing 2 sides.jmCost sides.xeroGross).sum = 0) :
    ∀ figure ∈ grandFigures,
      figure.1 (publish (weeks.map (WeekSides.reconcile staffMap))).grandTotals =
        ((publishedRows staffMap weeks).map figure.2).sum := by
  -- a total over the weeks is one over the rows of all of them
  have hover : ∀ (figure : PayrollWeekTotals → ℚ) (shown : PayrollStaffWeekRow → ℚ),
      (figure, shown) ∈ weekFigures →
      ((weeks.map (WeekSides.reconcile staffMap)).map fun week => figure week.totals).sum =
        ((publishedRows staffMap weeks).map shown).sum := by
    intro figure shown hmem
    rw [← flatMap_reconcile, sum_map_flatMap, List.map_map, List.map_map]
    refine congrArg List.sum (List.map_congr_left fun week hweek => ?_)
    exact hweeks week hweek (figure, shown) hmem
  have hgross := hover PayrollWeekTotals.xeroGross PayrollStaffWeekRow.xeroGross (by simp [weekFigures])
  have hjm := hover PayrollWeekTotals.jmCost PayrollStaffWeekRow.jmCost (by simp [weekFigures])
  have hrow : ∀ shown : PayrollStaffWeekRow → ℚ, ((publishedRows staffMap weeks).map shown).sum =
      ((weeks.flatMap WeekSides.staff).map fun sides => shown (sides.row (staffMap sides.key))).sum := by
    intro shown
    rw [publishedRows, List.map_map]
    rfl
  have hdiff := (differences_add_up_iff (a := Sides.jmCost) isDecimal_xeroGross
    (weeks.flatMap WeekSides.staff)).mpr (sum_eq_zero_of_each_key Sides.key _ hcost)
  simp only [grandFigures, List.forall_mem_cons, List.not_mem_nil, false_implies, implies_true,
    publish, hgross, hjm, hrow, Sides.row, wire_sum_wire, hdiff, and_self]

/-- **The report of some weeks adds up exactly when their rounding cancels.** -/
theorem figuresAddUp_publish_iff (staffMap : String → Option Staff)
    (hdistinct : ∀ week ∈ weeks, week.Distinct) :
    FiguresAddUp (publish (weeks.map (WeekSides.reconcile staffMap))) ↔ RoundingCancels weeks := by
  have hrows : (publish (weeks.map (WeekSides.reconcile staffMap))).rows =
      publishedRows staffMap weeks := flatMap_reconcile staffMap weeks
  have hsummaries := summaries_add_up_iff staffMap weeks
  constructor
  · intro h
    have hweek : ∀ week ∈ weeks, _ := fun week hweek =>
      (week_adds_up_iff staffMap week).mp (h.weeks _ (List.mem_map_of_mem hweek))
    obtain ⟨hhours, hcost⟩ := hsummaries.mp (hrows ▸ h.summaries)
    exact ⟨fun week hmem => (hweek week hmem).1, fun week hmem => (hweek week hmem).2.1,
      fun week hmem => (hweek week hmem).2.2, forall_staffKeys_iff.mpr hhours,
      forall_staffKeys_iff.mpr hcost⟩
  · intro h
    have hweeks : ∀ week ∈ weeks, ∀ figure ∈ weekFigures,
        figure.1 (week.reconcile staffMap).totals =
          ((week.reconcile staffMap).staff.map figure.2).sum := fun week hmem =>
      (week_adds_up_iff staffMap week).mpr ⟨h.hours week hmem, h.cost week hmem, h.diff week hmem⟩
    refine { weeks := ?_, summaries := ?_, heatmap := ?_, grand := ?_ }
    · intro week hmem
      obtain ⟨sides, hsides, rfl⟩ := List.mem_map.mp hmem
      exact hweeks sides hsides
    · rw [hrows]
      exact hsummaries.mpr
        ⟨forall_staffKeys_iff.mp h.staffHours, forall_staffKeys_iff.mp h.staffCost⟩
    · refine List.forall₂_map_right_iff.mpr (List.forall₂_same.mpr fun week hmem => ?_)
      obtain ⟨sides, hsides, rfl⟩ := List.mem_map.mp hmem
      refine cellsAgree_of_nodup ?_
      have hkeys : (sides.reconcile staffMap).staff.map PayrollStaffWeekRow.key =
          sides.staff.map Sides.key := by
        simp only [WeekSides.reconcile, List.map_map]
        rfl
      rw [hkeys]
      exact hdistinct sides hsides
    · rw [hrows]
      exact grand_adds_up hweeks (forall_staffKeys_iff.mp h.staffCost)

/-- **When a report adds up.**  Whatever the records are, where their weeks can be collected the report is
published, and it adds up exactly when what rounding takes off cancels. -/
theorem figures_add_up_iff (records : PayrollRecords) (startDate endDate : ℤ)
    {weeks : List WeekSides} (h : collectWeeks records startDate endDate = .ok weeks) :
    ∃ data, getReconciliationData records startDate endDate = .ok data ∧
      (FiguresAddUp data ↔ RoundingCancels weeks) := by
  refine ⟨_, ?_, figuresAddUp_publish_iff (buildStaffLookup records.staff) (distinct_of_collectWeeks h)⟩
  rw [getReconciliationData, h]
  rfl

/-! ## Half a cent each -/

/-- A person on wages. -/
def worker (id : ℕ) (name : String) : Staff where
  id
  displayFullName := name
  xeroUserId := some name
  payBasis := some .wage
  dateLeft := none
  baseWageRate := ⟨28, by decide +kernel⟩

/-- Time of the Monday, at 30.04 an hour. -/
def mondayLine (id : ℕ) (staff : Staff) (quantity : Column 10 3) : TimeLine where
  id
  kind := .time
  costSetKind := .actual
  accountingDate := 7
  staff := some staff
  quantity
  unitCost := ⟨3004 / 100, by decide +kernel⟩
  xeroPayItem := none
  wageRateMultiplier := some 1

/-- Two people on the Monday, for as long each. -/
def twoPeople (quantity : Column 10 3) : PayrollRecords where
  staff := [worker 1 "Ana", worker 2 "Ben"]
  payRuns := []
  costLines := [mondayLine 1 (worker 1 "Ana") quantity, mondayLine 2 (worker 2 "Ben") quantity]
  xeroPayrollStartDate := none

/-- Seven and a half minutes: 0.125 hours and 3.755 in cost. -/
def eighth : Column 10 3 := ⟨1 / 8, by decide +kernel⟩

def quarter : Column 10 3 := ⟨1 / 4, by decide +kernel⟩

/-- **Half a cent each.**  Two rows of 3.755 are published as 3.76 each, and the week's total as 7.51. -/
theorem half_cents_do_not_add_up :
    ∃ data, getReconciliationData (twoPeople eighth) 7 13 = .ok data ∧ ¬FiguresAddUp data := by
  have hpast : ((getReconciliationData (twoPeople eighth) 7 13).toOption.any fun data =>
      data.weeks.any fun week =>
        week.totals.jmCost ≠ (week.staff.map PayrollStaffWeekRow.jmCost).sum) = true := by
    decide +kernel
  obtain ⟨data, hdata, hweeks⟩ := (Option.any_eq_true _ _).mp hpast
  obtain ⟨week, hweek, hne⟩ := List.any_eq_true.mp hweeks
  have hpublished : getReconciliationData (twoPeople eighth) 7 13 = .ok data := by
    cases hreport : getReconciliationData (twoPeople eighth) 7 13 with
    | error refusal => simp [hreport, Except.toOption] at hdata
    | ok report => simpa [hreport, Except.toOption] using hdata
  refine ⟨data, hpublished, fun h => ?_⟩
  exact of_decide_eq_true hne
    (h.weeks week hweek (PayrollWeekTotals.jmCost, PayrollStaffWeekRow.jmCost) (by simp [weekFigures]))

/-- Quarter hours at a rate in cents leave nothing below a cent. -/
theorem quarter_hours_add_up :
    ∃ data, getReconciliationData (twoPeople quarter) 7 13 = .ok data ∧ FiguresAddUp data := by
  have hcancels : ((collectWeeks (twoPeople quarter) 7 13).toOption.any fun weeks =>
      decide (RoundingCancels weeks)) = true := by decide +kernel
  cases hweeks : collectWeeks (twoPeople quarter) 7 13 with
  | error refusal => simp [hweeks, Except.toOption] at hcancels
  | ok weeks =>
      obtain ⟨data, hdata, hiff⟩ := figures_add_up_iff (twoPeople quarter) 7 13 hweeks
      rw [hweeks] at hcancels
      exact ⟨data, hdata, hiff.mpr (of_decide_eq_true hcancels)⟩

end Docketworks.Accounting
