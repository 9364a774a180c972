import Docketworks.Accounting.PayrollReconciliation
import Docketworks.Library.RoundedSums

/-!
# What the payroll reconciliation publishes

The second half of `apps/accounting/services/payroll_reconciliation_service.py`: the comparison of a week,
and the weeks folded by person and into totals.  Every figure is rounded to two places where it is
published, and the folds read the published figures.
-/

namespace Docketworks.Accounting

open Library

/-! ## The published shapes -/

inductive PayrollRowStatus where
  | ok
  | mismatch
  | jmOnly
  | xeroOnlySalaried
  | xeroOnlyDeparted
  | xeroOnlyUnposted
  | xeroOnlyUnknown
deriving DecidableEq, Repr

def PayrollRowStatus.isMismatch : PayrollRowStatus → Bool
  | .ok | .xeroOnlySalaried => false
  | .mismatch | .jmOnly | .xeroOnlyDeparted | .xeroOnlyUnposted | .xeroOnlyUnknown => true

structure PayrollStaffWeekRow where
  key : String
  name : String
  xeroHours : ℚ
  xeroTimesheetHours : ℚ
  xeroLeaveHours : ℚ
  xeroGross : ℚ
  xeroRate : ℚ
  jmHours : ℚ
  jmCost : ℚ
  jmRate : ℚ
  jmBasePay : ℚ
  payDiff : ℚ
  hoursDiff : ℚ
  costDiff : ℚ
  hoursCostImpact : ℚ
  rateCostImpact : ℚ
  status : PayrollRowStatus
deriving DecidableEq, Repr

structure PayrollWeekTotals where
  xeroGross : ℚ
  jmCost : ℚ
  diff : ℚ
  xeroHours : ℚ
  jmHours : ℚ
  jmBasePay : ℚ
  payDiff : ℚ
deriving DecidableEq, Repr

structure PayrollWeek where
  weekStart : ℤ
  xeroPeriodStart : Option ℤ
  xeroPeriodEnd : Option ℤ
  paymentDate : Option ℤ
  totals : PayrollWeekTotals
  mismatchCount : ℕ
  staff : List PayrollStaffWeekRow
deriving DecidableEq, Repr

structure PayrollStaffSummary where
  key : String
  name : String
  xeroHours : ℚ
  xeroGross : ℚ
  jmHours : ℚ
  jmCost : ℚ
  hoursDiff : ℚ
  costDiff : ℚ
  hoursCostImpact : ℚ
  rateCostImpact : ℚ
  weeksPresent : ℕ
  weeksWithMismatch : ℕ
deriving DecidableEq, Repr

structure PayrollHeatmapColumn where
  key : String
  name : String
deriving DecidableEq, Repr

/-- `PayrollHeatmapRow`: the cell of each column. -/
structure PayrollHeatmapRow where
  weekStart : ℤ
  cells : List (String × Option ℚ)
deriving DecidableEq, Repr

structure PayrollHeatmap where
  columns : List PayrollHeatmapColumn
  rows : List PayrollHeatmapRow
deriving DecidableEq, Repr

structure PayrollGrandTotals where
  xeroGross : ℚ
  jmCost : ℚ
  diff : ℚ
  diffPct : ℚ
deriving DecidableEq, Repr

structure PayrollReconciliationData where
  weeks : List PayrollWeek
  staffSummaries : List PayrollStaffSummary
  heatmap : PayrollHeatmap
  grandTotals : PayrollGrandTotals
deriving DecidableEq, Repr

/-! ## One week -/

def unpostedStatus (staff : Option Staff) : PayrollRowStatus :=
  match staff with
  | none => .xeroOnlyUnknown
  | some staff =>
      if staff.payBasis = some .salary then .xeroOnlySalaried
      else if staff.dateLeft.isSome then .xeroOnlyDeparted
      else .xeroOnlyUnposted

def Sides.status (staff : Option Staff) (sides : Sides) : PayrollRowStatus :=
  let unposted := sides.jm?.isNone || decide (sides.jmHours = 0)
  if sides.xero?.isNone then .jmOnly
  else if staff.bind Staff.payBasis = some .salary then .xeroOnlySalaried
  else if unposted then unpostedStatus staff
  else if payTolerance sides.xeroGross < |sides.jmBasePay - sides.xeroGross| then .mismatch
  else .ok

/-- The published row of a person. -/
def Sides.row (staff : Option Staff) (sides : Sides) : PayrollStaffWeekRow :=
  let costDiff := sides.jmCost - sides.xeroGross
  let hrsDiff := sides.jmHours - sides.xeroHours
  let xeroRate := quotient sides.xeroGross sides.xeroHours
  let hoursCostImpact := inContext (hrsDiff * xeroRate)
  { key := sides.key
    name := sides.rowName
    xeroHours := wire sides.xeroHours
    xeroTimesheetHours := wire sides.xeroTimesheetHours
    xeroLeaveHours := wire sides.xeroLeaveHours
    xeroGross := wire sides.xeroGross
    xeroRate := wire xeroRate
    jmHours := wire sides.jmHours
    jmCost := wire sides.jmCost
    jmRate := wire (quotient sides.jmCost sides.jmHours)
    jmBasePay := wire sides.jmBasePay
    payDiff := wire (sides.jmBasePay - sides.xeroGross)
    hoursDiff := wire hrsDiff
    costDiff := wire costDiff
    hoursCostImpact := wire hoursCostImpact
    rateCostImpact := wire (inContext (costDiff - hoursCostImpact))
    status := sides.status staff }

/-- A figure of a week, added up before it is rounded. -/
def total (staff : List Sides) (figure : Sides → ℚ) : ℚ := (staff.map figure).sum

/-- `_reconcile_week_against`. -/
def WeekSides.reconcile (staffMap : String → Option Staff) (week : WeekSides) : PayrollWeek :=
  let totalXeroGross := total week.staff Sides.xeroGross
  let totalJmCost := total week.staff Sides.jmCost
  let totalJmBasePay := total week.staff Sides.jmBasePay
  let rows := week.staff.map fun sides => sides.row (staffMap sides.key)
  { weekStart := week.monday
    xeroPeriodStart := week.period.start
    xeroPeriodEnd := week.period.finish
    paymentDate := week.period.paymentDate
    totals :=
      { xeroGross := wire totalXeroGross
        jmCost := wire totalJmCost
        diff := wire (totalJmCost - totalXeroGross)
        xeroHours := wire (total week.staff Sides.xeroHours)
        jmHours := wire (total week.staff Sides.jmHours)
        jmBasePay := wire totalJmBasePay
        payDiff := wire (totalJmBasePay - totalXeroGross) }
    mismatchCount := (rows.filter fun row => row.status.isMismatch).length
    staff := rows }

/-! ## The weeks by person -/

/-- `_StaffAccum`, under its key. -/
structure StaffAccum where
  key : String
  name : String
  xeroHours : ℚ
  xeroGross : ℚ
  jmHours : ℚ
  jmCost : ℚ
  hoursCostImpact : ℚ
  rateCostImpact : ℚ
  weeksWithMismatch : ℕ
  weeksPresent : ℕ
deriving DecidableEq, Repr

/-- The accumulator of a key that has not been met. -/
def StaffAccum.zero (key : String) : StaffAccum :=
  ⟨key, "", 0, 0, 0, 0, 0, 0, 0, 0⟩

def StaffAccum.add (acc : StaffAccum) (row : PayrollStaffWeekRow) : StaffAccum where
  key := acc.key
  name := row.name
  xeroHours := acc.xeroHours + row.xeroHours
  xeroGross := acc.xeroGross + row.xeroGross
  jmHours := acc.jmHours + row.jmHours
  jmCost := acc.jmCost + row.jmCost
  hoursCostImpact := acc.hoursCostImpact + row.hoursCostImpact
  rateCostImpact := acc.rateCostImpact + row.rateCostImpact
  weeksWithMismatch := acc.weeksWithMismatch + if row.status.isMismatch then 1 else 0
  weeksPresent := acc.weeksPresent + 1

/-- One turn of the loop of `_build_staff_summaries`. -/
def accumulate (byKey : Table StaffAccum.key) (row : PayrollStaffWeekRow) : Table StaffAccum.key :=
  byKey.upsert (((byKey.find? row.key).getD (.zero row.key)).add row)

def StaffAccum.summary (acc : StaffAccum) : PayrollStaffSummary where
  key := acc.key
  name := acc.name
  xeroHours := wire acc.xeroHours
  xeroGross := wire acc.xeroGross
  jmHours := wire acc.jmHours
  jmCost := wire acc.jmCost
  hoursDiff := wire (acc.jmHours - acc.xeroHours)
  costDiff := wire (acc.jmCost - acc.xeroGross)
  hoursCostImpact := wire acc.hoursCostImpact
  rateCostImpact := wire acc.rateCostImpact
  weeksPresent := acc.weeksPresent
  weeksWithMismatch := acc.weeksWithMismatch

def buildStaffSummaries (weeks : List PayrollWeek) : List PayrollStaffSummary :=
  let byKey := (weeks.flatMap PayrollWeek.staff).foldl accumulate Table.empty
  (byKey.rows.insertionSort fun a b => a.name ≤ b.name).map StaffAccum.summary

/-- A key with the name of its last row. -/
def nameColumn (columns : Table PayrollHeatmapColumn.key) (row : PayrollStaffWeekRow) :
    Table PayrollHeatmapColumn.key :=
  columns.upsert ⟨row.key, row.name⟩

def buildHeatmap (weeks : List PayrollWeek) : PayrollHeatmap :=
  let named := (weeks.flatMap PayrollWeek.staff).foldl nameColumn Table.empty
  let columns := named.rows.insertionSort fun a b => a.name ≤ b.name
  { columns
    rows := weeks.map fun week =>
      { weekStart := week.weekStart
        cells := columns.map fun column =>
          -- of two rows of one key a dict keeps the later
          (column.key, (week.staff.reverse.find? fun row => row.key = column.key).map
            PayrollStaffWeekRow.costDiff) } }

/-! ## The report -/

/-- The report on weeks that have been reconciled. -/
def publish (weeks : List PayrollWeek) : PayrollReconciliationData :=
  let grandXero := (weeks.map fun week => week.totals.xeroGross).sum
  let grandJm := (weeks.map fun week => week.totals.jmCost).sum
  let grandDiff := grandJm - grandXero
  { weeks
    staffSummaries := buildStaffSummaries weeks
    heatmap := buildHeatmap weeks
    grandTotals :=
      { xeroGross := wire grandXero
        jmCost := wire grandJm
        diff := wire grandDiff
        diffPct := roundHalfEven 1 (inContext (quotient grandDiff grandXero * 100)) } }

def getReconciliationData (records : PayrollRecords) (startDate endDate : ℤ) :
    Except Refusal PayrollReconciliationData := do
  let weeks ← collectWeeks records startDate endDate
  pure (publish (weeks.map (WeekSides.reconcile (buildStaffLookup records.staff))))

end Docketworks.Accounting
