import Mathlib.Data.List.MinMax
import Docketworks.Core.Errors
import Docketworks.Library.Decimal
import Docketworks.Library.Json
import Docketworks.Library.Table

/-!
# Cost sets and cost lines

The rows of a job's costing and the checks a cost line passes before it is stored
(`apps/job/models/costing.py`, `apps/job/models/costline_validators.py`).

* `Job`, `CostSet`, `CostLine`, `LeaveType` — the rows, with the columns the costing code reads.
* `Costing` — the tables, each under its primary key.
* `validateCostlineMeta`, `validateCostlineExtRefs` — the JSON schemas of the two payloads.
* `CostLine.clean`, `CostLine.fullClean` — what a line is refused for.

**Design.**  A decimal column is a rational held to the column's digits by `fullClean`, so sums
and products are exact, as PostgreSQL's `numeric` and Python's `Decimal` compute them at these
sizes.  Primary keys are UUIDs in the source; here they are numbers, and a write under a key in
use is refused.
-/

namespace Docketworks

open Library

/-! ## The rows -/

inductive CostSetKind where
  | estimate
  | quote
  | actual
deriving DecidableEq, Repr

inductive LineKind where
  | time
  | material
  | adjust
deriving DecidableEq, Repr

/-- The workflow responsible for a cost line's mutations. -/
inductive CostLineOwner where
  | leave
  | stocktake
  | stock
deriving DecidableEq, Repr

/-- The columns of a job its costing reads. -/
structure Job where
  id : ℕ
  name : String
  jobNumber : ℕ
  shopJob : Bool
  latestActual : Option ℕ
deriving DecidableEq, Repr

/-- The three derived totals a cost set stores. -/
@[ext]
structure Summary where
  cost : ℚ
  rev : ℚ
  hours : ℚ
deriving DecidableEq, Repr

/-- The totals with a change added. -/
def Summary.plus (summary change : Summary) : Summary where
  cost := summary.cost + change.cost
  rev := summary.rev + change.rev
  hours := summary.hours + change.hours

structure CostSet where
  id : ℕ
  job : ℕ
  kind : CostSetKind
  rev : ℕ
  summary : Summary
deriving DecidableEq, Repr

structure CostLine where
  id : ℕ
  costSet : ℕ
  kind : LineKind
  desc : Option String
  quantity : ℚ
  unitCost : ℚ
  unitRev : ℚ
  extRefs : Json.Members
  /-- The column `meta`. -/
  payload : Json.Members
  accountingDate : ℤ
  approved : Bool
  staff : Option ℕ
  entrySeq : Option ℕ
  xeroPayItem : Option ℕ
  labourSubtype : Option ℕ
  managedBy : Option CostLineOwner
deriving Repr

/-- The fixed absence categories. -/
inductive LeaveCode where
  | annual
  | sick
  | unpaid
  | bereavement
  | publicHoliday
deriving DecidableEq, Repr

/-- Where a category's hours reach payroll. -/
inductive PostingSurface where
  | timesheet
  | leaveApi
  | xeroComputed
deriving DecidableEq, Repr

/-- An absence category and the special job its time is booked on. -/
structure LeaveType where
  code : LeaveCode
  job : Option ℕ
deriving DecidableEq, Repr

/-- Xero computes public-holiday pay itself; every other category is posted as leave. -/
def LeaveType.surfaceFor : LeaveCode → PostingSurface
  | .publicHoliday => .xeroComputed
  | _ => .leaveApi

def LeaveType.postingSurface (self : LeaveType) : PostingSurface :=
  surfaceFor self.code

structure Costing where
  jobs : Table Job.id
  costSets : Table CostSet.id
  lines : Table CostLine.id
  leaveTypes : Table LeaveType.code

abbrev CostingCall := Transaction Costing Refusal

/-! ## The JSON payloads -/

/-- The shape one key of a payload may take. -/
inductive FieldShape where
  | stringOrNull
  | numberOrNull
  | booleanOrNull
  | clockTimeOrNull
deriving DecidableEq, Repr

/-- The digits of a clock time, `HH:MM`, `HH:MM:SS` or `HH:MM:SS.f` with up to six places. -/
def isClockTime (text : String) : Bool :=
  match text.toList with
  | h₁ :: h₂ :: ':' :: m₁ :: m₂ :: rest =>
      hour h₁ h₂ && sixty m₁ m₂ &&
        match rest with
        | [] => true
        | ':' :: s₁ :: s₂ :: tail =>
            sixty s₁ s₂ &&
              match tail with
              | [] => true
              | '.' :: places => 1 ≤ places.length && places.length ≤ 6 && places.all Char.isDigit
              | _ => false
        | _ => false
  | _ => false
where
  /-- Two digits from `00` to `23`. -/
  hour (tens units : Char) : Bool :=
    ((tens = '0' || tens = '1') && units.isDigit) ||
      (tens = '2' && "0123".toList.contains units)
  /-- Two digits from `00` to `59`. -/
  sixty (tens units : Char) : Bool :=
    "012345".toList.contains tens && units.isDigit

def FieldShape.accepts : FieldShape → Json → Bool
  | _, .null => true
  | .stringOrNull, .string _ => true
  | .numberOrNull, .number _ => true
  | .booleanOrNull, .bool _ => true
  | .clockTimeOrNull, .string text => isClockTime text
  | _, _ => false

/-- A JSON schema without additional properties: the keys and the shape of each. -/
abbrev Schema := List (String × FieldShape)

def timeMetaSchema : Schema :=
  [("staff_id", .stringOrNull), ("date", .stringOrNull), ("is_billable", .booleanOrNull),
    ("start_time", .clockTimeOrNull), ("end_time", .clockTimeOrNull),
    ("wage_rate_multiplier", .numberOrNull), ("bill_rate_multiplier", .numberOrNull),
    ("note", .stringOrNull), ("created_from_timesheet", .booleanOrNull),
    ("wage_rate", .numberOrNull), ("charge_out_rate", .numberOrNull),
    ("labour_minutes", .numberOrNull), ("consumed_by", .stringOrNull),
    ("comments", .stringOrNull), ("source", .stringOrNull), ("salary_term_id", .stringOrNull),
    ("pay_basis", .stringOrNull)]

def materialMetaSchema : Schema :=
  [("item_code", .stringOrNull), ("comments", .stringOrNull), ("source", .stringOrNull),
    ("retail_rate", .numberOrNull), ("po_number", .stringOrNull), ("consumed_by", .stringOrNull)]

def adjustmentMetaSchema : Schema :=
  [("comments", .stringOrNull), ("source", .stringOrNull)]

def costlineMetaSchemas : LineKind → Schema
  | .time => timeMetaSchema
  | .material => materialMetaSchema
  | .adjust => adjustmentMetaSchema

def costlineExtrefsSchema : Schema :=
  [("time_entry_id", .stringOrNull), ("material_entry_id", .stringOrNull),
    ("adjustment_entry_id", .stringOrNull), ("stock_id", .stringOrNull),
    ("purchase_order_id", .stringOrNull), ("purchase_order_line_id", .stringOrNull),
    ("source_row", .stringOrNull), ("source_sheet", .stringOrNull), ("staff_id", .stringOrNull)]

/-- Every member is a key of the schema and has its shape. -/
def runSchemaValidation (value : Json.Members) (schema : Schema) : Bool :=
  value.all fun (key, v) =>
    match schema.find? (fun field => field.1 = key) with
    | some field => field.2.accepts v
    | none => false

def validateCostlineMeta (payload : Json.Members) (kind : LineKind) : Bool :=
  runSchemaValidation payload (costlineMetaSchemas kind)

def validateCostlineExtRefs (extRefs : Json.Members) : Bool :=
  runSchemaValidation extRefs costlineExtrefsSchema

/-! ## What a line is refused for -/

namespace CostLine

/-- Internal cost of the line. -/
def totalCost (self : CostLine) : ℚ := self.quantity * self.unitCost

/-- Revenue of the line. -/
def totalRev (self : CostLine) : ℚ := self.quantity * self.unitRev

/-- The line's cost set; every read of `self.cost_set` goes through here. -/
def theCostSet (self : CostLine) : CostingCall CostSet := do
  let found ← Transaction.read (fun db => db.costSets.find? self.costSet)
  .orRefuse found (.doesNotExist "CostSet")

/-- The job of the line's cost set. -/
def theJob (self : CostLine) : CostingCall Job := do
  let owner ← self.theCostSet
  let found ← Transaction.read (fun db => db.jobs.find? owner.job)
  .orRefuse found (.doesNotExist "Job")

/-- Require a Xero pay item, except where Xero pays the category itself. -/
def cleanActualTimePayItem (self : CostLine) : CostingCall Unit := do
  let owner ← self.theCostSet
  let leaveType ← Transaction.read
    (fun db => db.leaveTypes.rows.find? (fun leave => leave.job = some owner.job))
  if leaveType.any (fun leave => leave.postingSurface = .xeroComputed) then
    .require (self.xeroPayItem = none) (.validation
      ("%(leave_type)s is paid by Xero's own calculation, so its " ++
        "time entries must not name a Xero pay item."))
  else
    .require (self.xeroPayItem ≠ none)
      (.validation "Actual time entries must have xero_pay_item set.")

/-- Kind-dependent requirements and the JSON payloads. -/
def clean (self : CostLine) : CostingCall Unit := do
  let owner ← self.theCostSet
  .when (self.kind = .time ∧ owner.kind = .actual) do
    self.cleanActualTimePayItem
    .require (self.staff ≠ none) (.validation "Actual time entries must have staff set.")
    .require (self.entrySeq ≠ none) (.validation "Actual time entries must have entry_seq set.")
  .require (self.kind = .time → self.labourSubtype ≠ none)
    (.validation "Time lines must have labour_subtype set.")
  .require (self.kind ≠ .time → self.labourSubtype = none)
    (.validation "Only time lines may have labour_subtype set.")
  .require (validateCostlineMeta self.payload self.kind) (.validation "meta")
  .require (validateCostlineExtRefs self.extRefs) (.validation "ext_refs")

/-- The digits each column holds, checked field by field. -/
def cleanFields (self : CostLine) : CostingCall Unit := do
  .require (Fits 10 3 self.quantity) (.validation "quantity")
  .require (Fits 10 2 self.unitCost) (.validation "unit_cost")
  .require (Fits 10 2 self.unitRev) (.validation "unit_rev")
  .require ((self.desc.getD "").length ≤ 255) (.validation "desc")

/-- The table's constraints: a day's entries of one person are numbered apart, a numbered entry
has a person and the other way round, and a description is absent or not blank. -/
def validateConstraints (self : CostLine) : CostingCall Unit := do
  let lines ← Transaction.read Costing.lines
  .require (self.kind = .time → self.staff ≠ none → self.entrySeq ≠ none →
      ∀ line ∈ lines.rows, line.id ≠ self.id → line.kind = .time → line.staff = self.staff →
        line.accountingDate = self.accountingDate → line.entrySeq ≠ self.entrySeq)
    (.validation "unique_time_entry_staff_day_seq")
  .require (self.staff = none ↔ self.entrySeq = none)
    (.validation "costline_staff_entry_seq_pair")
  .require (self.desc ≠ some "") (.validation "desc_not_blank")

/-- Django's `full_clean`: the fields, the model's own `clean`, the constraints. -/
def fullClean (self : CostLine) : CostingCall Unit := do
  self.cleanFields
  self.clean
  self.validateConstraints

end CostLine

end Docketworks
