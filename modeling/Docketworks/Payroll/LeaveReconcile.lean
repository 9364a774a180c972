import Docketworks.Payroll.HourCategories
import Mathlib.Data.List.Infix

/-!
# Reconciling a person's Xero leave for a payroll week

`apps/xero/payroll_leave.py`: what leave the timesheet asks for, and the calls that make Xero's match.

* `WeekWindow` — a payroll week.
* `buildLeaveRequests` — the requests the lines of a week amount to.
* `weekLeave`, `unitsWithinWeek`, `postedLeaveHours` — what Xero holds.
* `outlook` — what is to be done about it, or why nothing may be.
* `reconcileLeaveForStaffWeek` — the reconcile.

**Design.**  Two requests of one week never have one key, so the dictionary of requests is the list of
them.  Reading what Xero holds and matching it makes no call after the first one, and is a function of
what that call answered.
-/

namespace Docketworks

open Library

namespace Payroll

/-- The payroll week that starts on a Monday. -/
@[ext]
structure WeekWindow where
  start : ℤ
  monday : Timesheet.weekday start = 0
deriving DecidableEq

/-- The Sunday. -/
def WeekWindow.finish (week : WeekWindow) : ℤ := week.start + 6

/-- The Monday-to-Sunday window, refusing any other start day. -/
def WeekWindow.of (weekStartDate : ℤ) : Except PayrollError WeekWindow :=
  if h : Timesheet.weekday weekStartDate = 0 then .ok ⟨weekStartDate, h⟩
  else .error (.notAPayrollWeek "week_start_date must be a Monday")

/-- Payroll units have three decimal places. -/
def quantize (units : ℚ) : ℚ := roundHalfEven 3 units

@[simp] lemma quantize_quantize (units : ℚ) : quantize (quantize units) = quantize units :=
  roundHalfEven_of_isDecimal isDecimal_roundHalfEven

def requirePayItem (line : PayLine) : Except PayrollError PayItem :=
  match line.xeroPayItem with
  | some item => .ok item
  | none => .error (.value "CostLine %(line_id)s has no xero_pay_item")

/-- `str(pay_item.xero_id)`. -/
def PayItem.xeroText (item : PayItem) : String := item.xeroId.getD "None"

/-- Add units under a key, where the key first stood or at the end. -/
def tally {κ : Type} [DecidableEq κ] (key : κ) (units : ℚ) : List (κ × ℚ) → List (κ × ℚ)
  | [] => [(key, units)]
  | (k, total) :: rest =>
      if k = key then (k, total + units) :: rest else (k, total) :: tally key units rest

/-! ## What the timesheet asks for -/

/-- `_contiguous_spans`, of the days after the first. -/
def contiguousSpans (spanStart spanEnd : ℤ) : List ℤ → List (ℤ × ℤ)
  | [] => [(spanStart, spanEnd)]
  | day :: days =>
      if day = spanEnd + 1 then contiguousSpans spanStart day days
      else (spanStart, spanEnd) :: contiguousSpans day day days

/-- The requests of one leave type: one for each contiguous run of its days, with the run's total. -/
def requestsOf (leaveTypeId description : String) (byDate : List (ℤ × ℚ)) :
    List LeaveRequestSpec :=
  match (byDate.map Prod.fst).insertionSort (· ≤ ·) with
  | [] => []
  | first :: days => (contiguousSpans first first days).map fun span =>
      { leaveTypeId := leaveTypeId
        startDate := span.1
        endDate := span.2
        totalUnits := quantize ((byDate.filter fun day =>
          span.1 ≤ day.1 && day.1 ≤ span.2).map Prod.snd).sum
        description := description }

abbrev ItemLine := PayLine × PayItem

/-- The keys of a list, each where it first stands. -/
def firsts {κ : Type} [DecidableEq κ] : List κ → List κ
  | [] => []
  | key :: keys => key :: (firsts keys).filter (· ≠ key)

/-- The lines' requests, leave type by leave type; a type is described by the item of its last line. -/
def leaveRequests (lines : List ItemLine) : List LeaveRequestSpec :=
  (firsts (lines.map fun line => line.2.xeroText)).flatMap fun leaveTypeId =>
    let own := lines.filter fun line => line.2.xeroText = leaveTypeId
    requestsOf leaveTypeId ((own.getLast?.map fun line => line.2.name).getD "")
      (own.foldl (fun totals line => tally line.1.accountingDate line.1.quantity totals) [])

def buildLeaveRequests (lines : List PayLine) : Except PayrollError (List LeaveRequestSpec) := do
  let items ← lines.mapM fun line => (requirePayItem line).map fun item => (line, item)
  pure (leaveRequests items)

/-- `_leave_payload`: the one leave shape Xero honours. -/
def leavePayload (spec : LeaveRequestSpec) (week : WeekWindow) : Except PayrollError LeavePayload :=
  if spec.endDate < spec.startDate then
    .error (.value "Leave ends %(end_date)s before it starts %(start_date)s")
  else if ¬(week.start ≤ spec.startDate ∧ spec.endDate ≤ week.finish) then
    .error (.value "Leave %(start_date)s-%(end_date)s falls outside the payroll week %(week)s")
  else if spec.totalUnits ≤ 0 then
    .error (.value "Leave total_units must be positive, got %(total_units)s")
  else .ok
    { leaveTypeId := spec.leaveTypeId
      description := if spec.description = "" then "Leave from %(start_date)s to %(end_date)s"
        else spec.description
      startDate := spec.startDate
      endDate := spec.endDate
      period := (week.start, week.finish)
      numberOfUnits := spec.totalUnits }

/-! ## What Xero holds -/

/-- How many calendar days two inclusive ranges have in common; zero or less is none. -/
def sharedDays (startA endA startB endB : ℤ) : ℤ := min endA endB - max startA startB + 1

/-- A period of a leave record added to its units inside the week, and whether there are any. -/
def addPeriod (week : WeekWindow) (found : Bool × ℚ) (period : LeavePeriod) :
    Except PayrollError (Bool × ℚ) :=
  match period.periodStartDate, period.periodEndDate with
  | some start, some finish =>
      if week.start ≤ start ∧ finish ≤ week.finish then
        match period.numberOfUnits with
        | some units => .ok (true, found.2 + units)
        | none => .error (.value "Xero leave %(leave_id)s period %(start)s has no number_of_units")
      else .ok found
  | _, _ => .error (.value "Xero leave %(leave_id)s has a period with an unreadable date range")

/-- The hours a leave record pays inside the week. -/
def unitsWithinWeek (leave : EmployeeLeave) (week : WeekWindow) : Except PayrollError ℚ :=
  if leave.periods = [] then .error (.value "Xero leave %(leave_id)s has no periods")
  else do
    let (matched, total) ← leave.periods.foldlM (addPeriod week) (false, 0)
    if matched then pure (quantize total)
    else .error (.value
      ("Xero leave %(leave_id)s (%(start_date)s to %(end_date)s) overlaps " ++
        "the payroll week %(week)s but carries no period inside it"))

structure DatedLeave where
  leave : EmployeeLeave
  start : ℤ
  finish : ℤ
deriving DecidableEq

def readDates (leave : EmployeeLeave) : Except PayrollError DatedLeave :=
  match leave.startDate, leave.endDate with
  | some start, some finish => .ok ⟨leave, start, finish⟩
  | _, _ => .error (.value "Xero leave %(leave_id)s has an unreadable date range")

/-- Inside the week from its first day to its last. -/
def DatedLeave.containedIn (dated : DatedLeave) (week : WeekWindow) : Bool :=
  week.start ≤ dated.start && dated.finish ≤ week.finish

/-- The employee's leave, sorted by how it sits against the week. -/
structure WeekLeave where
  contained : List DatedLeave
  spanning : List DatedLeave

/-- Leave sharing no day with the week is neither. -/
def sortLeave (leaves : List EmployeeLeave) (week : WeekWindow) : Except PayrollError WeekLeave := do
  let dated ← leaves.mapM readDates
  let overlapping := dated.filter fun dated =>
    0 < sharedDays dated.start dated.finish week.start week.finish
  pure ⟨overlapping.filter (·.containedIn week), overlapping.filter fun d => !d.containedIn week⟩

def weekLeave (employee : ℕ) (week : WeekWindow) : PayrollCall WeekLeave := do
  let leaves ← getEmployeeLeaves employee
  .compute (sortLeave leaves week)

/-- The hours Xero will pay for the leave of a week, spanning applications by their part in it. -/
def leaveTotal (held : WeekLeave) (week : WeekWindow) : Except PayrollError ℚ := do
  let units ← (held.contained ++ held.spanning).mapM fun dated => unitsWithinWeek dated.leave week
  pure (quantize units.sum)

def postedLeaveHours (employee : ℕ) (week : WeekWindow) : PayrollCall ℚ := do
  let held ← weekLeave employee week
  .compute (leaveTotal held week)

/-! ## Matching -/

/-- The identity leave is matched on. -/
structure LeaveKey where
  leaveTypeId : String
  start : ℤ
  finish : ℤ
  units : ℚ
deriving DecidableEq, Repr

def leaveKey (leaveTypeId : String) (start finish : ℤ) (units : ℚ) : LeaveKey :=
  ⟨leaveTypeId, start, finish, quantize units⟩

def LeaveRequestSpec.key (spec : LeaveRequestSpec) : LeaveKey :=
  leaveKey spec.leaveTypeId spec.startDate spec.endDate spec.totalUnits

def refuseLeaveUnderSpanningApplications (spanning : List DatedLeave)
    (desired : List LeaveRequestSpec) : Except PayrollError Unit :=
  if desired.any fun spec => spanning.any fun dated =>
      0 < sharedDays spec.startDate spec.endDate dated.start dated.finish then
    .error (.spanningLeaveOverlap
      ("%(staff_name)s has %(units)sh of %(description)s recorded for " ++
        "%(start)s to %(end)s, but Xero already holds leave " ++
        "request %(leave_id)s (%(xero_description)s, %(xero_start)s to " ++
        "%(xero_end)s) covering those days and reaching outside the payroll week. " ++
        "Posting would pay both. In Xero, go to Payroll then Leave, and either split " ++
        "that request at the week boundary and remove this week's part, or delete " ++
        "it and let the timesheet post it; then post to Xero again. Nothing was " ++
        "posted for this week."))
  else .ok ()

/-- One record held against the requests: one that matches takes its request, another is stale. -/
def matchOne (week : WeekWindow) (state : List LeaveRequestSpec × List DatedLeave)
    (dated : DatedLeave) : Except PayrollError (List LeaveRequestSpec × List DatedLeave) :=
  match dated.leave.leaveTypeId with
  | none => .error (.value "Xero leave %(leave_id)s has no leave_type_id")
  | some leaveTypeId => do
      let units ← unitsWithinWeek dated.leave week
      let key := leaveKey leaveTypeId dated.start dated.finish units
      if state.1.any fun spec => spec.key = key then
        pure (state.1.eraseP fun spec => spec.key = key, state.2)
      else pure (state.1, state.2 ++ [dated])

/-- The requests Xero holds no record of, and the records it holds for no request. -/
def matchHeld (week : WeekWindow) (desired : List LeaveRequestSpec) (contained : List DatedLeave) :
    Except PayrollError (List LeaveRequestSpec × List DatedLeave) :=
  contained.foldlM (matchOne week) (desired, [])

/-- How a request ranks as a stale record's replacement: the larger overlap, then the earlier
start. -/
def overlapRank (spec : LeaveRequestSpec) (start finish : ℤ) : ℤ × ℤ :=
  (-sharedDays spec.startDate spec.endDate start finish, spec.startDate)

def RankLT (r s : ℤ × ℤ) : Prop := r.1 < s.1 ∨ (r.1 = s.1 ∧ r.2 < s.2)

instance : DecidableRel RankLT := fun _ _ => inferInstanceAs (Decidable (_ ∨ _))

/-- The request that best overlaps a stale record, the first of equals. -/
def bestOverlap (leaveTypeId : String) (start finish : ℤ) (desired : List LeaveRequestSpec) :
    Option LeaveRequestSpec :=
  desired.foldl (fun best spec =>
    if spec.leaveTypeId ≠ leaveTypeId ∨
        sharedDays spec.startDate spec.endDate start finish ≤ 0 then best
    else match best with
      | none => some spec
      | some other =>
          if RankLT (overlapRank spec start finish) (overlapRank other start finish) then some spec
          else best) none

/-- What is done about a record or a request. -/
inductive LeaveChange where
  | update (leave : EmployeeLeave) (spec : LeaveRequestSpec)
  | delete (leave : EmployeeLeave)
  | create (spec : LeaveRequestSpec)
deriving DecidableEq

/-- Stale leave is updated to a request where one overlaps, else deleted; then the requests left are
created. -/
def changesFor : List DatedLeave → List LeaveRequestSpec → List LeaveChange
  | [], desired => desired.map .create
  | dated :: stale, desired =>
      match bestOverlap (dated.leave.leaveTypeId.getD "None") dated.start dated.finish desired with
      | some replacement =>
          .update dated.leave replacement :: changesFor stale (desired.erase replacement)
      | none => .delete dated.leave :: changesFor stale desired

/-- What the reconcile finds to do, of what Xero holds and the timesheet asks for. -/
def outlook (held : WeekLeave) (lines : List PayLine) (week : WeekWindow) :
    Except PayrollError (List LeaveChange) := do
  let desired ← buildLeaveRequests lines
  refuseLeaveUnderSpanningApplications held.spanning desired
  let (desired, stale) ← matchHeld week desired held.contained
  pure (changesFor stale desired)

/-! ## The reconcile -/

def isDraftPayRunLeaveBlock (error : PayrollError) : Bool :=
  let message := error.text.toLower.toList
  decide ("leave request".toList <:+: message) && decide ("draft pay run".toList <:+: message)

/-- The exception an update or a deletion is stopped by. -/
def blockedOr (error : PayrollError) : PayrollError :=
  if isDraftPayRunLeaveBlock error then .draftPayRunBlocksLeave
    ("Xero is blocking a payroll leave change: leave request %(leave_id)s " ++
      "(%(start)s to %(end)s) needs to be %(action)s to match the timesheet, but Xero " ++
      "locks leave while the employee is in a draft pay run, and draft pay runs " ++
      "cannot be deleted through Xero's API. In Xero go to Payroll then Pay runs, " ++
      "delete %(draft_pay_runs)s, then post to Xero again.")
  else error

/-- `_update_leave`, `_delete_leave` and `_create_leave`. -/
def makeChange (employee : ℕ) (week : WeekWindow) : LeaveChange → PayrollCall Unit
  | .update leave spec => .mapError blockedOr do
      let payload ← .compute (leavePayload spec week)
      updateEmployeeLeave employee leave.leaveId payload
  | .delete leave => .mapError blockedOr (deleteEmployeeLeave employee leave.leaveId)
  | .create spec => do
      let payload ← .compute (leavePayload spec week)
      let _ ← createEmployeeLeave employee spec payload

/-- Make the employee's Xero leave for the week match the timesheet. -/
def reconcileLeaveForStaffWeek (employee : ℕ) (lines : List PayLine) (week : WeekWindow) :
    PayrollCall Unit := do
  let held ← weekLeave employee week
  let changes ← .compute (outlook held lines week)
  changes.forM (makeChange employee week)

end Payroll

end Docketworks
