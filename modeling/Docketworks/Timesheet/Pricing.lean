import Docketworks.Library.Context
import Docketworks.Timesheet.Workshop

/-!
# Pricing a time entry

The one rate resolution (`apps/job/services/time_entry_rates.py`) and the payroll terms it costs
salaried time by (`apps/accounts/services/payroll_terms.py`).

* `salaryTermOn`, `salaryCostRate`, `contractedHoursOn` — what a person is paid under on a date.
* `resolveXeroPayItemForJob` — the pay item of a job and a multiplier.
* `priceTimeEntry` — the rates, the multipliers and the pay item of an entry.

**Design.**  The overrides of a wage rate and of a pay item are left out: no timesheet write
passes one.
-/

namespace Docketworks

open Library

namespace Timesheet

/-! ## Payroll terms -/

/-- `_term_on`: the latest term effective on a date. -/
def termOn (staff : Staff) (day : ℤ) : Option PayrollTerm :=
  @List.argmax _ ℤ Int.instLinearOrder.toPreorder Int.instLinearOrder.toDecidableLT
    PayrollTerm.effectiveFrom (staff.payrollTerms.filter fun term => term.effectiveFrom ≤ day)

def salaryTermOn (staff : Staff) (day : ℤ) : Except Refusal PayrollTerm :=
  match termOn staff day with
  | none => .error (.validation
      ("%(staff)s's pay details for %(date)s haven't come across from Xero yet. " ++
        "Update from Xero before costing their time."))
  | some term =>
      if term.payBasis = .salary then .ok term
      else .error (.validation
        "%(staff)s was not salaried on %(date)s; their terms record %(pay_basis)s.")

def WorkingWeek.hours? (week : WorkingWeek) (day : ℕ) : Option ℚ :=
  (week.find? fun entry => entry.1 = day).map Prod.snd

/-- `_working_weeks`: the repeating pattern, with all seven days in every week. -/
def workingWeeks (term : PayrollTerm) : Except Refusal (List WorkingWeek) :=
  if term.workingWeeks = [] then
    .error (.validation "Xero working pattern is not configured for %(staff)s.")
  else if term.workingWeeks.all fun week => (List.range 7).all fun day => (week.hours? day).isSome
  then .ok term.workingWeeks
  else .error (.validation "Xero working pattern for %(staff)s is missing %(days)s.")

/-- The hours of a week of the pattern. -/
def WorkingWeek.total (week : WorkingWeek) : ℚ :=
  sumInContext ((List.range 7).map fun day => (week.hours? day).getD 0)

/-- Average contracted hours across the repeating pattern. -/
def averageWeeklyHours (term : PayrollTerm) : Except Refusal ℚ := do
  let weeks ← workingWeeks term
  let average := inContext (sumInContext (weeks.map WorkingWeek.total) / weeks.length)
  if average ≤ 0 then
    .error (.validation "Xero working pattern has no contracted hours for %(staff)s.")
  else .ok average

def salaryCostRate (company : Company) (term : PayrollTerm) : Except Refusal ℚ :=
  match term.annualSalary with
  | none => .error (.validation "Xero holds no annual salary for %(staff)s from %(date)s.")
  | some salary =>
      if salary = 0 then
        .error (.validation "Xero holds no annual salary for %(staff)s from %(date)s.")
      else do
        let average ← averageWeeklyHours term
        pure (roundHalfEven 2 (salary / 52 / average * (1 + company.labourCostLoading / 100)))

/-- Contracted hours for one day, from the terms where the day was salaried. -/
def contractedHoursOn (staff : Staff) (day : ℤ) : Except Refusal ℚ :=
  let roster := (staff.rosterHours[weekday day]?).getD 0
  match termOn staff day with
  | none =>
      if staff.payBasis = some .salary then .error (.validation
        ("%(staff)s's pay details haven't come across from Xero yet, so their " ++
          "contracted hours on %(date)s are unknown. Update from Xero."))
      else .ok roster
  | some term =>
      if term.payBasis = .salary then do
        let weeks ← workingWeeks term
        let week := weeks[((day - term.effectiveFrom) / 7 % weeks.length).toNat]?.getD []
        pure ((week.hours? (weekday day)).getD 0)
      else .ok roster

/-! ## Multipliers and pay items -/

def defaultMultiplier : ℚ := 1
def zeroMultiplier : ℚ := 0
/-- Time and a half: the rate hours past the usual day default to. -/
def overtimeMultiplier : ℚ := 3 / 2

/-- A multiplier to two decimal places. -/
def normalizeMultiplier (value : ℚ) : ℚ := roundHalfEven 2 value

/-- The bill multiplier a line's metadata implies. -/
def getBillRateMultiplier (payload : EntryMeta) (wageRateMultiplier : ℚ) : ℚ :=
  match payload.billRateMultiplier with
  | some explicit => normalizeMultiplier explicit
  | none =>
      if payload.isBillable then normalizeMultiplier wageRateMultiplier else zeroMultiplier

/-- `get_by_multiplier`: the earnings rate of a multiplier, by its usual name, else the first
connected one, else the first. -/
def getByMultiplier (db : Timesheets) (multiplier : ℚ) : Option PayItem :=
  let rates := db.payItems.rows.filter fun item =>
    !item.usesLeaveApi && item.multiplier = some multiplier
  let named (name : String) := rates.find? fun item => item.name = name && item.connected
  let usual :=
    if multiplier = defaultMultiplier then named "Ordinary Time"
    else if multiplier = overtimeMultiplier then named "Time and one half"
    else none
  usual.or ((rates.find? PayItem.connected).or rates.head?)

/-- The earnings rate of a wage multiplier. -/
def resolveXeroPayItem (db : Timesheets) (wageRateMultiplier : ℚ) : Except Refusal PayItem :=
  match getByMultiplier db (normalizeMultiplier wageRateMultiplier) with
  | some item => .ok item
  | none => .error
      (.validation "No Xero pay item found for wage_rate_multiplier=%(multiplier)s.")

/-- The item of a job's own, where it posts through the Leave API. -/
def leavePayItem (db : Timesheets) (job : WorkJob) : Option PayItem :=
  ((job.defaultPayItem.bind db.payItems.find?).filter PayItem.usesLeaveApi)

/-- The job's leave pay item or the earnings rate; none for a category Xero pays itself. -/
def resolveXeroPayItemForJob (db : Timesheets) (job : WorkJob) (wageRateMultiplier : ℚ) :
    Except Refusal (Option PayItem) :=
  if db.leaveTypes.rows.any fun leave =>
      leave.job = some job.id && leave.postingSurface = .xeroComputed then .ok none
  else match leavePayItem db job with
    | some item =>
        if item.connected then .ok (some item)
        else .error (.validation
          "Leave job '%(job)s' has Xero pay item '%(pay_item)s' with no xero_id.")
    | none => (resolveXeroPayItem db wageRateMultiplier).map some

/-- `LeaveType.for_pay_item`: the category an item posts, of those Xero does not pay itself. -/
def leaveTypeForPayItem (db : Timesheets) (item : ℕ) : Option LeaveType :=
  db.leaveTypes.rows.find? fun leave => leave.postingSurface ≠ .xeroComputed &&
    ((leave.job.bind db.jobs.find?).bind WorkJob.defaultPayItem) = some item

/-- Leave is paid once, or not at all, as its category says. -/
def leaveWageRateMultiplier (db : Timesheets) (item : PayItem) : Except Refusal ℚ :=
  match leaveTypeForPayItem db item.id with
  | some leave => .ok (if leave.code = .unpaid then zeroMultiplier else defaultMultiplier)
  | none => .error (.validation
      ("Xero leave type '%(name)s' is not mapped to a DocketWorks leave " ++
        "category, so whether it is paid is unknown. Map it under " ++
        "Timesheets -> Leave settings before booking time against it."))

/-- `is_unpaid_time`: logged time that is not hours. -/
def isUnpaidTime (db : Timesheets) (line : TimeLine) : Bool :=
  (line.payItem.bind db.payItems.find?).any fun item =>
    !item.usesLeaveApi && item.multiplier = some zeroMultiplier

/-! ## The price of an entry -/

/-- Everything a priced line needs. -/
structure TimeEntryPricing where
  unitCost : ℚ
  unitRev : ℚ
  wageRate : ℚ
  chargeOutRate : ℚ
  wageRateMultiplier : ℚ
  billRateMultiplier : ℚ
  payItem : Option PayItem
  labourSubtype : ℕ
  salaryTerm : Option ℕ

def TimeEntryPricing.isBillable (self : TimeEntryPricing) : Bool :=
  zeroMultiplier < self.billRateMultiplier

/-- `meta_updates`: what pricing writes on the metadata.  Salary terms once written stay. -/
def TimeEntryPricing.metaUpdates (self : TimeEntryPricing) (payload : EntryMeta) : EntryMeta :=
  { payload with
    wageRateMultiplier := self.wageRateMultiplier
    billRateMultiplier := some self.billRateMultiplier
    isBillable := self.isBillable
    wageRate := some self.wageRate
    chargeOutRate := some self.chargeOutRate
    salaryTerm := self.salaryTerm.or payload.salaryTerm }

/-- The line's labour: the one named, else the worker's default. -/
def resolveLabourSubtype (staff : Staff) (explicit : Option ℕ) : Except Refusal ℕ :=
  match explicit.or staff.defaultLabourSubtype with
  | some subtype => .ok subtype
  | none => .error (.validation
      ("labour_subtype is required for time entries and staff " ++
        "%(staff_id)s has no default_labour_subtype."))

def jobChargeOutRate (db : Timesheets) (job : WorkJob) (labourSubtype : ℕ) : Except Refusal ℚ :=
  match db.labourRates.find? (job.id, labourSubtype) with
  | some rate => .ok rate.chargeOutRate
  | none => .error (.validation "Job %(job_id)s has no labour rate for subtype %(subtype)s.")

/-- The hourly cost of a person's time: the salary's where there are terms, else the wage. -/
def staffWageRate (company : Company) (staff : Staff) (salaryTerm : Option PayrollTerm) :
    Except Refusal ℚ :=
  match salaryTerm with
  | some term => salaryCostRate company term
  | none =>
      if staff.wageRate = 0 then .error (.validation
        ("Wage rate is not configured for staff %(staff)s " ++
          "(%(staff_id)s); set their base wage rate before booking time."))
      else .ok staff.wageRate

/-- The two multipliers an entry is priced at.  Leave is paid at once, or not at all, and never
billed; so is what Xero pays itself. -/
def entryMultipliers (db : Timesheets) (payload : EntryMeta) (requested wage : ℚ) :
    Option PayItem → Except Refusal (ℚ × ℚ)
  | none => .ok (defaultMultiplier, zeroMultiplier)
  | some item =>
      if !item.connected then .error (.validation "Xero pay item '%(name)s' has no xero_id.")
      else if item.usesLeaveApi then do
        let wage ← leaveWageRateMultiplier db item
        pure (wage, zeroMultiplier)
      else .ok (wage, getBillRateMultiplier payload requested)

def priceTimeEntry (db : Timesheets) (job : WorkJob) (staff : Staff) (payload : EntryMeta)
    (labourSubtype : Option ℕ) : Except Refusal TimeEntryPricing := do
  let salaryTerm ←
    if staff.payBasis = some .salary then (salaryTermOn staff payload.date).map some else pure none
  let subtype ← resolveLabourSubtype staff labourSubtype
  let wageRate ← staffWageRate db.company staff salaryTerm
  let requested := normalizeMultiplier payload.wageRateMultiplier
  -- salary hours allocate a fixed cost: they never earn more than once, and unpaid stays unpaid
  let wage :=
    if staff.payBasis = some .salary ∧ requested ≠ zeroMultiplier then defaultMultiplier
    else requested
  let payItem ← resolveXeroPayItemForJob db job wage
  let (wage, bill) ← entryMultipliers db payload requested wage payItem
  let chargeOutRate ← jobChargeOutRate db job subtype
  let baseWage := roundHalfEven 2 wageRate
  let baseCharge := roundHalfEven 2 chargeOutRate
  pure
    { unitCost := roundHalfEven 2 (baseWage * normalizeMultiplier wage)
      unitRev := roundHalfEven 2 (baseCharge * normalizeMultiplier bill)
      wageRate := baseWage
      chargeOutRate := baseCharge
      wageRateMultiplier := wage
      billRateMultiplier := bill
      payItem := payItem
      labourSubtype := subtype
      salaryTerm := salaryTerm.map PayrollTerm.id }

end Timesheet

end Docketworks
