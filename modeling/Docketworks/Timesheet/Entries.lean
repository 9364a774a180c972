import Docketworks.Timesheet.Pricing

/-!
# Writing a time entry

How an entry's times are fitted to its hours, where its hours pass the usual day, and how its
lines are saved (`apps/timesheet/services/workshop_timesheet_service.py`).

* `fitTimes`, `placed` — the times of an entry, given or not.
* `overtimeHours`, `splitOff`, `overtimePart` — how many of its hours are past the usual day.
* `splitAtOvertime` — the two lines an entry is split into there.
* `bookEntry` — `create_entry` as far as the rebuild of General work.

**Design.**  Who saves an entry is only on its trail, so `bookEntry` takes no actor.  Where the
source leaves a key out of its data the field here is none, or the default the source reads it
with.
-/

namespace Docketworks

open Library Library.Transaction

namespace Timesheet

/-- Validated create payload. -/
structure WorkshopEntryCreateData where
  job : ℕ
  accountingDate : ℤ
  hours : ℚ
  description : Option String := none
  startTime : Option TimeOfDay := none
  endTime : Option TimeOfDay := none
  isBillable : Bool := true
  wageRateMultiplier : ℚ := defaultMultiplier
  billRateMultiplier : Option ℚ := none
  labourSubtype : Option ℕ := none
deriving DecidableEq, Repr

/-! ## Times -/

def timeAgreementTolerance : ℚ := 1 / 100

/-- The hours between two times, less the breaks and with what the clocks moved. -/
def elapsedHours (clockChange : TimeOfDay → TimeOfDay → ℤ) (start finish : TimeOfDay)
    (breaks : List Window) : ℚ :=
  (((finish.sinceMidnight : ℚ) - start.sinceMidnight) / (60 * 1000000) + clockChange start finish -
    breakMinutesIn ⟨start, finish⟩ breaks) / 60

/-- `_fit_times`: the entry's times moved to hold its hours. -/
def fitTimes (clockChange : TimeOfDay → TimeOfDay → ℤ) (start finish : Option TimeOfDay) (hours : ℚ)
    (breaks : List Window) : Except Refusal (Option TimeOfDay × Option TimeOfDay) :=
  match start, finish with
  | some start, some finish => do
      let start ← startAfterBreaks start breaks
      if start < finish ∧ hours - elapsedHours clockChange start finish breaks ≤
          timeAgreementTolerance then
        pure (some start, some finish)
      else match ← finishInTheDay start hours breaks with
        | none => pure (none, none)
        | some finish => pure (some start, some finish)
  | start, finish => .ok (start, finish)

/-- What the calendar opens on when the day has no standard hours. -/
def calendarWeekendSpan : Window :=
  ⟨.ofMinutes (7 * 60) (by decide), .ofMinutes (15 * 60) (by decide)⟩

/-- The standard start, or on a weekend the hour the calendar opens on. -/
def standardEntryStart (company : Company) (day : ℤ) : TimeOfDay :=
  ((standardDay company day).getD calendarWeekendSpan).start

/-- Where the next entry starts: after the latest one, else at the clock-in, else at the standard
start; and past the break it would fall in. -/
def defaultEntryStart (company : Company) (day : ℤ) (row : Option AttendanceDay)
    (entries breakLines : List TimeLine) : Except Refusal TimeOfDay := do
  let finishes := ((entries.filter fun line => !isGeneralWorkFill company line).filterMap
    lineWindow).map Window.finish
  let start := (finishes.argmax TimeOfDay.sinceMidnight).getD
    ((row.map AttendanceDay.clockIn).getD (standardEntryStart company day))
  let breaks ← breakWindows company day row breakLines
  startAfterBreaks start breaks

def Timesheets.nextEntryStart (db : Timesheets) (owner : ℕ) (day : ℤ) : Except Refusal TimeOfDay :=
  let (entries, breakLines) := splitBreaks db.company (db.dayTimeLines owner day)
  defaultEntryStart db.company day (db.dayRow owner day) entries breakLines

/-- `_placed`: hours given without times go after the latest entry, stepping over the breaks. -/
def placed (db : Timesheets) (owner : Staff) (data : WorkshopEntryCreateData) :
    Except Refusal WorkshopEntryCreateData := do
  let start ← db.nextEntryStart owner.id data.accountingDate
  let breaks ← db.dayBreakWindows owner.id data.accountingDate
  match ← finishInTheDay start data.hours breaks with
  | none => pure data
  | some finish => pure { data with startTime := some start, endTime := some finish }

/-- The times of a new entry: leave keeps none, and a break keeps those it was given. -/
def withTimes (db : Timesheets) (owner : Staff) (managedBy : Option CostLineOwner)
    (data : WorkshopEntryCreateData) : Except Refusal WorkshopEntryCreateData :=
  if data.startTime = none ∧ data.endTime = none then
    if managedBy ≠ some .leave then placed db owner data else .ok data
  else if some data.job ≠ db.company.breakJob then do
    let breaks ← db.dayBreakWindows owner.id data.accountingDate
    let (start, finish) ← fitTimes (db.clockChangeMinutes data.accountingDate) data.startTime
      data.endTime data.hours breaks
    pure { data with startTime := start, endTime := finish }
  else .ok data

/-! ## Overtime -/

def urgentCharge : ℚ := 3 / 2

/-- The smallest piece an entry is split into at the overtime point. -/
def smallestSplit : ℚ := 1 / 4

/-- How many of `hours` go at overtime once a split under a quarter hour is undone: the whole goes
to the rate of its larger part. -/
def splitOff (hours overtime : ℚ) : ℚ :=
  let ordinary := hours - overtime
  if 0 < min overtime ordinary ∧ min overtime ordinary < smallestSplit then
    if ordinary < overtime then hours else 0
  else overtime

/-- Whether the day is a public holiday for the person: the office closure gave them its holiday. -/
def onAPublicHoliday (db : Timesheets) (owner : Staff) (day : ℤ) : Bool :=
  match (db.leaveTypes.find? .publicHoliday).bind LeaveType.job with
  | none => false
  | some holidayJob => (db.dayTimeLines owner.id day).any fun line =>
      line.managedBy = some .leave && line.job = holidayJob

/-- The hours already worked on a day: time on jobs, which a break or leave is not.  The General
work filling the day counts only where `generalWorkCounts`. -/
def hoursWorked (db : Timesheets) (owner : Staff) (day : ℤ) (generalWorkCounts : Bool) : ℚ :=
  (((splitBreaks db.company (db.dayTimeLines owner.id day)).1.filter fun line =>
    !db.leaveJobIds.contains line.job &&
      (generalWorkCounts || !isGeneralWorkFill db.company line)).map TimeLine.quantity).sum

/-- How many of `hours`, added to `worked`, fall past the usual day: the company's start to stop
for the weekday, and none of it on a public holiday. -/
def overtimeHours (db : Timesheets) (owner : Staff) (day : ℤ) (hours worked : ℚ) :
    Except Refusal ℚ :=
  match standardDay db.company day with
  | none => .ok 0
  | some standard =>
      if owner.payBasis = some .salary then .ok 0
      else if onAPublicHoliday db owner day then .ok hours
      else do
        let usual ← hoursFor standard.start standard.finish []
        pure (min hours (max (hours - (usual - worked)) 0))

/-- How many of a new entry's hours default to time and a half. -/
def overtimePart (db : Timesheets) (owner : Staff) (day : ℤ) (hours wageRateMultiplier : ℚ)
    (job : ℕ) : Except Refusal ℚ :=
  if wageRateMultiplier ≠ defaultMultiplier ∨ some job = db.company.breakJob ∨
      job ∈ db.leaveJobIds then .ok 0
  else do
    let worked := hoursWorked db owner day (some job = db.company.generalWorkJob)
    let overtime ← overtimeHours db owner day hours worked
    pure (splitOff hours overtime)

/-- `_at_overtime`: the entry at time and a half, charged at least that when it is billed at all. -/
def atOvertime (data : WorkshopEntryCreateData) : WorkshopEntryCreateData :=
  { data with
    wageRateMultiplier := overtimeMultiplier
    billRateMultiplier :=
      if data.isBillable then data.billRateMultiplier.map fun given => max given overtimeMultiplier
      else data.billRateMultiplier }

/-- An urgent job is charged at time and a half whoever books it. -/
def chargedUrgent (job : WorkJob) (data : WorkshopEntryCreateData) : WorkshopEntryCreateData :=
  if job.isUrgent ∧ data.billRateMultiplier = none ∧ data.isBillable then
    { data with billRateMultiplier := some urgentCharge }
  else data

/-- `_split_at_overtime`: the ordinary part, then the rest, split where the ordinary hours end. -/
def splitAtOvertime (db : Timesheets) (owner : Staff) (data : WorkshopEntryCreateData)
    (overtime : ℚ) : Except Refusal (WorkshopEntryCreateData × WorkshopEntryCreateData) :=
  let ordinary := { data with hours := data.hours - overtime }
  let late := { atOvertime data with hours := overtime }
  match data.startTime, data.endTime with
  | some start, some _ => do
      let breaks ← db.dayBreakWindows owner.id data.accountingDate
      match ← finishInTheDay start ordinary.hours breaks with
      | none => .error (.value "Hours ending at %(end)s split past midnight from %(start)s")
      | some split => do
          let resumes ← startAfterBreaks split breaks
          pure ({ ordinary with endTime := some split }, { late with startTime := some resumes })
  | _, _ => .ok (ordinary, late)

/-! ## Saving -/

/-- What a priced line is refused for when it is saved. -/
def saveValidated (db : Timesheets) (line : TimeLine) (job : WorkJob) : Except Refusal Unit :=
  if job.shopJob ∧ line.unitRev ≠ 0 then .error (.validation
    ("Shop jobs cannot have revenue. Got unit_rev=%(unit_rev)s " ++
      "for job '%(job_name)s' (job_number=%(job_number)s)"))
  else if job.shopJob ∧ line.payload.isBillable then .error (.validation
    ("Shop job time entries cannot be billable. " ++
      "Job '%(job_name)s' (job_number=%(job_number)s)"))
  else if ¬Fits 10 3 line.quantity then .error (.validation "quantity")
  else if ¬Fits 10 2 line.unitCost then .error (.validation "unit_cost")
  else if ¬Fits 10 2 line.unitRev then .error (.validation "unit_rev")
  else if 255 < (line.desc.getD "").length then .error (.validation "desc")
  else
    let xeroComputed := db.leaveTypes.rows.any fun leave =>
      leave.job = some job.id && leave.postingSurface = .xeroComputed
    if xeroComputed ∧ line.payItem ≠ none then .error (.validation
      ("%(leave_type)s is paid by Xero's own calculation, so its " ++
        "time entries must not name a Xero pay item."))
    else if ¬xeroComputed ∧ line.payItem = none then
      .error (.validation "Actual time entries must have xero_pay_item set.")
    else .ok ()

def descriptionOrNone (description : Option String) : Option String :=
  description.filter fun text => text ≠ ""

/-- `pricing_meta`, with the mark and the times of the entry. -/
def pricingMeta (owner : Staff) (data : WorkshopEntryCreateData) (source : Option EntrySource) :
    EntryMeta where
  staffId := owner.id
  date := data.accountingDate
  isBillable := data.isBillable
  wageRateMultiplier := data.wageRateMultiplier
  billRateMultiplier := data.billRateMultiplier
  source := source
  startTime := data.startTime
  endTime := data.endTime

def entryLine (id : ℕ) (owner : Staff) (job : WorkJob) (data : WorkshopEntryCreateData)
    (source : Option EntrySource) (managedBy : Option CostLineOwner) (pricing : TimeEntryPricing) :
    TimeLine where
  id := id
  job := job.id
  staff := owner.id
  accountingDate := data.accountingDate
  quantity := data.hours
  unitCost := pricing.unitCost
  unitRev := pricing.unitRev
  desc := descriptionOrNone data.description
  -- waiting, whoever enters it; leave is approved when it is made
  approved := managedBy.isSome
  payItem := pricing.payItem.map PayItem.id
  labourSubtype := pricing.labourSubtype
  managedBy := managedBy
  payload := pricing.metaUpdates (pricingMeta owner data source)

/-- A labour subtype that is named exists. -/
def refuseUnknownSubtype (db : Timesheets) (labourSubtype : Option ℕ) : Except Refusal Unit :=
  if labourSubtype.all fun subtype => db.labourSubtypes.contains subtype then .ok ()
  else .error (.doesNotExist "LabourSubtype")

def pricedEntryLine (db : Timesheets) (owner : Staff) (job : WorkJob)
    (data : WorkshopEntryCreateData) (source : Option EntrySource)
    (managedBy : Option CostLineOwner) : Except Refusal TimeLine := do
  refuseUnknownSubtype db data.labourSubtype
  let pricing ← priceTimeEntry db job owner (pricingMeta owner data source) data.labourSubtype
  let line := entryLine db.fresh owner job data source managedBy pricing
  saveValidated db line job
  pure line

/-- Store a new line under its key. -/
def insertLine (line : TimeLine) : TimesheetCall Unit := do
  let lines ← .read Timesheets.lines
  let lines ← .orRefuse (lines.insert? line) (.database "job_costline_pkey")
  .write fun db => { db with lines := lines, fresh := line.id + 1 }

/-- `_save_entry`: price and save one time line. -/
def saveEntry (owner : Staff) (job : WorkJob) (data : WorkshopEntryCreateData)
    (source : Option EntrySource) (managedBy : Option CostLineOwner) : TimesheetCall TimeLine := do
  let line ← .consult fun db => pricedEntryLine db owner job data source managedBy
  insertLine line
  pure line

/-- An entry as it is saved: whole at one rate, or the ordinary part and the rest. -/
inductive EntryLines where
  | whole (data : WorkshopEntryCreateData)
  | split (ordinary late : WorkshopEntryCreateData)

/-- The lines of an entry, by how many of its hours are overtime. -/
def entryLines (db : Timesheets) (owner : Staff) (job : WorkJob) (managedBy : Option CostLineOwner)
    (data : WorkshopEntryCreateData) : Except Refusal EntryLines := do
  let data ← withTimes db owner managedBy data
  refuseOutsideEmployment owner data.accountingDate
  let overtime ← overtimePart db owner data.accountingDate data.hours data.wageRateMultiplier job.id
  let data := chargedUrgent job data
  if overtime = 0 then pure (.whole data)
  else if overtime = data.hours then pure (.whole (atOvertime data))
  else do
    let (ordinary, late) ← splitAtOvertime db owner data overtime
    pure (.split ordinary late)

/-- `create_entry`, as far as the rebuild of General work. -/
def bookEntry (owner : Staff) (data : WorkshopEntryCreateData) (source : Option EntrySource)
    (managedBy : Option CostLineOwner) : TimesheetCall TimeLine := do
  .consult fun _ => refuseBadHours data.hours
  let job ← theWorkJob data.job
  let lines ← .consult fun db => entryLines db owner job managedBy data
  match lines with
  | .whole data => saveEntry owner job data source managedBy
  | .split ordinary late => do
      let line ← saveEntry owner job ordinary source managedBy
      let _ ← saveEntry owner job late source managedBy
      pure line

end Timesheet

end Docketworks
