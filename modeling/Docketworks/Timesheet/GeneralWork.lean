import Docketworks.Timesheet.Entries

/-!
# General work and the writes to a day

The writes of `apps/timesheet/services/workshop_timesheet_service.py`: entries made, changed and
deleted, and the General work of a filled day rebuilt after each.

* `refillGeneralWork` — a filled day's General work made again where its gaps have changed.
* `createEntry`, `updateEntry`, `deleteEntry` — the entry writes.
* `moveTimeLine` — a line pointed at another job (`apps/job/services/job_service.py`).

**Design.**  `create_entry` and `refill_general_work` call each other in the source, never more
than once around: the rebuild books its lines as swept, and a swept line rebuilds nothing.  Here
the rebuild calls `bookEntry`.
-/

namespace Docketworks

open Library Library.Transaction

namespace Timesheet

/-! ## The General work of a day -/

/-- `general_work_job_id`: the job General work books to, refusing one that is not worked time. -/
def generalWorkJobId (db : Timesheets) : Except Refusal ℕ :=
  match db.company.generalWorkJob with
  | none => .error (.conflict
      ("General work isn't set up: there is no General work job yet. Ask an administrator " ++
        "to choose it in Company Defaults > Working Hours."))
  | some job =>
      if some job = db.company.breakJob ∨ job ∈ db.leaveJobIds then .error (.conflict
        ("General work is set to %(job)s, which is for breaks or leave, not worked time. " ++
          "Ask an administrator to choose another job in Company Defaults > Working Hours."))
      else .ok job

def deleteLine (line : TimeLine) : TimesheetCall Unit :=
  .write fun db => { db with lines := db.lines.erase line.id }

def Timesheets.fillLines (db : Timesheets) (owner : ℕ) (day : ℤ) : List TimeLine :=
  (db.dayTimeLines owner day).filter (isGeneralWorkFill db.company)

def Timesheets.otherLines (db : Timesheets) (owner : ℕ) (day : ℤ) : List TimeLine × List TimeLine :=
  splitBreaks db.company
    ((db.dayTimeLines owner day).filter fun line => !isGeneralWorkFill db.company line)

/-- The windows to fill; none while the person is still clocked in: the day has no end yet. -/
def Timesheets.windowsToFill (db : Timesheets) (owner : ℕ) (day : ℤ) (row : AttendanceDay) :
    Except Refusal (List Window) :=
  let (entries, breakLines) := db.otherLines owner day
  (unallocatedWindows db.company db.today day (some row) entries breakLines).map fun windows =>
    windows.getD []

/-- The fill lines hold the windows.  Compared as joined stretches: the overtime split cuts one gap
into two lines.  Their own minutes must add up to the joined ones too, or two lines over one
stretch would stand and pay it twice. -/
def fillStands (filled : List TimeLine) (windows : List Window) : Bool :=
  let current := filled.filterMap lineWindow
  let joined := mergedMinutes current
  current.length = filled.length && joined = mergedMinutes windows &&
    totalLength joined = totalLength (current.flatMap fun each => mergedMinutes [each])

/-- The hours the stretches hold. -/
def hoursIn (windows : List Window) : Except Refusal ℚ :=
  (windows.mapM fun window => hoursFor window.start window.finish []).map List.sum

/-- The entry a window is booked as; a shop job's time is billed to nobody. -/
def windowEntry (day : ℤ) (generalWork : ℕ) (window : Window) (hours : ℚ) :
    WorkshopEntryCreateData where
  job := generalWork
  accountingDate := day
  hours := hours
  startTime := some window.start
  endTime := some window.finish
  isBillable := false

def bookWindow (owner : Staff) (day : ℤ) (generalWork : ℕ) (window : Window) :
    TimesheetCall Unit := do
  let hours ← .consult fun _ => hoursFor window.start window.finish []
  let _ ← bookEntry owner (windowEntry day generalWork window hours) (some .sweptGeneralWork) none
  pure ()

/-- `refill_general_work`: make a filled day's General work the time on no job and no break, and
answer the hours made.  When the gaps are as they were nothing is touched. -/
def refillGeneralWork (owner : Staff) (day : ℤ) : TimesheetCall ℚ := do
  let row ← .read fun db => db.dayRow owner.id day
  match row with
  | none => pure 0
  | some row =>
      if row.generalWorkFill = false then pure 0
      else do
        let generalWork ← .consult generalWorkJobId
        let filled ← .read fun db => db.fillLines owner.id day
        let windows ← .consult fun db => db.windowsToFill owner.id day row
        if fillStands filled windows = true then pure 0
        else do
          filled.forM deleteLine
          windows.forM (bookWindow owner day generalWork)
          .consult fun _ => hoursIn windows

/-! ## Making an entry -/

def createEntry (owner : Staff) (data : WorkshopEntryCreateData) (source : Option EntrySource)
    (managedBy : Option CostLineOwner) : TimesheetCall TimeLine := do
  let line ← bookEntry owner data source managedBy
  .when (source ≠ some .sweptGeneralWork) do
    let _ ← refillGeneralWork owner data.accountingDate
    pure ()
  pure line

/-! ## Changing an entry -/

/-- Validated partial update payload: a field that is none is not in the patch. -/
structure WorkshopEntryUpdateData where
  entry : ℕ
  job : Option ℕ := none
  accountingDate : Option ℤ := none
  hours : Option ℚ := none
  description : Option (Option String) := none
  startTime : Option (Option TimeOfDay) := none
  endTime : Option (Option TimeOfDay) := none
  isBillable : Option Bool := none
  wageRateMultiplier : Option ℚ := none
  billRateMultiplier : Option ℚ := none
  labourSubtype : Option ℕ := none
deriving DecidableEq, Repr

/-- Refuse a change to someone else's entry by anyone but the office. -/
def refuseAnotherPersonsEntry (line : TimeLine) (actor : Staff) (refusal : String) :
    Except Refusal Unit :=
  if line.payload.staffId ≠ actor.id ∧ actor.isOfficeStaff = false then
    .error (.accessDenied refusal)
  else .ok ()

/-- Refuse generic editing of costs owned by an operational workflow. -/
def refuseWorkflowManaged (line : TimeLine) : Except Refusal Unit :=
  match line.managedBy with
  | some .leave => .error (.invalidInput
      "This line belongs to a leave request; %(remedy)s it from Timesheets → Leave.")
  | some _ => .error (.invalidInput
      "This line belongs to a stock movement; correct it through purchasing.")
  | none => .ok ()

/-- `_editable_line`: a line the actor may edit. -/
def editableLine (actor : Staff) (entry : ℕ) : TimesheetCall TimeLine := do
  let line ← theLine entry
  .consult fun _ => refuseAnotherPersonsEntry line actor
    "You can only update your own timesheet entries."
  .consult fun _ => refuseWorkflowManaged line
  pure line

/-- `_apply_scalar_changes`: the patch fields that price nothing. -/
def applyScalarChanges (line : TimeLine) (data : WorkshopEntryUpdateData) :
    Except Refusal TimeLine := do
  if let some hours := data.hours then refuseBadHours hours
  pure
    { line with
      desc := (data.description.map descriptionOrNone).getD line.desc
      quantity := data.hours.getD line.quantity
      accountingDate := data.accountingDate.getD line.accountingDate
      payload :=
        { line.payload with
          date := data.accountingDate.getD line.payload.date
          startTime := data.startTime.getD line.payload.startTime
          endTime := data.endTime.getD line.payload.endTime } }

/-- The patch changes something that prices nothing. -/
def WorkshopEntryUpdateData.changesScalar (data : WorkshopEntryUpdateData) : Bool :=
  data.description.isSome || data.hours.isSome || data.accountingDate.isSome ||
    data.startTime.isSome || data.endTime.isSome

/-- The patch changes what the line is priced by. -/
def WorkshopEntryUpdateData.changesBilling (data : WorkshopEntryUpdateData) : Bool :=
  data.labourSubtype.isSome || data.isBillable.isSome || data.wageRateMultiplier.isSome ||
    data.billRateMultiplier.isSome

/-- The billable flag of a patch: billable again, the charge is derived again. -/
def applyIsBillable (isBillable : Option Bool) (payload : EntryMeta) : EntryMeta :=
  match isBillable with
  | some true => { payload with isBillable := true, billRateMultiplier := none }
  | some false => { payload with isBillable := false, billRateMultiplier := some 0 }
  | none => payload

/-- The wage multiplier of a patch: the charge is derived again where none is given with it. -/
def applyWageRate (wage bill : Option ℚ) (payload : EntryMeta) : EntryMeta :=
  match wage with
  | some wage =>
      { payload with
        wageRateMultiplier := wage
        billRateMultiplier := if bill = none then none else payload.billRateMultiplier }
  | none => payload

/-- The bill multiplier of a patch. -/
def applyBillRate (bill : Option ℚ) (payload : EntryMeta) : EntryMeta :=
  match bill with
  | some bill =>
      { payload with
        billRateMultiplier := some (normalizeMultiplier bill)
        isBillable := zeroMultiplier < normalizeMultiplier bill }
  | none => payload

/-- `_apply_billing_changes`: the patch fields that price. -/
def applyBillingChanges (db : Timesheets) (line : TimeLine) (data : WorkshopEntryUpdateData) :
    Except Refusal TimeLine := do
  refuseUnknownSubtype db data.labourSubtype
  pure
    { line with
      labourSubtype := data.labourSubtype.getD line.labourSubtype
      payload := applyBillRate data.billRateMultiplier
        (applyWageRate data.wageRateMultiplier data.billRateMultiplier
          (applyIsBillable data.isBillable line.payload)) }

/-- `move_time_line`: point an entry at another job.  A job that cannot bill takes the charge off;
leaving one, the stored zero goes, unless the request set its own billing. -/
def moveTimeLine (line : TimeLine) (source destination : WorkJob) (billingExplicit : Bool) :
    TimeLine :=
  { line with
    job := destination.id
    payload :=
      if !billsItsTime destination then
        { line.payload with isBillable := false, billRateMultiplier := some 0 }
      else if !billsItsTime source && !billingExplicit then
        { line.payload with isBillable := true, billRateMultiplier := none }
      else line.payload }

/-- `_charge_urgent_at_least`: a dropped charge is derived as on create. -/
def chargeUrgentAtLeast (job : WorkJob) (payload : EntryMeta) : EntryMeta :=
  if job.isUrgent ∧ payload.billRateMultiplier = none ∧ payload.isBillable then
    { payload with billRateMultiplier := some (max urgentCharge payload.wageRateMultiplier) }
  else payload

/-- The line at its new price. -/
def reprice (db : Timesheets) (owner : Staff) (job : WorkJob) (line : TimeLine) :
    Except Refusal TimeLine := do
  let payload := chargeUrgentAtLeast job line.payload
  let pricing ← priceTimeEntry db job owner payload (some line.labourSubtype)
  pure
    { line with
      unitCost := pricing.unitCost
      unitRev := pricing.unitRev
      payItem := pricing.payItem.map PayItem.id
      labourSubtype := pricing.labourSubtype
      payload := pricing.metaUpdates payload }

/-- The patch moves the finish: `_MOVES_THE_FINISH`. -/
def WorkshopEntryUpdateData.movesTheFinish (data : WorkshopEntryUpdateData) : Bool :=
  data.hours.isSome || data.startTime.isSome || data.accountingDate.isSome

/-- Refuse a break that ends before it starts. -/
def requireBreakTimes (start finish : TimeOfDay) : Except Refusal Unit :=
  if finish ≤ start then .error (.invalidInput "A break finishes after it starts.") else .ok ()

def TimeLine.withTimes (line : TimeLine) (start finish : Option TimeOfDay) : TimeLine :=
  { line with payload := { line.payload with startTime := start, endTime := finish } }

/-- `_redraw_finish`: an edited entry's finish redrawn from its hours; a given finish is fitted
instead, and a break's times are its own. -/
def redrawFinish (db : Timesheets) (data : WorkshopEntryUpdateData) (line : TimeLine) :
    Except Refusal TimeLine :=
  if (data.movesTheFinish || data.endTime.isSome) = false then .ok line
  else if some line.job = db.company.breakJob then do
    if let (some start, some finish) := (line.payload.startTime, line.payload.endTime) then
      requireBreakTimes start finish
    pure line
  else do
    let windows ← db.dayBreakWindows line.staff line.accountingDate
    match line.payload.startTime with
    | some start =>
        if data.endTime.isSome || !data.movesTheFinish then
          fitted line windows
        else do
          let finish ← finishInTheDay start line.quantity windows
          pure (line.withTimes (finish.map fun _ => start) finish)
    | none => fitted line windows
where
  /-- Fitted on the merged entry, not the patch alone. -/
  fitted (line : TimeLine) (windows : List Window) : Except Refusal TimeLine := do
    let (start, finish) ← fitTimes (db.clockChangeMinutes line.accountingDate)
      line.payload.startTime line.payload.endTime line.quantity windows
    pure (line.withTimes start finish)

/-- `mark_break_edited`: no longer the default the finish may take away. -/
def markBreakEdited (payload : EntryMeta) : EntryMeta :=
  if payload.source = some .untouchedStandardBreak then
    { payload with source := some .editedStandardBreak }
  else payload

/-- Refuse new times or hours for a line of General work. -/
def refuseFillTimes (company : Company) (line : TimeLine) (data : WorkshopEntryUpdateData) :
    Except Refusal Unit :=
  if isGeneralWorkFill company line ∧
      (data.startTime.isSome || data.endTime.isSome || data.hours.isSome) = true then
    .error (.invalidInput
      ("General work fills the time not on a job or a break. " ++
        "Change the entries or breaks around it."))
  else .ok ()

def patchedLine (db : Timesheets) (owner : Staff) (source : WorkJob) (line : TimeLine)
    (data : WorkshopEntryUpdateData) : Except Refusal TimeLine := do
  refuseFillTimes db.company line data
  let scalars ← applyScalarChanges { line with approved := false } data
  let billing ← applyBillingChanges db scalars data
  let destination ← db.findJob (data.job.getD line.job)
  let moves : Bool := destination.id ≠ source.id
  let moved :=
    if moves then
      moveTimeLine billing source destination
        (data.isBillable.isSome || data.billRateMultiplier.isSome)
    else billing
  let priced ← if moves || data.changesBilling then reprice db owner destination moved else pure moved
  if (data.changesScalar || moves || data.changesBilling) = false then
    .error (.value "No changes supplied.")
  else do
    let redrawn ← redrawFinish db data priced
    let edited := { redrawn with payload := markBreakEdited redrawn.payload }
    saveValidated db edited destination
    pure edited

def updateEntry (actor : Staff) (data : WorkshopEntryUpdateData) : TimesheetCall Unit := do
  let line ← editableLine actor data.entry
  let owner ← theStaff line.staff
  let source ← theWorkJob line.job
  let edited ← .consult fun db => patchedLine db owner source line data
  .write fun db => { db with lines := db.lines.put edited }
  [line.accountingDate, edited.accountingDate].dedup.forM fun day => do
    let _ ← refillGeneralWork owner day
    pure ()

/-! ## Deleting an entry -/

/-- `_general_work_off`: one fill line deleted is the day's fill turned off. -/
def generalWorkOff (owner : Staff) (day : ℤ) : TimesheetCall Unit := do
  let row ← .read fun db => db.dayRow owner.id day
  if let some row := row then
    .write fun db => { db with attendance := db.attendance.put { row with generalWorkFill := false } }
  let filled ← .read fun db => db.fillLines owner.id day
  filled.forM deleteLine

def deleteEntry (actor : Staff) (entry : ℕ) (managedBy : Option CostLineOwner) :
    TimesheetCall Unit := do
  let line ← theLine entry
  let owner ← theStaff line.staff
  .consult fun _ => refuseAnotherPersonsEntry line actor
    "You can only delete your own timesheet entries."
  .consult fun _ => if line.managedBy ≠ managedBy then refuseWorkflowManaged line else .ok ()
  let company ← .read Timesheets.company
  if isGeneralWorkFill company line then generalWorkOff owner line.accountingDate
  else do
    deleteLine line
    let _ ← refillGeneralWork owner line.accountingDate
    pure ()

end Timesheet

end Docketworks
