import Docketworks.Timesheet.Approval

/-!
# Filling and sending a day

`apps/timesheet/services/day_submission.py`: the rows a worker says his day in, laid out one after
another, and saved as entries.

* `FillRow`, `LaidLine` — a row, and the row with its place in the day.
* `layOutRows` — rows placed one after another, each stepping over the breaks.
* `submitDay` — the rows saved as entries, and the day sent.
-/

namespace Docketworks

open Library Library.Transaction

namespace Timesheet

/-- One thing the worker did: a job and how long, as he would say it. -/
structure FillRow where
  job : ℕ
  hours : ℚ
  description : Option String
  /-- He says so himself; nothing works overtime out. -/
  timeAndAHalf : Bool
deriving DecidableEq, Repr

/-- A row with its place in the day; one the day cannot hold has no times. -/
structure LaidLine where
  job : ℕ
  start : Option TimeOfDay
  finish : Option TimeOfDay
  hours : ℚ
  description : Option String
  timeAndAHalf : Bool
deriving DecidableEq, Repr

/-- Where a row begins and ends from the cursor on; nowhere once the day is full. -/
def placeRow (cursor : Option TimeOfDay) (hours : ℚ) (breaks : List Window) :
    Except Refusal (Option TimeOfDay × Option TimeOfDay) :=
  match cursor with
  | none => .ok (none, none)
  | some cursor => do
      let begins ← startAfterBreaks cursor breaks
      let ends ← finishInTheDay begins hours breaks
      pure (ends.map fun _ => begins, ends)

/-- `lay_out_rows`: rows placed one after another from the cursor, one entry a row. -/
def layOutRows (cursor : Option TimeOfDay) (breaks : List Window) :
    List FillRow → Except Refusal (List LaidLine)
  | [] => .ok []
  | row :: rows => do
      let (begins, ends) ← placeRow cursor row.hours breaks
      let rest ← layOutRows ends breaks rows
      pure (⟨row.job, begins, ends, row.hours, row.description, row.timeAndAHalf⟩ :: rest)

/-- The entry a laid line is saved as: it bills when its job can. -/
def rowEntry (day : ℤ) (job : WorkJob) (line : LaidLine) : WorkshopEntryCreateData where
  job := line.job
  accountingDate := day
  hours := line.hours
  startTime := line.start
  endTime := line.finish
  wageRateMultiplier := if line.timeAndAHalf then overtimeMultiplier else defaultMultiplier
  isBillable := billsItsTime job
  description := descriptionOrNone line.description

/-- `submit_day`: the worker's rows saved as entries, and the day sent. -/
def submitDay (actor worker : Staff) (day : ℤ) (rows : List FillRow) : TimesheetCall Unit := do
  .require (actor.id = worker.id ∨ actor.isOfficeStaff = true)
    (.accessDenied "Only office staff send another person's day.")
  let row ← settleDay worker day actor
  let lines ← .consult fun db => do
    let (entries, breakLines) := splitBreaks db.company (db.dayTimeLines worker.id day)
    let begins ← defaultEntryStart db.company day (some row) entries breakLines
    let breaks ← breakWindows db.company day (some row) breakLines
    layOutRows (some begins) breaks rows
  lines.forM fun line => do
    let job ← theWorkJob line.job
    let _ ← createEntry worker (rowEntry day job line) none none
    pure ()
  saveRow { row with submitted := true }

end Timesheet

end Docketworks
