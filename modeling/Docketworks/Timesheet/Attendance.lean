import Docketworks.Job.CostLine
import Docketworks.Timesheet.Clock

/-!
# A person's day

The reading side of `apps/timesheet/services/attendance.py`: the company's working day, the row a
person clocked, the time lines of the day, and the stretches of it that are on no line.

* `Company` — the working hours and the standard breaks of `CompanyDefaults`.
* `AttendanceDay`, `TimeLine` — the clocked day, and a line of time on an actual cost set.
* `daySpan`, `breakWindows` — the span of the day, and its breaks.
* `occupiedWindows` — the breaks, the timed entries, and the untimed ones laid out around them.
* `unallocatedWindows` — the stretches that hold no entry and no break.

**Design.**  A time line is the view of a cost line its timesheet has: the job of its cost set in
place of the cost set, and the metadata the timesheet writes as fields.  Its number in the day and
the trail of events are left out: nothing here reads them.
-/

namespace Docketworks

open Library

namespace Timesheet

/-! ## Rows -/

/-- The company's working hours and standard breaks, and what its timesheets are set to. -/
structure Company where
  mon : Window
  tue : Window
  wed : Window
  thu : Window
  fri : Window
  /-- When each standard break starts, and its length in minutes: 0 for none. -/
  morningBreak : TimeOfDay × ℕ
  lunch : TimeOfDay × ℕ
  afternoonBreak : TimeOfDay × ℕ
  breakJob : Option ℕ
  generalWorkJob : Option ℕ
  weekendTimesheetsEnabled : Bool
  labourCostLoading : ℚ
deriving DecidableEq, Repr

/-- When one person was at work on one day; a finish is after the start. -/
structure AttendanceDay where
  staff : ℕ
  date : ℤ
  clockIn : TimeOfDay
  clockOut : Option TimeOfDay
  submitted : Bool
  breaksGenerated : Bool
  generalWorkFill : Bool
  finish_after_start : ∀ finish ∈ clockOut, clockIn < finish
deriving DecidableEq

/-- A person has one row a day. -/
def AttendanceDay.key (row : AttendanceDay) : ℕ × ℤ := (row.staff, row.date)

/-- Where a line nobody typed came from. -/
inductive EntrySource where
  | untouchedStandardBreak
  | editedStandardBreak
  | sweptGeneralWork
deriving DecidableEq, Repr

/-- The metadata a timesheet write sets on its line. -/
structure EntryMeta where
  staffId : ℕ
  date : ℤ
  isBillable : Bool
  wageRateMultiplier : ℚ
  billRateMultiplier : Option ℚ
  source : Option EntrySource := none
  startTime : Option TimeOfDay := none
  endTime : Option TimeOfDay := none
  /-- The rates and the salary terms the line was priced at. -/
  wageRate : Option ℚ := none
  chargeOutRate : Option ℚ := none
  salaryTerm : Option ℕ := none
deriving DecidableEq, Repr

/-- A line of a person's time on the actual costs of a job. -/
structure TimeLine where
  id : ℕ
  job : ℕ
  staff : ℕ
  accountingDate : ℤ
  quantity : ℚ
  unitCost : ℚ
  unitRev : ℚ
  desc : Option String
  approved : Bool
  payItem : Option ℕ
  labourSubtype : ℕ
  managedBy : Option CostLineOwner
  /-- The column `meta`. -/
  payload : EntryMeta
deriving DecidableEq, Repr

/-! ## The span of a day -/

/-- The day of the week, from Monday; days are counted from one. -/
def weekday (day : ℤ) : ℕ := (day % 7).toNat

/-- The company's standard start and finish for the date; none on a weekend. -/
def standardDay (company : Company) (day : ℤ) : Option Window :=
  [company.mon, company.tue, company.wed, company.thu, company.fri][weekday day]?

/-- The day's working span: its clock times, the defaults for what was not clocked. -/
def daySpan (company : Company) (today day : ℤ) (row : Option AttendanceDay) : Option Window :=
  let standard := standardDay company day
  match row with
  | none => standard
  | some row =>
      match row.clockOut with
      | some clockOut => some ⟨row.clockIn, clockOut⟩
      | none =>
          match standard with
          | some standard =>
              if today ≤ day ∨ standard.finish ≤ row.clockIn then none
              else some ⟨row.clockIn, standard.finish⟩
          | none => none

/-! ## Breaks -/

/-- One of the workshop's standard breaks, with what its line says. -/
structure StandardBreak where
  window : Window
  paid : Bool
  description : String
deriving DecidableEq, Repr

def standardBreak (start : TimeOfDay) (minutes : ℕ) (paid : Bool) (description : String) :
    Except Refusal StandardBreak := do
  let finish ← timeOf (start.minutes + minutes)
  pure ⟨⟨start, finish⟩, paid, description⟩

/-- `_default_breaks`: the standard breaks, less those of no length. -/
def defaultBreaks (company : Company) : Except Refusal (List StandardBreak) :=
  ([(company.morningBreak, true, "Paid break"), (company.lunch, false, "Lunch"),
      (company.afternoonBreak, true, "Paid break")].filter fun each => each.1.2 ≠ 0).mapM
    fun each => standardBreak each.1.1 each.1.2 each.2.1 each.2.2

/-- `_planned_breaks`: the standard breaks that fall inside the standard day. -/
def plannedBreaks (company : Company) (day : ℤ) : Except Refusal (List Window) :=
  match standardDay company day with
  | none => .ok []
  | some standard => do
      let breaks ← defaultBreaks company
      pure ((breaks.map StandardBreak.window).filter fun each =>
        standard.start ≤ each.start && each.finish ≤ standard.finish)

/-- `_line_window`: the stretch a line holds, when it has both times. -/
def lineWindow (line : TimeLine) : Option Window := do
  let start ← line.payload.startTime
  let finish ← line.payload.endTime
  pure ⟨start, finish⟩

/-- The order of the day's breaks: by start, then by finish. -/
def BreakLE (w v : Window) : Prop :=
  w.start < v.start ∨ (w.start = v.start ∧ w.finish ≤ v.finish)

instance : DecidableRel BreakLE := fun _ _ => inferInstanceAs (Decidable (_ ∨ _))

/-- Every break of the day as a stretch entries are placed around: his lines on the Break job, and
on a day nobody has clocked the planned breaks that none of them overlaps. -/
def breakWindows (company : Company) (day : ℤ) (row : Option AttendanceDay)
    (breakLines : List TimeLine) : Except Refusal (List Window) := do
  let taken := breakLines.filterMap lineWindow
  let planned ← match row with
    | none => do
        let planned ← plannedBreaks company day
        pure (planned.filter fun each => !overlaps each taken)
    | some _ => pure []
  pure ((taken ++ planned).insertionSort BreakLE)

/-- Split a day's time into his job entries and his breaks. -/
def splitBreaks (company : Company) (lines : List TimeLine) : List TimeLine × List TimeLine :=
  (lines.filter fun line => some line.job ≠ company.breakJob,
    lines.filter fun line => some line.job = company.breakJob)

/-! ## Unallocated time -/

/-- The entries that count as worked on a day: leave is none of a clocked day. -/
def workedEntries (row : Option AttendanceDay) (entries : List TimeLine) : List TimeLine :=
  match row with
  | none => entries
  | some _ => entries.filter fun line => line.managedBy ≠ some .leave

def lastMinute : TimeOfDay := .ofMinutes (24 * 60 - 1) (by decide)

/-- Lay untimed entries out end to end from `cursor`, around what is occupied already. -/
def layOut (cursor : TimeOfDay) (occupied : List Window) :
    List TimeLine → Except Refusal (List Window)
  | [] => .ok occupied
  | line :: rest => do
      let begins ← startAfterBreaks cursor occupied
      let ends ← finishInTheDay begins line.quantity occupied
      -- hours that would run past midnight take the rest of the day
      let laidEnd := ends.getD lastMinute
      layOut laidEnd (occupied ++ [⟨begins, laidEnd⟩]) rest

/-- Everything that takes time of the day: its breaks, its timed entries, and the untimed ones laid
out from the day's start. -/
def occupiedWindows (company : Company) (day : ℤ) (row : Option AttendanceDay) (dayStart : TimeOfDay)
    (entries breakLines : List TimeLine) : Except Refusal (List Window) := do
  let worked := workedEntries row entries
  let breaks ← breakWindows company day row breakLines
  layOut dayStart (breaks ++ worked.filterMap lineWindow)
    (worked.filter fun line => lineWindow line = none)

/-- The windows before each taken stretch.  Each bound rounds to its quarter, but never into the
entry or break beside it: those minutes are already paid. -/
def windowsBetween (last : ℕ) : ℕ → ℕ → List (ℕ × ℕ) → Except Refusal (List Window)
  | _, _, [] => .ok []
  | freeFrom, floor, (takenStart, takenEnd) :: rest => do
      let free ← timeOf freeFrom
      let bound ← timeOf (min takenStart last : ℕ)
      let start ← timeOf (max (toQuarter free).minutes floor : ℕ)
      let finish ← timeOf (min (toQuarter bound).minutes takenStart : ℕ)
      let windows ← windowsBetween last (max freeFrom takenEnd) (max floor takenEnd) rest
      pure (⟨start, finish⟩ :: windows)

/-- The stretches of his day that hold no entry and no break; none when the day has no span. -/
def unallocatedWindows (company : Company) (today day : ℤ) (row : Option AttendanceDay)
    (entries breakLines : List TimeLine) : Except Refusal (Option (List Window)) :=
  match daySpan company today day row with
  | none => .ok none
  | some span => do
      let occupied ← occupiedWindows company day row span.start entries breakLines
      let windows ← windowsBetween span.finish.minutes span.start.minutes 0
        (mergedMinutes occupied ++ [(24 * 60, 24 * 60)])
      pure (some (windows.filter fun window => window.start < window.finish))

end Timesheet

end Docketworks
