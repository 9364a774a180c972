import Mathlib.Data.Int.Notation
import Mathlib.Data.Nat.Notation

/-!
# Days and months

A day is a number counted from 1 January 1970.
-/

namespace Docketworks

/-- The year and the month of a day. -/
def monthOf (day : ℤ) : ℤ × ℤ :=
  -- years run from March here, so that a leap day is the last day of its year
  let fromMarch := day + 719468
  let era := fromMarch / 146097
  let dayOfEra := fromMarch % 146097
  let yearOfEra := (dayOfEra - dayOfEra / 1460 + dayOfEra / 36524 - dayOfEra / 146096) / 365
  let dayOfYear := dayOfEra - (365 * yearOfEra + yearOfEra / 4 - yearOfEra / 100)
  let month := (5 * dayOfYear + 2) / 153
  if month < 10 then (yearOfEra + era * 400, month + 3) else (yearOfEra + era * 400 + 1, month - 9)

example : monthOf 0 = (1970, 1) ∧ monthOf 19782 = (2024, 2) ∧ monthOf 19783 = (2024, 3) := by decide

def dayOf (year month day : ℤ) : ℤ :=
  let marchYear := if month ≤ 2 then year - 1 else year
  let era := marchYear / 400
  let yearOfEra := marchYear - era * 400
  let dayOfYear := (153 * ((month + 9) % 12) + 2) / 5 + day - 1
  era * 146097 + (yearOfEra * 365 + yearOfEra / 4 - yearOfEra / 100 + dayOfYear) - 719468

example : dayOf 1970 1 1 = 0 ∧ dayOf 2024 2 29 = 19782 ∧ dayOf 2024 3 1 = 19783 := by decide

def monthDays (year month : ℤ) : List ℤ :=
  let start := dayOf year month 1
  let finish := if month = 12 then dayOf (year + 1) 1 1 else dayOf year (month + 1) 1
  (List.range (finish - start).toNat).map fun i : ℕ => start + (i : ℤ)

/-- Monday to Friday. -/
def isWeekday (day : ℤ) : Bool := (day + 3) % 7 < 5

end Docketworks
