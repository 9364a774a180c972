import Docketworks.Timesheet.BreakTimes
import Docketworks.Timesheet.ClockTimes
import Docketworks.Timesheet.EntryChanges

/-!
# What saving a row leaves alone

A person's row of a day stored, and what stays as it was.

* `OnlyDay` — one day of one person differs, and nothing else.
* `run_saveRow` — a row saved is the day's, and no other day's.
-/

namespace Docketworks

open Library Library.Transaction

namespace Timesheet

/-- Nothing but the attendance, the time lines and the next key differs. -/
def SameSetting (db db' : Timesheets) : Prop :=
  db' = { db with attendance := db'.attendance, lines := db'.lines, fresh := db'.fresh }

structure OnlyDay (staff : ℕ) (day : ℤ) (db db' : Timesheets) : Prop where
  setting : SameSetting db db'
  lines : ∀ staff' day', (staff', day') ≠ (staff, day) →
    db'.dayTimeLines staff' day' = db.dayTimeLines staff' day'
  rows : ∀ staff' day', (staff', day') ≠ (staff, day) →
    db'.dayRow staff' day' = db.dayRow staff' day'

section Frames

variable {db db' : Timesheets} {worker : ℕ} {day : ℤ}

lemma SameSetting.company (h : SameSetting db db') : db'.company = db.company := by rw [h]

lemma run_saveRow {row : AttendanceDay} {u : Unit} (hrun : (saveRow row).run db = .ok (u, db')) :
    OnlyDay row.staff row.date db db' ∧ db'.dayRow row.staff row.date = some row ∧
      db'.lines = db.lines := by
  unfold saveRow at hrun
  simp only [run_bind, run_read] at hrun
  obtain ⟨_, _, ⟨rfl, rfl⟩, hrun⟩ := hrun
  split at hrun
  · rename_i attendance hinsert
    obtain rfl := run_write.mp hrun
    refine ⟨⟨rfl, fun _ _ _ => rfl, fun staff' day' hne => ?_⟩, Table.find?_insert?_self hinsert,
      rfl⟩
    exact Table.find?_insert?_of_ne hinsert hne
  · rename_i hinsert
    obtain rfl := run_write.mp hrun
    obtain ⟨old, hold⟩ : ∃ old, db.attendance.find? row.key = some old := by
      refine Option.ne_none_iff_exists'.mp fun hnone => ?_
      unfold Table.insert? at hinsert
      rw [dif_neg] at hinsert
      · cases hinsert
      · intro hmem
        obtain ⟨x, hx, hkey⟩ := List.mem_map.mp hmem
        exact Table.find?_eq_none_iff.mp hnone x hx hkey
    refine ⟨⟨rfl, fun _ _ _ => rfl, fun staff' day' hne => ?_⟩, Table.find?_put_self hold, rfl⟩
    exact Table.find?_put_of_ne hne

lemma attendanceRow_eq_ok {row row' : AttendanceDay} {clockIn : TimeOfDay}
    {clockOut : Option TimeOfDay} (h : attendanceRow row clockIn clockOut = .ok row') :
    row'.staff = row.staff ∧ row'.date = row.date ∧ row'.clockOut = clockOut := by
  unfold attendanceRow at h
  split at h
  · obtain rfl := Except.ok.inj h
    exact ⟨rfl, rfl, rfl⟩
  · cases h

lemma dayRow_key {row : AttendanceDay} (h : db.dayRow worker day = some row) :
    row.staff = worker ∧ row.date = day := by
  have hkey : row.key = (worker, day) := Table.key_of_find? h
  exact Prod.mk.inj hkey

end Frames

end Timesheet

end Docketworks
