import Docketworks.Timesheet.DayFrames
import Docketworks.Timesheet.DaySubmission
import Docketworks.Timesheet.Placement
import Docketworks.Timesheet.StepOver

/-!
# Rows stored as they were laid out

Whether a day is stored as `layOutRows` placed it.  The rows are laid out once, and each is then saved
by `createEntry`, which fits the times of a row that has them and places a row that has none.

* `SentDay`, `sentDay` — `submitDay`, answering its plan and the entries each row was stored as.
* `StoredAs` — a row's entries, joined, carry its times and its hours.
* `Reached` — where the rows laid out so far have brought the day.
* `NoneFitsLater` — no row after the first the day cannot hold would fit from the same place.
* `submitDay_stores_plan` — then, and only then, every row is stored as it was laid out.

**Design.**  The rows' own breaks are lines too: a row on the Break job adds a stretch the later rows
step over.  It ends where they begin, so `StepOver` leaves their places as they were.
-/

namespace Docketworks

open Library Library.Transaction

namespace Timesheet

/-! ## The plan and what is stored -/

/-- The lines of people's time that are no fill. -/
def Timesheets.entries (db : Timesheets) : List TimeLine :=
  db.lines.rows.filter fun line => !isGeneralWorkFill db.company line

/-- What a sent day was laid out as, and the entries each of its rows was stored as. -/
structure SentDay where
  begins : TimeOfDay
  breaks : List Window
  laid : List LaidLine
  stored : List (List TimeLine)

/-- The loop of `submit_day`, answering the entries that each row adds. -/
def storeRows (worker : Staff) (day : ℤ) : List LaidLine → TimesheetCall (List (List TimeLine))
  | [] => pure []
  | line :: lines => do
      let before ← .read Timesheets.entries
      let job ← theWorkJob line.job
      let _ ← createEntry worker (rowEntry day job line) none none
      let after ← .read Timesheets.entries
      let rest ← storeRows worker day lines
      pure (after.filter (· ∉ before) :: rest)

/-- `submit_day`, answering its plan and what it stored. -/
def sentDay (actor worker : Staff) (day : ℤ) (rows : List FillRow) : TimesheetCall SentDay := do
  .require (actor.id = worker.id ∨ actor.isOfficeStaff = true)
    (.accessDenied "Only office staff send another person's day.")
  let row ← settleDay worker day actor
  let (begins, breaks, laid) ← .consult fun db => do
    let (entries, breakLines) := splitBreaks db.company (db.dayTimeLines worker.id day)
    let begins ← defaultEntryStart db.company day (some row) entries breakLines
    let breaks ← breakWindows db.company day (some row) breakLines
    let laid ← layOutRows (some begins) breaks rows
    pure (begins, breaks, laid)
  let stored ← storeRows worker day laid
  saveRow { row with submitted := true }
  pure ⟨begins, breaks, laid, stored⟩

/-- A row's entries are on its job and, joined, carry its times and its hours; a row without times
has none on any of them. -/
structure StoredAs (line : LaidLine) (parts : List TimeLine) : Prop where
  job : ∀ part ∈ parts, part.job = line.job
  start : (parts.head?.bind fun part => part.payload.startTime) = line.start
  finish : (parts.getLast?.bind fun part => part.payload.endTime) = line.finish
  hours : (parts.map TimeLine.quantity).sum = line.hours
  untimed : line.start = none → ∀ part ∈ parts,
    part.payload.startTime = none ∧ part.payload.endTime = none

instance (line : LaidLine) (parts : List TimeLine) : Decidable (StoredAs line parts) :=
  decidable_of_iff
    ((∀ part ∈ parts, part.job = line.job) ∧
      (parts.head?.bind fun part => part.payload.startTime) = line.start ∧
      (parts.getLast?.bind fun part => part.payload.endTime) = line.finish ∧
      (parts.map TimeLine.quantity).sum = line.hours ∧
      (line.start = none → ∀ part ∈ parts,
        part.payload.startTime = none ∧ part.payload.endTime = none))
    ⟨fun ⟨hjob, hstart, hfinish, hhours, huntimed⟩ => ⟨hjob, hstart, hfinish, hhours, huntimed⟩,
      fun h => ⟨h.job, h.start, h.finish, h.hours, h.untimed⟩⟩

/-- No row after the first that the day cannot hold would fit from where that one would begin. -/
def NoneFitsLater (breaks : List Window) : TimeOfDay → List FillRow → Prop
  | _, [] => True
  | cursor, row :: rows =>
      match placeRow (some cursor) row.hours breaks with
      | .ok (_, some finish) => NoneFitsLater breaks finish rows
      | _ => ∀ later ∈ rows, placeRow (some cursor) later.hours breaks = .ok (none, none)

/-- Every row has its place in the day. -/
def AllFit (breaks : List Window) : TimeOfDay → List FillRow → Prop
  | _, [] => True
  | cursor, row :: rows =>
      match placeRow (some cursor) row.hours breaks with
      | .ok (_, some finish) => AllFit breaks finish rows
      | _ => False

instance decidableNoneFitsLater (breaks : List Window) : (cursor : TimeOfDay) →
    (rows : List FillRow) → Decidable (NoneFitsLater breaks cursor rows)
  | _, [] => isTrue trivial
  | cursor, row :: rows =>
      match h : placeRow (some cursor) row.hours breaks with
      | .ok (_, some finish) =>
          have := decidableNoneFitsLater breaks finish rows
          decidable_of_iff (NoneFitsLater breaks finish rows) (by rw [NoneFitsLater, h])
      | .ok (_, none) => decidable_of_iff
          (∀ later ∈ rows, placeRow (some cursor) later.hours breaks = .ok (none, none))
          (by rw [NoneFitsLater, h])
      | .error _ => decidable_of_iff
          (∀ later ∈ rows, placeRow (some cursor) later.hours breaks = .ok (none, none))
          (by rw [NoneFitsLater, h])

section Loop

variable {actor worker : Staff} {day : ℤ} {rows : List FillRow} {line : LaidLine}
  {lines : List LaidLine} {stored : List (List TimeLine)} {db db' : Timesheets}

lemma run_storeRows_cons :
    (storeRows worker day (line :: lines)).run db = .ok (stored, db') ↔
      ∃ job created mid rest, db.findJob line.job = .ok job ∧
        (createEntry worker (rowEntry day job line) none none).run db = .ok (created, mid) ∧
        (storeRows worker day lines).run mid = .ok (rest, db') ∧
        stored = mid.entries.filter (· ∉ db.entries) :: rest := by
  simp only [storeRows, theWorkJob, run_bind, run_read, run_consult, run_pure]
  constructor
  · rintro ⟨_, _, ⟨rfl, rfl⟩, job, _, ⟨hjob, rfl⟩, created, mid, hcreate, _, _, ⟨rfl, rfl⟩, rest, _,
      hrest, rfl, rfl⟩
    exact ⟨job, created, mid, rest, hjob, hcreate, hrest, rfl⟩
  · rintro ⟨job, created, mid, rest, hjob, hcreate, hrest, rfl⟩
    exact ⟨_, _, ⟨rfl, rfl⟩, job, _, ⟨hjob, rfl⟩, created, mid, hcreate, _, _, ⟨rfl, rfl⟩, rest, _,
      hrest, rfl, rfl⟩

lemma run_forM_iff_storeRows {u : Unit} :
    (lines.forM fun line => do
        let job ← theWorkJob line.job
        let _ ← createEntry worker (rowEntry day job line) none none
        pure () : TimesheetCall Unit).run db = .ok (u, db') ↔
      ∃ stored, (storeRows worker day lines).run db = .ok (stored, db') := by
  induction lines generalizing db with
  | nil =>
      simp only [run_forM_nil, storeRows, run_pure]
      refine ⟨fun h => ⟨[], rfl, h⟩, ?_⟩
      rintro ⟨_, -, h⟩
      exact h
  | cons line lines ih =>
      simp only [run_forM_cons, run_storeRows_cons, theWorkJob, run_bind, run_consult, run_pure]
      constructor
      · rintro ⟨mid, ⟨job, _, ⟨hjob, rfl⟩, created, _, hcreate, -, rfl⟩, hrest⟩
        obtain ⟨rest, hrest⟩ := ih.mp hrest
        exact ⟨_, job, created, _, rest, hjob, hcreate, hrest, rfl⟩
      · rintro ⟨_, job, created, mid, rest, hjob, hcreate, hrest, -⟩
        exact ⟨mid, ⟨job, _, ⟨hjob, rfl⟩, created, _, hcreate, trivial, rfl⟩, ih.mpr ⟨rest, hrest⟩⟩

lemma run_sentDay {sent : SentDay} :
    (sentDay actor worker day rows).run db = .ok (sent, db') ↔
      ∃ row settled saved, (actor.id = worker.id ∨ actor.isOfficeStaff = true) ∧
        (settleDay worker day actor).run db = .ok (row, settled) ∧
        defaultEntryStart settled.company day (some row)
          (splitBreaks settled.company (settled.dayTimeLines worker.id day)).1
          (splitBreaks settled.company (settled.dayTimeLines worker.id day)).2 = .ok sent.begins ∧
        breakWindows settled.company day (some row)
          (splitBreaks settled.company (settled.dayTimeLines worker.id day)).2 = .ok sent.breaks ∧
        layOutRows (some sent.begins) sent.breaks rows = .ok sent.laid ∧
        (storeRows worker day sent.laid).run settled = .ok (sent.stored, saved) ∧
        (saveRow { row with submitted := true }).run saved = .ok ((), db') := by
  unfold sentDay
  simp only [run_bind, run_require, run_consult, bind_eq_ok, pure_eq_ok, run_pure]
  constructor
  · rintro ⟨_, _, ⟨hactor, rfl⟩, row, settled, hsettle, ⟨begins, breaks, laid⟩, _,
      ⟨⟨_, hbegins, _, hbreaks, _, hlaid, heq⟩, rfl⟩, stored, saved, hstored, _, _, hsave, rfl, rfl⟩
    obtain ⟨rfl, rfl, rfl⟩ : _ = begins ∧ _ = breaks ∧ _ = laid := by
      simpa only [Prod.mk.injEq] using heq
    exact ⟨row, settled, saved, hactor, hsettle, hbegins, hbreaks, hlaid, hstored, hsave⟩
  · rintro ⟨row, settled, saved, hactor, hsettle, hbegins, hbreaks, hlaid, hstored, hsave⟩
    exact ⟨(), _, ⟨hactor, rfl⟩, row, settled, hsettle, (sent.begins, sent.breaks, sent.laid), _,
      ⟨⟨_, hbegins, _, hbreaks, _, hlaid, rfl⟩, rfl⟩, sent.stored, saved, hstored, (), _, hsave,
      rfl, rfl⟩

/-- **A day is sent as it is by `submitDay`.** -/
lemma run_submitDay_iff : (submitDay actor worker day rows).run db = .ok ((), db') ↔
    ∃ sent, (sentDay actor worker day rows).run db = .ok (sent, db') := by
  simp only [run_sentDay]
  unfold submitDay
  simp only [run_bind, run_require, run_consult, bind_eq_ok, run_forM_iff_storeRows]
  constructor
  · rintro ⟨_, _, ⟨hactor, rfl⟩, row, settled, hsettle, laid, _,
      ⟨⟨begins, hbegins, breaks, hbreaks, hlaid⟩, rfl⟩, _, saved, ⟨stored, hstored⟩, hsave⟩
    exact ⟨⟨begins, breaks, laid, stored⟩, row, settled, saved, hactor, hsettle, hbegins, hbreaks,
      hlaid, hstored, hsave⟩
  · rintro ⟨sent, row, settled, saved, hactor, hsettle, hbegins, hbreaks, hlaid, hstored, hsave⟩
    exact ⟨(), _, ⟨hactor, rfl⟩, row, settled, hsettle, sent.laid, _,
      ⟨⟨sent.begins, hbegins, sent.breaks, hbreaks, hlaid⟩, rfl⟩, (), saved, ⟨_, hstored⟩, hsave⟩

end Loop

/-! ## What saving a row adds -/

section Saving

variable {owner : Staff} {day : ℤ} {data : WorkshopEntryCreateData} {db db' : Timesheets}

lemma run_bookWindows_fill {generalWork : ℕ} {windows : List Window} {u : Unit}
    (h : (windows.forM (bookWindow owner day generalWork)).run db = .ok (u, db')) :
    ∃ pieces, AddsLines db db' pieces ∧ ∀ line ∈ pieces,
      line.job = generalWork ∧ line.payload.source = some .sweptGeneralWork := by
  induction windows generalizing db with
  | nil =>
      obtain rfl := run_forM_nil.mp h
      exact ⟨[], .refl db, fun _ hline => absurd hline List.not_mem_nil⟩
  | cons w windows ih =>
      obtain ⟨mid, hfirst, hrest⟩ := run_forM_cons.mp h
      unfold bookWindow at hfirst
      simp only [run_bind, run_consult, run_pure] at hfirst
      obtain ⟨hours, _, ⟨-, rfl⟩, _, _, hbook, -, rfl⟩ := hfirst
      obtain ⟨job, lines, added, hfound, -, -, hadds, hstores⟩ := run_bookEntry hbook
      obtain ⟨pieces, hadds', hpieces⟩ := ih hrest
      refine ⟨added ++ pieces, hadds.trans hadds', fun line hline => ?_⟩
      rcases List.mem_append.mp hline with hline | hline
      · obtain ⟨part, -, hstored⟩ := exists_part_of_stores hstores hline
        obtain ⟨hjob, -, -, -, -, hsource, -, -⟩ := hstored.columns
        exact ⟨hjob.trans (findJob_eq_ok hfound), hsource⟩
      · exact hpieces line hline

/-- **A rebuild** leaves every line that is no fill, and those alone count here. -/
lemma run_refill_filter {made : ℚ} {q : TimeLine → Bool}
    (hq : ∀ generalWork, generalWorkJobId db = .ok generalWork →
      ∀ line, isGeneralWorkFill db.company line = true → q line = false)
    (h : (refillGeneralWork owner day).run db = .ok (made, db')) :
    SameBooks db db' ∧ db'.lines.rows.filter q = db.lines.rows.filter q := by
  rcases refill_cases h with ⟨rfl, -⟩ |
    ⟨row, generalWork, windows, mid, -, -, hwork, -, hdelete, hbook⟩
  · exact ⟨.refl _, rfl⟩
  obtain ⟨hbooks, hrows⟩ := run_deleteLines hdelete
  obtain ⟨pieces, hadds, hpieces⟩ := run_bookWindows_fill hbook
  obtain ⟨hjob, -⟩ := generalWorkJobId_eq_ok hwork
  have hnone : pieces.filter q = [] := by
    refine List.filter_eq_nil_iff.mpr fun line hline => ?_
    obtain ⟨hon, hsource⟩ := hpieces line hline
    have hfill : isGeneralWorkFill db.company line = true := by
      unfold isGeneralWorkFill
      rw [hon, hsource, hjob]
      simp
    simp [hq generalWork hwork line hfill]
  refine ⟨hbooks.trans hadds.books, ?_⟩
  rw [hadds.rows, hrows, List.filter_append, hnone, List.append_nil, List.filter_filter]
  refine List.filter_congr fun line hline => ?_
  rw [Bool.and_eq_left_iff_imp]
  intro hcounts
  -- a line that counts is none of the deleted ones
  simp only [List.all_eq_true, decide_eq_true_eq]
  intro fill hfill hid
  obtain ⟨hday, hisFill⟩ := List.mem_filter.mp hfill
  have heq : line = fill := Table.eq_of_key_eq hline (List.mem_of_mem_filter hday) hid
  rw [heq, hq generalWork hwork fill hisFill] at hcounts
  cases hcounts

lemma run_refill_entries {made : ℚ} (h : (refillGeneralWork owner day).run db = .ok (made, db')) :
    SameBooks db db' ∧ db'.entries = db.entries ∧
      ∀ staff date, db'.dayBreakWindows staff date = db.dayBreakWindows staff date := by
  obtain ⟨hbooks, hentries⟩ := run_refill_filter
    (q := fun line => !isGeneralWorkFill db.company line)
    (fun _ _ line hfill => by simp [hfill]) h
  refine ⟨hbooks, ?_, fun staff date => ?_⟩
  · unfold Timesheets.entries
    rw [hbooks.company]
    exact hentries
  · obtain ⟨-, hbreaks⟩ := run_refill_filter
      (q := fun line => (some line.job = db.company.breakJob : Bool) &&
        (line.staff = staff && line.accountingDate = date))
      (fun generalWork hwork line hfill => by
        obtain ⟨hjob, hnot⟩ := generalWorkJobId_eq_ok hwork
        have hon : some line.job = db.company.generalWorkJob := by
          unfold isGeneralWorkFill at hfill
          simp only [Bool.and_eq_true, decide_eq_true_eq] at hfill
          exact hfill.2
        rw [hon, hjob]
        simp [hnot]) h
    have hlines : (splitBreaks db.company (db'.dayTimeLines staff date)).2 =
        (splitBreaks db.company (db.dayTimeLines staff date)).2 := by
      unfold splitBreaks Timesheets.dayTimeLines
      simp only [List.filter_filter]
      exact hbreaks
    unfold Timesheets.dayBreakWindows
    rw [hbooks.company, hbooks.dayRow, hlines]

lemma AddsLines.not_mem {added : List TimeLine} (h : AddsLines db db' added) :
    ∀ line ∈ added, line ∉ db.lines.rows := by
  intro line hline hold
  have hnodup := db'.lines.nodup
  rw [h.rows, List.map_append] at hnodup
  exact (List.disjoint_of_nodup_append hnodup) (List.mem_map_of_mem hold)
    (List.mem_map_of_mem hline)

/-- **Making an entry** adds its parts to the entries, and breaks that are none of them stay. -/
lemma run_createEntry {line : TimeLine}
    (h : (createEntry owner data none none).run db = .ok (line, db')) :
    ∃ job lines added mid, db.findJob data.job = .ok job ∧ refuseBadHours data.hours = .ok () ∧
      entryLines db owner job none data = .ok lines ∧ AddsLines db mid added ∧
      List.Forall₂ (Stores db owner job none none) lines.parts added ∧
      SameBooks db db' ∧ db'.entries = db.entries ++ added ∧
      db'.entries.filter (· ∉ db.entries) = added ∧
      ∀ staff date, db'.dayBreakWindows staff date = mid.dayBreakWindows staff date := by
  unfold createEntry at h
  simp only [run_bind, run_when, run_pure] at h
  obtain ⟨_, mid, hbook, _, last, hrefill, rfl, hlast⟩ := h
  rw [hlast] at hrefill
  obtain ⟨job, lines, added, hjob, hhours, hlines, hadds, hstores⟩ := run_bookEntry hbook
  obtain ⟨made, hrefill⟩ : ∃ made, (refillGeneralWork owner data.accountingDate).run mid =
      .ok (made, db') := by
    rcases hrefill with ⟨-, made, _, hrefill, -, rfl⟩ | ⟨hswept, -⟩
    · exact ⟨made, hrefill⟩
    · exact absurd (by simp) hswept
  obtain ⟨hbooks, hentries, hbreaks⟩ := run_refill_entries hrefill
  have hkept : added.filter (fun line => !isGeneralWorkFill db.company line) = added := by
    refine List.filter_eq_self.mpr fun line hline => ?_
    obtain ⟨part, -, hstored⟩ := exists_part_of_stores hstores hline
    obtain ⟨-, -, -, -, -, hsource, -, -⟩ := hstored.columns
    unfold isGeneralWorkFill
    simp [hsource]
  have hadded : mid.entries = db.entries ++ added := by
    unfold Timesheets.entries
    rw [hadds.rows, hadds.books.company, List.filter_append, hkept]
  refine ⟨job, lines, added, mid, hjob, hhours, hlines, hadds, hstores, hadds.books.trans hbooks,
    hentries.trans hadded, ?_, hbreaks⟩
  rw [hentries, hadded, List.filter_append, List.filter_eq_nil_iff.mpr fun line hline => by
    simpa using hline, List.nil_append, List.filter_eq_self]
  intro line hline
  exact decide_eq_true fun hold => hadds.not_mem line hline (List.mem_of_mem_filter hold)

end Saving

/-! ## The times of an entry's parts -/

section Parts

variable {db : Timesheets} {owner : Staff} {job : WorkJob} {data timed : WorkshopEntryCreateData}
  {lines : EntryLines} {breaks : List Window}

/-- The parts of an entry, joined, carry its times and its hours. -/
structure Joins (db : Timesheets) (owner : Staff) (timed : WorkshopEntryCreateData)
    (parts : List WorkshopEntryCreateData) : Prop where
  start : (parts.head?.bind fun part => part.startTime) = timed.startTime
  finish : (parts.getLast?.bind fun part => part.endTime) = timed.endTime
  hours : (parts.map fun part => part.hours).sum = timed.hours
  untimed : timed.startTime = none → timed.endTime = none →
    ∀ part ∈ parts, part.startTime = none ∧ part.endTime = none
  both : timed.startTime.isSome → timed.endTime.isSome →
    ∀ part ∈ parts, part.startTime.isSome ∧ part.endTime.isSome
  /-- A part that does not end with the entry ends where some of its hours do. -/
  cuts : ∀ s ∈ timed.startTime, ∀ part ∈ parts, ∀ f ∈ part.endTime, f ∈ timed.endTime ∨
    ∃ breaks hours, db.dayBreakWindows owner.id timed.accountingDate = .ok breaks ∧
      0 ≤ hours ∧ hours ≤ timed.hours ∧ finishInTheDay s hours breaks = .ok (some f)

lemma joins_whole {part : WorkshopEntryCreateData} (hstart : part.startTime = timed.startTime)
    (hfinish : part.endTime = timed.endTime) (hhours : part.hours = timed.hours) :
    Joins db owner timed [part] where
  start := hstart
  finish := hfinish
  hours := by simpa using hhours
  untimed hs hf := List.forall_mem_singleton.mpr ⟨hstart.trans hs, hfinish.trans hf⟩
  both hs hf := List.forall_mem_singleton.mpr ⟨hstart ▸ hs, hfinish ▸ hf⟩
  cuts _ _ part hpart f hf := by
    obtain rfl := List.mem_singleton.mp hpart
    exact .inl (hfinish ▸ hf)

lemma joins_of_entryLines {managedBy : Option CostLineOwner} (hhours : 0 ≤ timed.hours)
    (htimed : withTimes db owner managedBy data = .ok timed)
    (h : entryLines db owner job managedBy data = .ok lines) :
    Joins db owner timed lines.parts ∧
      (some job.id = db.company.breakJob → lines.parts = [chargedUrgent job timed]) := by
  obtain ⟨timed', overtime, htimed', -, hovertime, hlines⟩ := entryLines_eq_ok h
  obtain rfl : timed' = timed := Except.ok.inj (htimed'.symm.trans htimed)
  obtain ⟨hstart, hfinish, hsame, hdate⟩ := times_chargedUrgent job timed'
  rcases hlines with ⟨-, hparts⟩ | ⟨hsome, -, hparts⟩ | ⟨ordinary, late, hsome, hpart, hsplit, hparts⟩
  · rw [hparts]
    exact ⟨joins_whole hstart hfinish hsame, fun _ => rfl⟩
  · rw [hparts]
    exact ⟨joins_whole hstart hfinish hsame,
      fun hbreak => absurd (overtimePart_break hbreak hovertime) hsome⟩
  rw [hparts]
  refine ⟨?_, fun hbreak => absurd (overtimePart_break hbreak hovertime) hsome⟩
  have hbetween : 0 ≤ timed'.hours - overtime ∧ timed'.hours - overtime ≤ timed'.hours := by
    rcases overtimePart_cases hhours hovertime with h | h | ⟨hlow, hhigh⟩
    · exact absurd h hsome
    · exact absurd (h.trans hsame.symm) hpart
    · constructor <;> linarith
  rw [← hsame] at hbetween
  rcases splitAtOvertime_eq_ok hsplit with
    ⟨s, f, breaks, split, resumes, hs, hf, hbreaks, hends, -, rfl, rfl⟩ | ⟨hnot, rfl, rfl⟩
  · -- split where the ordinary hours end
    refine ⟨hstart, hfinish, ?_, fun hnone => ?_, fun _ _ => ?_, fun s' hs' part hmem f' hf' => ?_⟩
    · simp [hsame]
    · rw [← hstart, hs] at hnone
      cases hnone
    · exact List.forall_mem_cons.mpr ⟨⟨by rw [hs]; rfl, rfl⟩,
        List.forall_mem_singleton.mpr ⟨rfl, by simp only [atOvertime, hf, Option.isSome_some]⟩⟩
    · obtain rfl : s = s' := Option.some.inj ((hs.symm.trans hstart).trans hs')
      rcases List.mem_cons.mp hmem with rfl | hmem
      · obtain rfl : split = f' := Option.some.inj hf'
        exact .inr ⟨breaks, _, hdate ▸ hbreaks, hbetween.1, hsame ▸ hbetween.2, hends⟩
      · obtain rfl := List.mem_singleton.mp hmem
        exact .inl (hfinish ▸ hf')
  · -- no times to split
    refine ⟨hstart, hfinish, ?_, fun hs hf => ?_, fun hs hf => ?_, fun s hs part hmem f hf => ?_⟩
    · simp [hsame]
    · exact List.forall_mem_cons.mpr ⟨⟨hstart.trans hs, hfinish.trans hf⟩,
        List.forall_mem_singleton.mpr ⟨hstart.trans hs, hfinish.trans hf⟩⟩
    · obtain ⟨s, hs⟩ := Option.isSome_iff_exists.mp hs
      obtain ⟨f, hf⟩ := Option.isSome_iff_exists.mp hf
      exact (hnot s f (hstart.trans hs) (hfinish.trans hf)).elim
    · rcases List.mem_cons.mp hmem with rfl | hmem
      · exact .inl (hfinish ▸ hf)
      · obtain rfl := List.mem_singleton.mp hmem
        exact .inl (hfinish ▸ hf)

lemma withTimes_of_placed {s f : TimeOfDay} (hstart : data.startTime = some s)
    (hfinish : data.endTime = some f)
    (hbreaks : db.dayBreakWindows owner.id data.accountingDate = .ok breaks)
    (hs : startAfterBreaks s breaks = .ok s)
    (hf : finishInTheDay s data.hours breaks = .ok (some f)) :
    withTimes db owner none data = .ok data := by
  have hsame : { data with startTime := some s, endTime := some f } = data := by
    rw [← hstart, ← hfinish]
  unfold withTimes
  rw [if_neg (by rw [hstart]; simp)]
  split
  · rw [hbreaks, ok_bind, hstart, hfinish, fitTimes, hs, ok_bind]
    split
    · exact congrArg Except.ok hsame
    · rw [hf, ok_bind]
      exact congrArg Except.ok hsame
  · rfl

lemma withTimes_of_untimed {start : TimeOfDay} {finish : Option TimeOfDay}
    (hstart : data.startTime = none) (hfinish : data.endTime = none)
    (hnext : db.nextEntryStart owner.id data.accountingDate = .ok start)
    (hbreaks : db.dayBreakWindows owner.id data.accountingDate = .ok breaks)
    (hf : finishInTheDay start data.hours breaks = .ok finish) :
    withTimes db owner none data =
      .ok { data with startTime := finish.map fun _ => start, endTime := finish } := by
  unfold withTimes placed
  rw [if_pos ⟨hstart, hfinish⟩, if_pos (by simp), hnext, ok_bind, hbreaks, ok_bind, hf, ok_bind]
  rcases finish with _ | finish
  · have hsame : { data with startTime := none, endTime := none } = data := by
      obtain ⟨⟩ := data
      simp only at hstart hfinish
      subst hstart hfinish
      rfl
    exact congrArg Except.ok hsame.symm
  · rfl

end Parts

/-! ## The settled day -/

/-- The person has the day's row, clocked in at the time. -/
def ClockedAt (worker : ℕ) (day : ℤ) (clockIn : TimeOfDay) (db : Timesheets) : Prop :=
  ∃ row, db.dayRow worker day = some row ∧ row.clockIn = clockIn

section Settled

variable {owner : Staff} {worker : ℕ} {day : ℤ} {clockIn : TimeOfDay} {db db' : Timesheets}

lemma ClockedAt.of_books (h : ClockedAt worker day clockIn db) (hbooks : SameBooks db db') :
    ClockedAt worker day clockIn db' := by
  obtain ⟨row, hrow, hclock⟩ := h
  exact ⟨row, (hbooks.dayRow worker day).trans hrow, hclock⟩

lemma clockedAt_deleteLine (line : TimeLine) :
    Keeps (ClockedAt worker day clockIn) (deleteLine line) :=
  Keeps.write fun _ h => h

lemma clockedAt_saveRow {row : AttendanceDay} {u : Unit} (h : ClockedAt worker day clockIn db)
    (hclock : (row.staff, row.date) = (worker, day) → row.clockIn = clockIn)
    (hrun : (saveRow row).run db = .ok (u, db')) : ClockedAt worker day clockIn db' := by
  obtain ⟨honly, hrow, -⟩ := run_saveRow hrun
  by_cases hkey : (row.staff, row.date) = (worker, day)
  · obtain ⟨rfl, rfl⟩ := Prod.mk.inj hkey
    exact ⟨row, hrow, hclock rfl⟩
  · obtain ⟨old, hold, hclock⟩ := h
    exact ⟨old, (honly.rows worker day (Ne.symm hkey)).trans hold, hclock⟩

lemma clockedAt_refill (person : Staff) (date : ℤ) :
    Keeps (ClockedAt worker day clockIn) (refillGeneralWork person date) :=
  fun _ h _ _ hrun => h.of_books (run_refill_entries hrun).1

lemma clockedAt_generalWorkOff (person : Staff) (date : ℤ) :
    Keeps (ClockedAt worker day clockIn) (generalWorkOff person date) := by
  have hdelete : Keeps (ClockedAt worker day clockIn) (do
      let filled ← .read fun db => db.fillLines person.id date
      filled.forM deleteLine) :=
    Keeps.bind Keeps.read fun _ => Keeps.forM fun line _ => clockedAt_deleteLine line
  rintro db h _ db' hrun
  obtain ⟨found, _, hread, hrun⟩ := run_bind.mp hrun
  obtain ⟨hfound, rfl⟩ := run_read.mp hread
  rcases found with _ | found
  · exact hdelete _ h _ _ hrun
  obtain ⟨_, mid, hput, hrun⟩ := run_bind.mp hrun
  obtain rfl := run_write.mp hput
  refine hdelete _ ?_ _ _ hrun
  obtain ⟨row, hrow, hclock⟩ := h
  by_cases hkey : ({ found with generalWorkFill := false } : AttendanceDay).key = (worker, day)
  · obtain ⟨hstaff, hdate⟩ := dayRow_key hfound
    have hsame : row = found := by
      have hown : (found.staff, found.date) = (worker, day) := hkey
      rw [hstaff, hdate] at hown
      obtain ⟨rfl, rfl⟩ := Prod.mk.inj hown
      exact Option.some.inj (hrow.symm.trans hfound)
    refine ⟨{ found with generalWorkFill := false }, ?_, hsame ▸ hclock⟩
    have hold : db.attendance.find? (AttendanceDay.key { found with generalWorkFill := false }) =
        some row := by rw [hkey]; exact hrow
    have hput := Table.find?_put_self hold
    rwa [hkey] at hput
  · exact ⟨row, (Table.find?_put_of_ne (Ne.symm hkey)).trans hrow, hclock⟩

lemma clockedAt_deleteEntry (actor : Staff) (entry : ℕ) (managedBy : Option CostLineOwner) :
    Keeps (ClockedAt worker day clockIn) (deleteEntry actor entry managedBy) :=
  Keeps.bind Keeps.consult fun line => Keeps.bind Keeps.consult fun _ =>
    Keeps.bind Keeps.consult fun _ => Keeps.bind Keeps.consult fun _ => Keeps.bind Keeps.read fun _ =>
      Keeps.ite (fun _ => clockedAt_generalWorkOff _ _) fun _ =>
        Keeps.bind (clockedAt_deleteLine line) fun _ =>
          Keeps.bind (clockedAt_refill _ _) fun _ => Keeps.pure

lemma clockedAt_dropBreaks (actor : Staff) (row : AttendanceDay) :
    Keeps (ClockedAt worker day clockIn) (dropBreaksAfterFinish actor row) := by
  unfold dropBreaksAfterFinish
  rcases row.clockOut with _ | finish
  · exact Keeps.pure
  · exact Keeps.bind Keeps.read fun _ => Keeps.forM fun line _ =>
      clockedAt_deleteEntry actor line.id none

lemma clockedAt_createBreak (date : ℤ) (each : StandardBreak) (generated : Bool) :
    Keeps (ClockedAt worker day clockIn) (createBreak owner date each generated) := by
  refine Keeps.bind Keeps.read fun _ => Keeps.bind Keeps.orRefuse fun job =>
    Keeps.bind Keeps.consult fun hours => Keeps.bind ?_ fun _ => Keeps.pure
  refine Keeps.bind (fun db h line db' hrun => ?_) fun _ => Keeps.bind (Keeps.when fun _ =>
    Keeps.bind (clockedAt_refill _ _) fun _ => Keeps.pure) fun _ => Keeps.pure
  obtain ⟨_, _, _, -, -, -, hadds, -⟩ := run_bookEntry hrun
  exact h.of_books hadds.books

lemma run_generateBreaks_clocked {row row' : AttendanceDay} (h : ClockedAt worker day clockIn db)
    (hclock : (row.staff, row.date) = (worker, day) → row.clockIn = clockIn)
    (hrun : (generateDefaultBreaks owner row).run db = .ok (row', db')) :
    ClockedAt worker day clockIn db' ∧ row'.clockIn = row.clockIn := by
  unfold generateDefaultBreaks at hrun
  split at hrun
  · obtain ⟨rfl, rfl⟩ := run_pure.mp hrun
    exact ⟨h, rfl⟩
  simp only [run_bind, run_consult, run_pure] at hrun
  obtain ⟨breaks, _, ⟨-, rfl⟩, _, mid, hbreaks, _, last, hsave, rfl, rfl⟩ := hrun
  have hmid : ClockedAt worker day clockIn mid :=
    Keeps.forM (fun each _ => clockedAt_createBreak row.date each true) _ h _ _ hbreaks
  exact ⟨clockedAt_saveRow hmid (by exact hclock) hsave, rfl⟩

/-- **A settled day** has its row, clocked in when it answers. -/
lemma clockedAt_settleDay {actor : Staff} {row : AttendanceDay}
    (hrun : (settleDay owner day actor).run db = .ok (row, db')) :
    ClockedAt owner.id day row.clockIn db' := by
  have hsaved : ∀ {made : AttendanceDay} {db mid : Timesheets} {u : Unit},
      made.staff = owner.id → made.date = day → (saveRow made).run db = .ok (u, mid) →
      ClockedAt owner.id day made.clockIn mid := by
    rintro made db mid u hstaff hdate hsave
    obtain ⟨-, hrow, -⟩ := run_saveRow hsave
    exact ⟨made, hstaff ▸ hdate ▸ hrow, rfl⟩
  unfold settleDay at hrun
  simp only [run_bind, run_read] at hrun
  obtain ⟨found, _, ⟨hfound, rfl⟩, _, _, ⟨-, rfl⟩, _, _, ⟨-, rfl⟩, _, _, ⟨-, rfl⟩, hrun⟩ := hrun
  split at hrun
  · split at hrun <;> exact absurd hrun (by simp)
  split at hrun
  · rename_i old
    obtain ⟨hstaff, hdate⟩ := dayRow_key hfound
    split at hrun
    · obtain ⟨rfl, rfl⟩ := run_pure.mp hrun
      exact ⟨_, hfound, rfl⟩
    · simp only [run_bind, run_require, run_consult, run_pure] at hrun
      obtain ⟨_, _, ⟨-, rfl⟩, made, _, ⟨hmade, rfl⟩, _, mid, hsave, _, last, hdrop, rfl, rfl⟩ := hrun
      obtain ⟨hstaff', hdate', -⟩ := attendanceRow_eq_ok hmade
      exact clockedAt_dropBreaks actor made _
        (hsaved (hstaff'.trans hstaff) (hdate'.trans hdate) hsave) _ _ hdrop
  · simp only [run_bind, run_require, run_consult, run_pure] at hrun
    obtain ⟨_, _, ⟨-, rfl⟩, made, _, ⟨hmade, rfl⟩, _, mid, hsave, marked, mid', hbreaks, _, last,
      hdrop, rfl, rfl⟩ := hrun
    obtain ⟨hstaff, hdate, -⟩ := attendanceRow_eq_ok hmade
    obtain ⟨hclocked, hsame⟩ := run_generateBreaks_clocked (hsaved hstaff hdate hsave)
      (fun _ => rfl) hbreaks
    exact clockedAt_dropBreaks actor marked _ (hsame ▸ hclocked) _ _ hdrop

end Settled

/-! ## Where the rows have brought the day -/

def Timesheets.entryFinishes (db : Timesheets) (worker : ℕ) (day : ℤ) : List TimeOfDay :=
  ((db.entries.filter fun line => (some line.job ≠ db.company.breakJob : Bool) &&
    (line.staff = worker && line.accountingDate = day)).filterMap lineWindow).map Window.finish

/-- Where the day has got to: its latest finish, else when it was clocked in. -/
def latestOf (finishes : List TimeOfDay) (clockIn : TimeOfDay) : TimeOfDay :=
  (finishes.argmax TimeOfDay.sinceMidnight).getD clockIn

/-- The day's breaks are those the rows were laid out around, as far as the cursor is concerned. -/
structure Reached (worker : ℕ) (day : ℤ) (clockIn : TimeOfDay) (breaks : List Window)
    (cursor : TimeOfDay) (windows : List Window) (db : Timesheets) : Prop where
  clocked : ClockedAt worker day clockIn db
  stands : db.dayBreakWindows worker day = .ok windows
  agrees : ∀ c n : ℤ, cursor.minutes ≤ c →
    finishMinutes c n (mergedMinutes windows) = finishMinutes c n (mergedMinutes breaks)

/-- The next entry would start where the next row would be laid. -/
structure Awaits (worker : ℕ) (day : ℤ) (clockIn : TimeOfDay) (breaks : List Window)
    (cursor : TimeOfDay) (windows : List Window) (db : Timesheets) : Prop where
  before : (latestOf (db.entryFinishes worker day) clockIn).minutes ≤ cursor.minutes
  moves : finishMinutes (latestOf (db.entryFinishes worker day) clockIn).minutes 0
    (mergedMinutes windows) = finishMinutes cursor.minutes 0 (mergedMinutes breaks)

section Steps

variable {worker : Staff} {day : ℤ} {clockIn cursor s f : TimeOfDay} {breaks windows : List Window}
  {db db' : Timesheets}

lemma finishInTheDay_of_eq {start start' : TimeOfDay} {hours : ℚ} {breaks' : List Window}
    (h : finishMinutes start.minutes (wholeMinutes hours) (mergedMinutes breaks) =
      finishMinutes start'.minutes (wholeMinutes hours) (mergedMinutes breaks')) :
    finishInTheDay start hours breaks = finishInTheDay start' hours breaks' := by
  unfold finishInTheDay
  rw [h]

lemma startAfterBreaks_of_eq {start start' : TimeOfDay} {breaks' : List Window}
    (h : finishMinutes start.minutes 0 (mergedMinutes breaks) =
      finishMinutes start'.minutes 0 (mergedMinutes breaks')) :
    startAfterBreaks start breaks = startAfterBreaks start' breaks' := by
  have hzero : wholeMinutes 0 = 0 := by decide +kernel
  have hsame : finishInTheDay start 0 breaks = finishInTheDay start' 0 breaks' :=
    finishInTheDay_of_eq (by rw [hzero, h])
  unfold startAfterBreaks
  rw [hsame]

lemma startAfterBreaks_again (h : startAfterBreaks cursor breaks = .ok s) :
    startAfterBreaks s breaks = .ok s ∧ cursor.minutes ≤ s.minutes ∧
      (s.minutes : ℤ) = finishMinutes cursor.minutes 0 (mergedMinutes breaks) := by
  obtain ⟨t, ht, -, hminutes, hle⟩ := startAfterBreaks_eq_ok cursor breaks
  obtain rfl : t = s := Except.ok.inj (ht.symm.trans h)
  refine ⟨?_, hle, hminutes⟩
  rw [← h]
  apply startAfterBreaks_of_eq
  rw [hminutes, finishMinutes_again]

lemma nextEntryStart_eq (hclocked : ClockedAt worker.id day clockIn db)
    (hwindows : db.dayBreakWindows worker.id day = .ok windows) :
    db.nextEntryStart worker.id day =
      startAfterBreaks (latestOf (db.entryFinishes worker.id day) clockIn) windows := by
  obtain ⟨row, hrow, rfl⟩ := hclocked
  have hentries : ((splitBreaks db.company (db.dayTimeLines worker.id day)).1.filter fun line =>
      !isGeneralWorkFill db.company line) = db.entries.filter fun line =>
        (some line.job ≠ db.company.breakJob : Bool) &&
          (line.staff = worker.id && line.accountingDate = day) := by
    unfold splitBreaks Timesheets.dayTimeLines Timesheets.entries
    simp only [List.filter_filter]
    refine List.filter_congr fun line _ => ?_
    rw [Bool.and_comm]
  unfold Timesheets.nextEntryStart defaultEntryStart
  simp only [hentries, hrow]
  change (breakWindows db.company day (some row) _ >>= _) = _
  unfold Timesheets.dayBreakWindows at hwindows
  rw [hrow] at hwindows
  rw [hwindows]
  rfl

lemma dayBreakWindows_eq (hclocked : ClockedAt worker.id day clockIn db) :
    db.dayBreakWindows worker.id day =
      .ok ((((splitBreaks db.company (db.dayTimeLines worker.id day)).2.filterMap lineWindow) ++
        []).insertionSort BreakLE) := by
  obtain ⟨row, hrow, -⟩ := hclocked
  unfold Timesheets.dayBreakWindows breakWindows
  rw [hrow]
  rfl

lemma Reached.placed {hours : ℚ}
    (h : Reached worker.id day clockIn breaks cursor windows db)
    (hs : startAfterBreaks cursor breaks = .ok s) (hf : finishInTheDay s hours breaks = .ok (some f)) :
    startAfterBreaks s windows = .ok s ∧ finishInTheDay s hours windows = .ok (some f) := by
  obtain ⟨hagain, hle, -⟩ := startAfterBreaks_again hs
  have hcast : (cursor.minutes : ℤ) ≤ s.minutes := by exact_mod_cast hle
  constructor
  · rw [startAfterBreaks_of_eq (h.agrees _ 0 hcast), hagain]
  · rw [finishInTheDay_of_eq (h.agrees _ _ hcast), hf]

lemma Awaits.nextEntryStart (h : Reached worker.id day clockIn breaks cursor windows db)
    (hawaits : Awaits worker.id day clockIn breaks cursor windows db) :
    db.nextEntryStart worker.id day = startAfterBreaks cursor breaks := by
  rw [nextEntryStart_eq h.clocked h.stands]
  exact startAfterBreaks_of_eq hawaits.moves

lemma placeRow_some {hours : ℚ} (hs : startAfterBreaks cursor breaks = .ok s)
    {finish : Option TimeOfDay} (hf : finishInTheDay s hours breaks = .ok finish) :
    placeRow (some cursor) hours breaks = .ok (finish.map fun _ => s, finish) := by
  simp only [placeRow, hs, ok_bind, hf, pure_eq_ok]

end Steps

/-! ## One row -/

section Row

variable {worker : Staff} {day : ℤ} {clockIn cursor s f : TimeOfDay} {breaks windows : List Window}
  {db mid db' : Timesheets} {job : WorkJob} {line : LaidLine} {created : TimeLine}
  {timed : WorkshopEntryCreateData} {parts : List WorkshopEntryCreateData} {added : List TimeLine}

lemma rowColumns_of_stores
    (h : List.Forall₂ (Stores db worker job none none) parts added) :
    added.map (fun line => line.payload.startTime) = parts.map (fun part => part.startTime) ∧
      added.map (fun line => line.payload.endTime) = parts.map (fun part => part.endTime) ∧
      added.map TimeLine.quantity = parts.map (fun part => part.hours) ∧
      ∀ line ∈ added, line.job = job.id ∧ line.staff = worker.id ∧
        ∃ part ∈ parts, line.accountingDate = part.accountingDate ∧
          line.payload.startTime = part.startTime ∧ line.payload.endTime = part.endTime := by
  induction h with
  | nil => exact ⟨rfl, rfl, rfl, fun _ h => absurd h List.not_mem_nil⟩
  | @cons part _ _ _ hstored _ ih =>
      obtain ⟨hjob, hstaff, hdate, hhours, -, -, hstart, hfinish⟩ := hstored.columns
      obtain ⟨hstarts, hfinishes, hquantities, hall⟩ := ih
      refine ⟨?_, ?_, ?_, fun line hline => ?_⟩
      · rw [List.map_cons, List.map_cons, hstarts, hstart]
      · rw [List.map_cons, List.map_cons, hfinishes, hfinish]
      · rw [List.map_cons, List.map_cons, hquantities, hhours]
      · rcases List.mem_cons.mp hline with rfl | hline
        · exact ⟨hjob, hstaff, part, List.mem_cons_self, hdate, hstart, hfinish⟩
        · obtain ⟨hjob, hstaff, part, hpart, hcolumns⟩ := hall line hline
          exact ⟨hjob, hstaff, part, List.mem_cons_of_mem _ hpart, hcolumns⟩

lemma head?_bind_map {α β : Type} (l : List α) (g : α → Option β) :
    l.head?.bind g = (l.map g).head?.join := by
  cases l <;> rfl

lemma getLast?_bind_map {α β : Type} (l : List α) (g : α → Option β) :
    l.getLast?.bind g = (l.map g).getLast?.join := by
  rw [List.getLast?_map]
  cases l.getLast? <;> rfl

lemma storedAs_of_joins (hstores : List.Forall₂ (Stores db worker job none none) parts added)
    (hjoins : Joins db worker timed parts) (hjob : job.id = line.job)
    (hstart : timed.startTime = line.start) (hfinish : timed.endTime = line.finish)
    (hhours : timed.hours = line.hours) (hboth : line.start = none → line.finish = none) :
    StoredAs line added := by
  obtain ⟨hstarts, hfinishes, hquantities, hall⟩ := rowColumns_of_stores hstores
  refine ⟨fun part hpart => (hall part hpart).1.trans hjob, ?_, ?_, ?_, fun hnone part hpart => ?_⟩
  · rw [head?_bind_map, hstarts, ← head?_bind_map, hjoins.start, hstart]
  · rw [getLast?_bind_map, hfinishes, ← getLast?_bind_map, hjoins.finish, hfinish]
  · rw [hquantities, hjoins.hours, hhours]
  · obtain ⟨-, -, stored, hstored, -, hs, hf⟩ := hall part hpart
    obtain ⟨hs', hf'⟩ := hjoins.untimed (hstart.trans hnone) (hfinish.trans (hboth hnone)) stored
      hstored
    exact ⟨hs.trans hs', hf.trans hf'⟩

lemma entryFinishes_added (hcompany : db'.company = db.company)
    (hentries : db'.entries = db.entries ++ added) :
    db'.entryFinishes worker.id day = db.entryFinishes worker.id day ++
      ((added.filter fun line => (some line.job ≠ db.company.breakJob : Bool) &&
        (line.staff = worker.id && line.accountingDate = day)).filterMap lineWindow).map
          Window.finish := by
  unfold Timesheets.entryFinishes
  rw [hentries, hcompany, List.filter_append, List.filterMap_append, List.map_append]

lemma dayBreakWindows_added (hadds : AddsLines db mid added)
    (h : Reached worker.id day clockIn breaks cursor windows db) : ∃ windows',
      mid.dayBreakWindows worker.id day = .ok windows' ∧
      windows'.Perm (((added.filter fun line => (some line.job = db.company.breakJob : Bool) &&
        (line.staff = worker.id && line.accountingDate = day)).filterMap lineWindow) ++ windows) := by
  have hold := dayBreakWindows_eq h.clocked
  rw [h.stands] at hold
  obtain rfl := Except.ok.inj hold
  refine ⟨_, dayBreakWindows_eq (h.clocked.of_books hadds.books), ?_⟩
  have hlines : (splitBreaks mid.company (mid.dayTimeLines worker.id day)).2 =
      (splitBreaks db.company (db.dayTimeLines worker.id day)).2 ++
        added.filter fun line => (some line.job = db.company.breakJob : Bool) &&
          (line.staff = worker.id && line.accountingDate = day) := by
    unfold splitBreaks
    simp only [hadds.dayTimeLines, hadds.books.company, List.filter_append, List.filter_filter]
  rw [hlines, List.filterMap_append, List.append_nil, List.append_nil]
  refine (List.perm_insertionSort _ _).trans (List.perm_append_comm.trans ?_)
  exact (List.perm_insertionSort _ _).symm.append_left _

lemma mergedMinutes_perm {windows' : List Window} (h : windows'.Perm windows) :
    mergedMinutes windows' = mergedMinutes windows := by
  have hsorted := insertionSort_congr (h.map Window.minutes)
  unfold mergedMinutes join
  rw [hsorted]

lemma Reached.untimed (h : Reached worker.id day clockIn breaks cursor windows db)
    (hadds : AddsLines db mid added) (hbooks : SameBooks db db')
    (hentries : db'.entries = db.entries ++ added)
    (hsame : ∀ staff date, db'.dayBreakWindows staff date = mid.dayBreakWindows staff date)
    (hnone : ∀ part ∈ added, lineWindow part = none) : ∃ windows',
      Reached worker.id day clockIn breaks cursor windows' db' ∧
        (Awaits worker.id day clockIn breaks cursor windows db →
          Awaits worker.id day clockIn breaks cursor windows' db') := by
  have hempty : ∀ p : TimeLine → Bool, (added.filter p).filterMap lineWindow = [] := by
    intro p
    rw [List.filterMap_eq_nil_iff]
    exact fun part hpart => hnone part (List.mem_of_mem_filter hpart)
  obtain ⟨windows', hwindows', hperm⟩ := dayBreakWindows_added hadds h
  rw [hempty, List.nil_append] at hperm
  have hmerged := mergedMinutes_perm hperm
  have hfinishes : db'.entryFinishes worker.id day = db.entryFinishes worker.id day := by
    rw [entryFinishes_added hbooks.company hentries, hempty, List.map_nil, List.append_nil]
  refine ⟨windows', ⟨h.clocked.of_books hbooks, (hsame _ _).trans hwindows', ?_⟩, fun hawaits => ?_⟩
  · rw [hmerged]
    exact h.agrees
  · constructor
    · rw [hfinishes]
      exact hawaits.before
    · rw [hfinishes, hmerged]
      exact hawaits.moves

end Row

/-! ### A row that fits -/

section Fits

variable {worker : Staff} {day : ℤ} {clockIn cursor s f : TimeOfDay} {breaks windows : List Window}
  {db mid db' : Timesheets} {job : WorkJob} {line : LaidLine} {created : TimeLine}
  {added : List TimeLine}

lemma EndsAt.mono {taken : List (ℕ × ℕ)} {c n n' e e' : ℕ} (h : EndsAt taken c n e)
    (h' : EndsAt taken c n' e') (hle : n' ≤ n) : e' ≤ e := by
  by_contra hlt
  -- the later finish would have worked what the earlier has, and a minute more
  have hcount : freeCount taken c e ≤ freeCount taken c (e' - 1) := freeCount_mono (by omega)
  rcases Nat.eq_zero_or_pos n' with rfl | hpos
  · have hmono : freeCount taken c (e + 1) ≤ freeCount taken c e' := freeCount_mono (by omega)
    rcases Nat.eq_zero_or_pos n with rfl | hn
    · rw [freeCount_succ h.after (h.past rfl), h'.count] at hmono
      omega
    · have hle' : freeCount taken c e ≤ freeCount taken c e' := freeCount_mono (by omega)
      rw [h.count, h'.count] at hle'
      omega
  · obtain ⟨m, rfl, hm, hfree⟩ := h'.last hpos
    have hlast := freeCount_succ hm hfree
    rw [h'.count] at hlast
    rw [h.count, Nat.add_sub_cancel] at hcount
    omega

lemma endsAt_of_finishInTheDay {hours : ℚ} (hhours : 0 ≤ hours) (hbreaks : WellFormed breaks)
    (h : finishInTheDay s hours breaks = .ok (some f)) :
    f.micros = 0 ∧ EndsAt (mergedMinutes breaks) s.minutes (wholeMinutes hours).toNat f.minutes := by
  obtain ⟨n, hn⟩ := Int.eq_ofNat_of_zero_le (wholeMinutes_nonneg hhours)
  obtain ⟨finish, hfinish, hends⟩ := endsAt_finishMinutes (separated_join hbreaks.ordered)
    (ordered_join hbreaks.ordered) s.minutes n
  unfold finishInTheDay at h
  simp only [hn] at h
  unfold mergedMinutes at *
  rw [hfinish] at h
  split at h
  · cases h
  · rename_i hday
    have hlt : finish < 24 * 60 := by omega
    rw [timeOf_of_lt hlt] at h
    obtain rfl : TimeOfDay.ofMinutes finish hlt = f := Option.some.inj (Except.ok.inj h)
    rw [hn]
    exact ⟨rfl, hends⟩

lemma finishInTheDay_mono {hours hours' : ℚ} {f' : TimeOfDay} (hbreaks : WellFormed breaks)
    (h0 : 0 ≤ hours') (hle : hours' ≤ hours) (hf : finishInTheDay s hours breaks = .ok (some f))
    (hf' : finishInTheDay s hours' breaks = .ok (some f')) : f'.sinceMidnight ≤ f.sinceMidnight := by
  obtain ⟨hmicros, hends⟩ := endsAt_of_finishInTheDay (h0.trans hle) hbreaks hf
  obtain ⟨hmicros', hends'⟩ := endsAt_of_finishInTheDay h0 hbreaks hf'
  have hround : wholeMinutes hours' ≤ wholeMinutes hours := by
    unfold wholeMinutes
    rw [if_pos h0, if_pos (h0.trans hle)]
    exact Int.floor_le_floor (by linarith)
  have hminutes := hends.mono hends' (Int.toNat_le_toNat hround)
  unfold TimeOfDay.sinceMidnight
  rw [hmicros, hmicros']
  omega

lemma minutes_lt_finishInTheDay {hours : ℚ} (hhours : 1 / 100 ≤ hours)
    (h : finishInTheDay s hours breaks = .ok (some f)) : s.minutes < f.minutes := by
  unfold finishInTheDay at h
  simp only at h
  split at h
  · cases h
  · simp only [map_eq_ok, Option.some.injEq, exists_eq_right] at h
    have hlt : (s.minutes : ℤ) <
        finishMinutes s.minutes (wholeMinutes hours) (mergedMinutes breaks) :=
      lt_finishMinutes (wholeMinutes_pos hhours)
    rw [← timeOf_eq_ok h] at hlt
    exact_mod_cast hlt

lemma times_of_lineWindow {part : TimeLine} {w : Window} (h : lineWindow part = some w) :
    part.payload.startTime = some w.start ∧ part.payload.endTime = some w.finish := by
  unfold lineWindow at h
  obtain ⟨start, hstart, h⟩ := Option.bind_eq_some_iff.mp h
  obtain ⟨finish, hfinish, h⟩ := Option.bind_eq_some_iff.mp h
  obtain rfl := Option.some.inj h
  exact ⟨hstart, hfinish⟩

lemma sinceMidnight_injective {t u : TimeOfDay} (h : t.sinceMidnight = u.sinceMidnight) : t = u := by
  have ht := t.micros_lt
  have hu := u.micros_lt
  unfold TimeOfDay.sinceMidnight at h
  exact TimeOfDay.ext (by omega) (by omega)

lemma latestOf_eq {finishes : List TimeOfDay} (hin : f ∈ finishes)
    (hle : ∀ t ∈ finishes, t.sinceMidnight ≤ f.sinceMidnight) : latestOf finishes clockIn = f := by
  unfold latestOf
  rcases hmax : finishes.argmax TimeOfDay.sinceMidnight with _ | m
  · rw [List.argmax_eq_none] at hmax
    rw [hmax] at hin
    cases hin
  · have hm := List.argmax_mem hmax
    have hfm : f.sinceMidnight ≤ m.sinceMidnight := List.le_of_mem_argmax hin hmax
    exact sinceMidnight_injective (le_antisymm (hle m hm) hfm)

lemma le_latestOf {finishes : List TimeOfDay} {t : TimeOfDay} (clockIn : TimeOfDay)
    (ht : t ∈ finishes) :
    t.sinceMidnight ≤ (latestOf finishes clockIn).sinceMidnight := by
  unfold latestOf
  rcases hmax : finishes.argmax TimeOfDay.sinceMidnight with _ | m
  · rw [List.argmax_eq_none] at hmax
    rw [hmax] at ht
    cases ht
  · exact List.le_of_mem_argmax ht hmax

/-- **A break that is laid** is stepped over by the rows after it. -/
lemma Reached.withBreak {part : TimeLine}
    (h : Reached worker.id day clockIn breaks cursor windows db)
    (hs : startAfterBreaks cursor breaks = .ok s) (hsf : s.minutes ≤ f.minutes)
    (hadds : AddsLines db mid [part]) (hbooks : SameBooks db db')
    (hentries : db'.entries = db.entries ++ [part])
    (hsame : ∀ staff date, db'.dayBreakWindows staff date = mid.dayBreakWindows staff date)
    (hbreak : some part.job = db.company.breakJob)
    (hon : (part.staff = worker.id && part.accountingDate = day : Bool) = true)
    (hwindow : lineWindow part = some ⟨s, f⟩) : ∃ windows',
      Reached worker.id day clockIn breaks f windows' db' ∧
        (Awaits worker.id day clockIn breaks cursor windows db →
          Awaits worker.id day clockIn breaks f windows' db') := by
  obtain ⟨-, hle, hmoved⟩ := startAfterBreaks_again hs
  obtain ⟨windows', hwindows', hperm⟩ := dayBreakWindows_added hadds h
  have hone : (([part].filter fun line => (some line.job = db.company.breakJob : Bool) &&
      (line.staff = worker.id && line.accountingDate = day)).filterMap lineWindow) = [⟨s, f⟩] := by
    have hcounts : ((some part.job = db.company.breakJob : Bool) &&
        (part.staff = worker.id && part.accountingDate = day)) = true := by
      rw [Bool.and_eq_true]
      exact ⟨decide_eq_true hbreak, hon⟩
    simp only [List.filter_cons, hcounts, if_pos, List.filter_nil, List.filterMap_cons, hwindow,
      List.filterMap_nil]
  have hnone : (([part].filter fun line => (some line.job ≠ db.company.breakJob : Bool) &&
      (line.staff = worker.id && line.accountingDate = day)).filterMap lineWindow) = [] := by
    simp [hbreak]
  rw [hone] at hperm
  have hadded : (windows'.map Window.minutes).Perm
      ((s.minutes, f.minutes) :: windows.map Window.minutes) := hperm.map Window.minutes
  have hfinishes : db'.entryFinishes worker.id day = db.entryFinishes worker.id day := by
    rw [entryFinishes_added hbooks.company hentries, hnone, List.map_nil, List.append_nil]
  have hpast : (cursor.minutes : ℤ) ≤ f.minutes := by exact_mod_cast hle.trans hsf
  refine ⟨windows', ⟨h.clocked.of_books hbooks, (hsame _ _).trans hwindows', fun c n hc => ?_⟩,
    fun hawaits => ⟨?_, ?_⟩⟩
  · exact (finishMinutes_insert hadded hc).trans (h.agrees c n (hpast.trans hc))
  · rw [hfinishes]
    exact hawaits.before.trans (hle.trans hsf)
  · rw [hfinishes]
    calc finishMinutes (latestOf (db.entryFinishes worker.id day) clockIn).minutes 0
          (mergedMinutes windows')
        = finishMinutes f.minutes 0 (mergedMinutes windows) :=
          finishMinutes_extend hadded hsf (hmoved.trans hawaits.moves.symm)
      _ = finishMinutes f.minutes 0 (mergedMinutes breaks) := h.agrees _ 0 hpast

/-- **An entry that is laid** is the day's latest, and no break. -/
lemma Reached.withEntry (h : Reached worker.id day clockIn breaks cursor windows db)
    (hadds : AddsLines db mid added) (hbooks : SameBooks db db')
    (hentries : db'.entries = db.entries ++ added)
    (hsame : ∀ staff date, db'.dayBreakWindows staff date = mid.dayBreakWindows staff date)
    (hbreak : ∀ part ∈ added, some part.job ≠ db.company.breakJob)
    (hon : ∀ part ∈ added, (part.staff = worker.id && part.accountingDate = day : Bool) = true)
    (hcursor : cursor.minutes < f.minutes)
    (hlast : ∃ part ∈ added, ∃ t, lineWindow part = some ⟨t, f⟩)
    (hends : WellFormed breaks → ∀ part ∈ added, ∀ w ∈ lineWindow part,
      w.finish.sinceMidnight ≤ f.sinceMidnight) :
    Reached worker.id day clockIn breaks f windows db' ∧
      (WellFormed breaks → Awaits worker.id day clockIn breaks cursor windows db →
        Awaits worker.id day clockIn breaks f windows db') := by
  have hcast : (cursor.minutes : ℤ) ≤ f.minutes := by exact_mod_cast hcursor.le
  have hall : (added.filter fun line => (some line.job ≠ db.company.breakJob : Bool) &&
      (line.staff = worker.id && line.accountingDate = day)) = added := by
    refine List.filter_eq_self.mpr fun part hpart => ?_
    rw [Bool.and_eq_true]
    exact ⟨decide_eq_true (hbreak part hpart), hon part hpart⟩
  refine ⟨⟨h.clocked.of_books hbooks, ?_, fun c n hc => h.agrees c n (hcast.trans hc)⟩,
    fun hwell hawaits => ?_⟩
  · rw [hsame, hadds.dayBreakWindows worker.id day hbreak, h.stands]
  have hlatest : latestOf (db'.entryFinishes worker.id day) clockIn = f := by
    rw [entryFinishes_added hbooks.company hentries, hall]
    apply latestOf_eq
    · obtain ⟨part, hpart, t, hwindow⟩ := hlast
      refine List.mem_append_right _ (List.mem_map.mpr ⟨⟨t, f⟩, ?_, rfl⟩)
      exact List.mem_filterMap.mpr ⟨part, hpart, hwindow⟩
    · intro t ht
      rcases List.mem_append.mp ht with hold | hadded
      · -- what there was ends by the cursor
        have hbefore : latestOf (db.entryFinishes worker.id day) clockIn < f :=
          lt_of_minutes_lt (hawaits.before.trans_lt hcursor)
        exact (le_latestOf clockIn hold).trans (le_of_lt (α := ℕ) hbefore)
      · obtain ⟨w, hw, rfl⟩ := List.mem_map.mp hadded
        obtain ⟨part, hpart, hwindow⟩ := List.mem_filterMap.mp hw
        exact hends hwell part hpart w hwindow
  constructor
  · exact (congrArg TimeOfDay.minutes hlatest).le
  · rw [hlatest]
    exact h.agrees _ 0 hcast

variable (line) in
/-- **A row that fits** is stored where it was laid, and brings the day to its finish. -/
lemma Reached.fits (h : Reached worker.id day clockIn breaks cursor windows db)
    (hs : startAfterBreaks cursor breaks = .ok s)
    (hf : finishInTheDay s line.hours breaks = .ok (some f)) (hstart : line.start = some s)
    (hfinish : line.finish = some f) (hjob : db.findJob line.job = .ok job)
    (hrun : (createEntry worker (rowEntry day job line) none none).run db = .ok (created, db')) :
    StoredAs line (db'.entries.filter (· ∉ db.entries)) ∧ ∃ windows',
      Reached worker.id day clockIn breaks f windows' db' ∧
        (WellFormed breaks → Awaits worker.id day clockIn breaks cursor windows db →
          Awaits worker.id day clockIn breaks f windows' db') := by
  obtain ⟨job', lines, added, mid, hjob', hhours, hlines, hadds, hstores, hbooks, hentries, hnew,
    hsame⟩ := run_createEntry hrun
  obtain rfl : job = job' := Except.ok.inj (hjob.symm.trans hjob')
  have hid : job.id = line.job := findJob_eq_ok hjob
  have hhours' : refuseBadHours line.hours = .ok () := hhours
  have hpos : 0 < line.hours := pos_of_refuseBadHours hhours'
  obtain ⟨hs', hf'⟩ := h.placed hs hf
  obtain ⟨-, hle, hmoved⟩ := startAfterBreaks_again hs
  have hsf' : s.minutes ≤ f.minutes := le_finishInTheDay hpos.le hf
  have htimed : withTimes db worker none (rowEntry day job line) = .ok (rowEntry day job line) :=
    withTimes_of_placed hstart hfinish h.stands hs' hf'
  obtain ⟨hjoins, hwhole⟩ := joins_of_entryLines hpos.le htimed hlines
  have hstored : StoredAs line added := storedAs_of_joins hstores hjoins hid rfl rfl rfl fun hnone => by
    rw [hstart] at hnone
    cases hnone
  rw [hnew]
  refine ⟨hstored, ?_⟩
  obtain ⟨hdates, -⟩ := dates_of_entryLines hlines
  obtain ⟨-, -, -, hall⟩ := rowColumns_of_stores hstores
  have hon : ∀ part ∈ added, (part.staff = worker.id && part.accountingDate = day : Bool) = true := by
    intro part hpart
    obtain ⟨-, hstaff, stored, hmem, hdate, -⟩ := hall part hpart
    have hday : stored.accountingDate = day := hdates stored hmem
    simp [hstaff, hdate, hday]
  have hagrees : ∀ c n : ℤ, f.minutes ≤ c →
      finishMinutes c n (mergedMinutes windows) = finishMinutes c n (mergedMinutes breaks) :=
    fun c n hc => h.agrees c n (by omega)
  obtain ⟨hcs, hcf, -, -⟩ := times_chargedUrgent job (rowEntry day job line)
  by_cases hbreak : some line.job = db.company.breakJob
  · -- a break is one line, which the later rows step over
    rw [hwhole (hid ▸ hbreak)] at hall hstores
    obtain ⟨part, rfl⟩ : ∃ part, added = [part] := by
      obtain ⟨part, rest, -, hrest, rfl⟩ := List.forall₂_cons_left_iff.mp hstores
      exact ⟨part, by rw [List.forall₂_nil_left_iff.mp hrest]⟩
    obtain ⟨hpartJob, -, stored, hmem, -, hps, hpf⟩ := hall part List.mem_cons_self
    obtain rfl := List.mem_singleton.mp hmem
    obtain ⟨windows', hreached, hawaits⟩ := h.withBreak hs hsf' hadds hbooks hentries hsame
      (by rw [hpartJob, hid, hbreak]) (hon part List.mem_cons_self)
      (lineWindow_eq_some (hps.trans (hcs.trans hstart)) (hpf.trans (hcf.trans hfinish)))
    exact ⟨windows', hreached, fun _ => hawaits⟩
  · -- an entry is no break, and the day's latest
    refine ⟨windows, h.withEntry hadds hbooks hentries hsame (fun part hpart => ?_) hon ?_ ?_ ?_⟩
    · rw [(hall part hpart).1, hid]
      exact hbreak
    · exact hle.trans_lt (minutes_lt_finishInTheDay (hundredth_of_refuseBadHours hhours') hf)
    · have hend := hstored.finish
      rw [hfinish] at hend
      obtain ⟨part, hpart, hend⟩ := Option.bind_eq_some_iff.mp hend
      have hin : part ∈ added := List.mem_of_getLast? hpart
      obtain ⟨-, -, stored, hmem, -, hps, -⟩ := hall part hin
      have hboth := (hjoins.both (Option.isSome_iff_exists.mpr ⟨s, hstart⟩)
        (Option.isSome_iff_exists.mpr ⟨f, hfinish⟩) stored hmem).1
      obtain ⟨t, ht⟩ := Option.isSome_iff_exists.mp hboth
      exact ⟨part, hin, t, lineWindow_eq_some (hps.trans ht) hend⟩
    · intro hwell part hpart w hwindow
      obtain ⟨-, -, stored, hmem, -, -, hpf⟩ := hall part hpart
      obtain ⟨-, hend⟩ := times_of_lineWindow hwindow
      rcases hjoins.cuts s hstart stored hmem w.finish (hpf.symm.trans hend) with
        hlast | ⟨now, hours, hnow, h0, hless, hcut⟩
      · obtain rfl : f = w.finish := Option.some.inj (hfinish.symm.trans hlast)
        exact le_rfl
      · obtain rfl : windows = now := Except.ok.inj (h.stands.symm.trans hnow)
        have hcast : (cursor.minutes : ℤ) ≤ s.minutes := by exact_mod_cast hle
        rw [finishInTheDay_of_eq (h.agrees _ _ hcast)] at hcut
        exact finishInTheDay_mono hwell h0 hless hf hcut

end Fits

/-! ### A row the day cannot hold -/

section Untimed

variable {worker : Staff} {day : ℤ} {clockIn cursor s : TimeOfDay} {breaks windows : List Window}
  {db db' : Timesheets} {job : WorkJob} {line : LaidLine} {created : TimeLine}
  {finish : Option TimeOfDay}

variable (line) in
/-- **A row laid out without times** is placed all the same where it fits: it is stored as it was laid
out exactly where it does not. -/
lemma Reached.withoutTimes (h : Reached worker.id day clockIn breaks cursor windows db)
    (hawaits : Awaits worker.id day clockIn breaks cursor windows db)
    (hs : startAfterBreaks cursor breaks = .ok s)
    (hf : finishInTheDay s line.hours breaks = .ok finish) (hstart : line.start = none)
    (hfinish : line.finish = none) (hjob : db.findJob line.job = .ok job)
    (hrun : (createEntry worker (rowEntry day job line) none none).run db = .ok (created, db')) :
    (StoredAs line (db'.entries.filter (· ∉ db.entries)) ↔ finish = none) ∧
      (finish = none → ∃ windows', Reached worker.id day clockIn breaks cursor windows' db' ∧
        Awaits worker.id day clockIn breaks cursor windows' db') := by
  obtain ⟨job', lines, added, mid, hjob', hhours, hlines, hadds, hstores, hbooks, hentries, hnew,
    hsame⟩ := run_createEntry hrun
  obtain rfl : job = job' := Except.ok.inj (hjob.symm.trans hjob')
  have hid : job.id = line.job := findJob_eq_ok hjob
  have hhours' : refuseBadHours line.hours = .ok () := hhours
  have hpos : 0 < line.hours := pos_of_refuseBadHours hhours'
  obtain ⟨-, hle, -⟩ := startAfterBreaks_again hs
  have hcast : (cursor.minutes : ℤ) ≤ s.minutes := by exact_mod_cast hle
  have hplaced : finishInTheDay s line.hours windows = .ok finish := by
    rw [finishInTheDay_of_eq (h.agrees _ _ hcast), hf]
  have htimed : withTimes db worker none (rowEntry day job line) =
      .ok { rowEntry day job line with startTime := finish.map fun _ => s, endTime := finish } :=
    withTimes_of_untimed hstart hfinish ((hawaits.nextEntryStart h).trans hs) h.stands hplaced
  obtain ⟨hjoins, -⟩ := joins_of_entryLines hpos.le htimed hlines
  obtain ⟨hstarts, -, -, hall⟩ := rowColumns_of_stores hstores
  rw [hnew]
  rcases finish with _ | f
  · refine ⟨⟨fun _ => rfl, fun _ => ?_⟩, fun _ => ?_⟩
    · exact storedAs_of_joins hstores hjoins hid hstart.symm hfinish.symm rfl fun _ => hfinish
    · obtain ⟨windows', hreached, hkept⟩ := h.untimed hadds hbooks hentries hsame fun part hpart => by
        obtain ⟨-, -, stored, hmem, -, hps, -⟩ := hall part hpart
        unfold lineWindow
        rw [hps, (hjoins.untimed rfl rfl stored hmem).1]
        rfl
      exact ⟨windows', hreached, hkept hawaits⟩
  · refine ⟨⟨fun hstored => ?_, fun hnone => by cases hnone⟩, fun hnone => by cases hnone⟩
    have hhead := hstored.start
    rw [head?_bind_map, hstarts, ← head?_bind_map, hjoins.start, hstart] at hhead
    cases hhead

end Untimed

/-! ## All the rows -/

section Rows

variable {actor worker : Staff} {day : ℤ} {clockIn cursor : TimeOfDay} {breaks windows : List Window}
  {rows : List FillRow} {laid : List LaidLine} {stored : List (List TimeLine)} {db db' : Timesheets}

lemma nonneg_of_createEntry {job : WorkJob} (line : LaidLine) {created : TimeLine}
    (h : (createEntry worker (rowEntry day job line) none none).run db = .ok (created, db')) :
    0 ≤ line.hours := by
  obtain ⟨_, _, _, _, -, hhours, -⟩ := run_createEntry h
  have hhours' : refuseBadHours line.hours = .ok () := hhours
  exact le_of_lt (pos_of_refuseBadHours hhours')

lemma layOutRows_none : layOutRows none breaks rows = .ok (rows.map fun row =>
    ⟨row.job, none, none, row.hours, row.description, row.timeAndAHalf⟩) := by
  induction rows with
  | nil => rfl
  | cons row rows ih =>
      simp only [layOutRows, placeRow, ok_bind, ih, pure_eq_ok, List.map_cons]

/-- The rows after one the day cannot hold are stored without times exactly where none fits: an
induction on them, the day standing still. -/
lemma storeRows_untimed (h : Reached worker.id day clockIn breaks cursor windows db)
    (hawaits : Awaits worker.id day clockIn breaks cursor windows db)
    (hlaid : layOutRows none breaks rows = .ok laid)
    (hrun : (storeRows worker day laid).run db = .ok (stored, db')) :
    List.Forall₂ StoredAs laid stored ↔
      ∀ later ∈ rows, placeRow (some cursor) later.hours breaks = .ok (none, none) := by
  rw [layOutRows_none] at hlaid
  obtain rfl := Except.ok.inj hlaid
  clear hlaid
  induction rows generalizing db windows stored with
  | nil =>
      obtain ⟨rfl, -⟩ := run_pure.mp hrun
      simp
  | cons row rows ih =>
      obtain ⟨job, created, mid, rest, hjob, hcreate, hrest, rfl⟩ := run_storeRows_cons.mp hrun
      obtain ⟨s, hs, -⟩ := startAfterBreaks_eq_ok cursor breaks
      let line : LaidLine := ⟨row.job, none, none, row.hours, row.description, row.timeAndAHalf⟩
      have hpos : 0 ≤ row.hours := nonneg_of_createEntry line hcreate
      obtain ⟨finish, hfinish⟩ := finishInTheDay_eq_ok s hpos breaks
      obtain ⟨hhead, hgoes⟩ := h.withoutTimes line hawaits hs hfinish rfl rfl hjob hcreate
      rw [List.map_cons, List.forall₂_cons, List.forall_mem_cons, placeRow_some hs hfinish, hhead]
      rcases finish with _ | finish
      · obtain ⟨windows', hreached, hawaits'⟩ := hgoes rfl
        simp only [Option.map_none, true_and]
        exact ih hreached hawaits' hrest
      · simp

/-- **The rows of a day** are stored as they were laid out exactly where no row fits after one that
does not: an induction on the rows, the day going on to the finish of each that fits. -/
lemma storeRows_laid (hwell : WellFormed breaks)
    (h : Reached worker.id day clockIn breaks cursor windows db)
    (hawaits : Awaits worker.id day clockIn breaks cursor windows db)
    (hlaid : layOutRows (some cursor) breaks rows = .ok laid)
    (hrun : (storeRows worker day laid).run db = .ok (stored, db')) :
    List.Forall₂ StoredAs laid stored ↔ NoneFitsLater breaks cursor rows := by
  induction rows generalizing db windows stored cursor laid with
  | nil =>
      obtain rfl := Except.ok.inj hlaid
      obtain ⟨rfl, -⟩ := run_pure.mp hrun
      simp [NoneFitsLater]
  | cons row rows ih =>
      simp only [layOutRows, bind_eq_ok, pure_eq_ok] at hlaid
      obtain ⟨⟨begins, ends⟩, hplace, rest, hrest, rfl⟩ := hlaid
      obtain ⟨job, created, mid, storedRest, hjob, hcreate, hrunRest, rfl⟩ :=
        run_storeRows_cons.mp hrun
      obtain ⟨s, hs, -⟩ := startAfterBreaks_eq_ok cursor breaks
      have hpos : 0 ≤ row.hours := nonneg_of_createEntry
        ⟨row.job, begins, ends, row.hours, row.description, row.timeAndAHalf⟩ hcreate
      obtain ⟨finish, hfinish⟩ := finishInTheDay_eq_ok s hpos breaks
      have hplaced := placeRow_some hs hfinish
      obtain ⟨rfl, rfl⟩ := Prod.mk.inj (Except.ok.inj (hplace.symm.trans hplaced))
      rw [List.forall₂_cons, NoneFitsLater, hplaced]
      rcases ends with _ | f
      · -- nothing after it has times
        obtain ⟨hhead, hgoes⟩ := h.withoutTimes
          ⟨row.job, _, none, row.hours, row.description, row.timeAndAHalf⟩ hawaits hs hfinish rfl rfl
          hjob hcreate
        obtain ⟨windows', hreached, hawaits'⟩ := hgoes rfl
        simp only [Option.map_none]
        rw [hhead, storeRows_untimed hreached hawaits' hrest hrunRest]
        simp
      · obtain ⟨hhead, windows', hreached, hkept⟩ := h.fits
          ⟨row.job, some s, some f, row.hours, row.description, row.timeAndAHalf⟩ hs hfinish rfl rfl
          hjob hcreate
        simp only
        rw [ih hreached (hkept hwell hawaits) hrest hrunRest]
        exact and_iff_right hhead

lemma storeRows_allFit (h : Reached worker.id day clockIn breaks cursor windows db)
    (hall : AllFit breaks cursor rows) (hlaid : layOutRows (some cursor) breaks rows = .ok laid)
    (hrun : (storeRows worker day laid).run db = .ok (stored, db')) :
    List.Forall₂ StoredAs laid stored := by
  induction rows generalizing db windows stored cursor laid with
  | nil =>
      obtain rfl := Except.ok.inj hlaid
      obtain ⟨rfl, -⟩ := run_pure.mp hrun
      exact .nil
  | cons row rows ih =>
      simp only [layOutRows, bind_eq_ok, pure_eq_ok] at hlaid
      obtain ⟨⟨begins, ends⟩, hplace, rest, hrest, rfl⟩ := hlaid
      obtain ⟨job, created, mid, storedRest, hjob, hcreate, hrunRest, rfl⟩ :=
        run_storeRows_cons.mp hrun
      rw [AllFit, hplace] at hall
      obtain ⟨s, hs, -⟩ := startAfterBreaks_eq_ok cursor breaks
      have hpos : 0 ≤ row.hours := nonneg_of_createEntry
        ⟨row.job, begins, ends, row.hours, row.description, row.timeAndAHalf⟩ hcreate
      obtain ⟨finish, hfinish⟩ := finishInTheDay_eq_ok s hpos breaks
      obtain ⟨rfl, rfl⟩ := Prod.mk.inj (Except.ok.inj (hplace.symm.trans (placeRow_some hs hfinish)))
      rcases ends with _ | f
      · exact absurd hall id
      · obtain ⟨hhead, windows', hreached, -⟩ := h.fits
          ⟨row.job, some s, some f, row.hours, row.description, row.timeAndAHalf⟩ hs hfinish rfl rfl
          hjob hcreate
        exact .cons hhead (ih hreached hall hrest hrunRest)

lemma storeRows_entries (hrun : (storeRows worker day laid).run db = .ok (stored, db')) :
    db'.entries = db.entries ++ stored.flatten := by
  induction laid generalizing db stored with
  | nil =>
      obtain ⟨rfl, rfl⟩ := run_pure.mp hrun
      simp
  | cons line laid ih =>
      obtain ⟨job, created, mid, rest, -, hcreate, hrest, rfl⟩ := run_storeRows_cons.mp hrun
      obtain ⟨_, _, added, _, -, -, -, -, -, -, hentries, hnew, -⟩ := run_createEntry hcreate
      rw [ih hrest, List.flatten_cons, hnew, ← List.append_assoc, hentries]

lemma reached_begins {row : AttendanceDay} {begins : TimeOfDay}
    (hclocked : ClockedAt worker.id day row.clockIn db)
    (hbegins : defaultEntryStart db.company day (some row)
      (splitBreaks db.company (db.dayTimeLines worker.id day)).1
      (splitBreaks db.company (db.dayTimeLines worker.id day)).2 = .ok begins)
    (hbreaks : breakWindows db.company day (some row)
      (splitBreaks db.company (db.dayTimeLines worker.id day)).2 = .ok breaks) :
    Reached worker.id day row.clockIn breaks begins breaks db ∧
      Awaits worker.id day row.clockIn breaks begins breaks db := by
  have hstands : db.dayBreakWindows worker.id day = .ok breaks := by
    rw [dayBreakWindows_eq hclocked, ← hbreaks]
    rfl
  have hnext : startAfterBreaks (latestOf (db.entryFinishes worker.id day) row.clockIn) breaks =
      .ok begins := by
    rw [← nextEntryStart_eq hclocked hstands, ← hbegins]
    obtain ⟨found, hfound, hclock⟩ := hclocked
    unfold Timesheets.nextEntryStart defaultEntryStart breakWindows
    simp only [hfound, Option.map_some, hclock]
  obtain ⟨-, hle, hmoved⟩ := startAfterBreaks_again hnext
  refine ⟨⟨hclocked, hstands, fun _ _ _ => rfl⟩, hle, ?_⟩
  rw [hmoved, finishMinutes_again]

/-- **A sent day stores its plan** exactly where no row fits after one that does not, the day's breaks
running forward; and, however they run, where every row fits. -/
theorem submitDay_stores_plan
    (hrun : (submitDay actor worker day rows).run db = .ok ((), db')) :
    ∃ sent settled, (sentDay actor worker day rows).run db = .ok (sent, db') ∧
      layOutRows (some sent.begins) sent.breaks rows = .ok sent.laid ∧
      (∃ row, (settleDay worker day actor).run db = .ok (row, settled)) ∧
      db'.entries = settled.entries ++ sent.stored.flatten ∧
      (WellFormed sent.breaks → (List.Forall₂ StoredAs sent.laid sent.stored ↔
        NoneFitsLater sent.breaks sent.begins rows)) ∧
      (AllFit sent.breaks sent.begins rows → List.Forall₂ StoredAs sent.laid sent.stored) := by
  obtain ⟨sent, hsent⟩ := run_submitDay_iff.mp hrun
  obtain ⟨row, settled, saved, -, hsettle, hbegins, hbreaks, hlaid, hstored, hsave⟩ :=
    run_sentDay.mp hsent
  obtain ⟨hreached, hawaits⟩ := reached_begins (clockedAt_settleDay hsettle) hbegins hbreaks
  obtain ⟨honly, -, hlines⟩ := run_saveRow hsave
  refine ⟨sent, settled, hsent, hlaid, ⟨row, hsettle⟩, ?_, fun hwell => ?_, fun hall => ?_⟩
  · rw [← storeRows_entries hstored]
    unfold Timesheets.entries
    rw [hlines, honly.setting.company]
  · exact storeRows_laid hwell hreached hawaits hlaid hstored
  · exact storeRows_allFit hreached hall hlaid hstored

/-- A morning and an afternoon on the handrail. -/
def fittingRows : List FillRow := [⟨3, 4, none, false⟩, ⟨3, 2, none, false⟩]

/-- More hours than the day has, and then an hour. -/
def overfullRows : List FillRow := [⟨3, 20, none, false⟩, ⟨3, 1, none, false⟩]

/-- A day that holds its rows stores them as they were laid out. -/
theorem submitDay_stores_plan_fitting_rows :
    ∃ sent db', (sentDay fitter fitter 0 fittingRows).run (fittersDay clockedDay .empty) =
        .ok (sent, db') ∧ List.Forall₂ StoredAs sent.laid sent.stored := by
  obtain ⟨sent, db', hsent, htest⟩ := exists_of_endsIn (x := sentDay fitter fitter 0 fittingRows)
    (s := fittersDay clockedDay .empty)
    (p := fun sent _ => decide (WellFormed sent.breaks ∧
      NoneFitsLater sent.breaks sent.begins fittingRows)) (by decide +kernel)
  obtain ⟨hwell, hnone⟩ := of_decide_eq_true htest
  obtain ⟨sent', _, hsent', -, -, -, hstores, -⟩ :=
    submitDay_stores_plan (run_submitDay_iff.mpr ⟨sent, hsent⟩)
  obtain rfl : sent' = sent := congrArg Prod.fst (Except.ok.inj (hsent'.symm.trans hsent))
  exact ⟨sent', db', hsent', (hstores hwell).mpr hnone⟩

/-- **An hour after a row the day cannot hold** is laid out without times and stored with them. -/
theorem hour_after_an_overfull_row_is_placed :
    ∃ sent db', (submitDay fitter fitter 0 overfullRows).run (fittersDay clockedDay .empty) =
        .ok ((), db') ∧
      (sentDay fitter fitter 0 overfullRows).run (fittersDay clockedDay .empty) = .ok (sent, db') ∧
      ¬List.Forall₂ StoredAs sent.laid sent.stored := by
  obtain ⟨sent, db', hsent, htest⟩ := exists_of_endsIn (x := sentDay fitter fitter 0 overfullRows)
    (s := fittersDay clockedDay .empty)
    (p := fun sent _ => decide ¬List.Forall₂ StoredAs sent.laid sent.stored) (by decide +kernel)
  exact ⟨sent, db', run_submitDay_iff.mpr ⟨sent, hsent⟩, hsent, of_decide_eq_true htest⟩

end Rows

end Timesheet

end Docketworks
