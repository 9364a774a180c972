import Docketworks.Timesheet.LineRules

/-!
# The times of breaks

Whether a line on the Break job can finish before it starts, after every run of time-entry
operations.

* `lt_finishInTheDay` — hours placed in a day take a minute of it at least.
* `BreaksForward` — every break that has both times finishes after it starts.
* `TimeOperation.GivesBreakTimes` — what the operation itself does not check of a break's times.
* `breaks_run_forward` — every run of the operations.

**Design.**  An entry made on the Break job keeps the times it was given, and so does one moved there
by a patch that sets none; every other path to the Break job checks them.
-/

namespace Docketworks

open Library Library.Transaction

namespace Timesheet

/-! ## Times in order -/

/-- A line that has both times finishes after it starts. -/
def Forward (start finish : Option TimeOfDay) : Prop :=
  ∀ s ∈ start, ∀ f ∈ finish, s < f

instance (start finish : Option TimeOfDay) : Decidable (Forward start finish) :=
  inferInstanceAs (Decidable (∀ _ ∈ _, ∀ _ ∈ _, _))

lemma lt_finishMinutes {taken : List (ℕ × ℕ)} {cursor remaining : ℤ} (h : 0 < remaining) :
    cursor < finishMinutes cursor remaining taken := by
  induction taken generalizing cursor remaining with
  | nil => exact lt_add_of_pos_right _ h
  | cons t rest ih =>
      unfold finishMinutes
      split
      · exact ih h
      rename_i hpast
      split
      · exact (lt_of_not_ge hpast).trans (ih h)
      split
      · exact lt_add_of_pos_right _ h
      · rename_i hover
        have hrest : 0 < remaining - (t.1 - cursor) := by omega
        exact (lt_of_not_ge hpast).trans (ih hrest)

lemma wholeMinutes_pos {hours : ℚ} (h : 1 / 100 ≤ hours) : 0 < wholeMinutes hours := by
  unfold wholeMinutes
  rw [if_pos (by linarith)]
  exact Int.floor_pos.mpr (by linarith)

lemma hundredth_of_refuseBadHours {hours : ℚ} {u : Unit} (h : refuseBadHours hours = .ok u) :
    1 / 100 ≤ hours := by
  have hpos := pos_of_refuseBadHours h
  have hround : hours = roundHalfEven 2 hours := by
    unfold refuseBadHours at h
    split at h
    · cases h
    · rename_i hgood
      exact not_not.mp fun hne => hgood (.inr (.inr hne))
  obtain ⟨n, hn⟩ := isDecimal_iff.mp (hround ▸ isDecimal_roundHalfEven : IsDecimal 2 hours)
  have hn1 : 1 ≤ n := by
    have hcast : (0 : ℚ) < n := by rw [← hn]; positivity
    exact_mod_cast hcast
  have hle : (1 : ℚ) ≤ hours * 10 ^ 2 := hn ▸ by exact_mod_cast hn1
  linarith

lemma lt_finishInTheDay {start finish : TimeOfDay} {hours : ℚ} {breaks : List Window}
    (hhours : 1 / 100 ≤ hours) (h : finishInTheDay start hours breaks = .ok (some finish)) :
    start < finish := by
  unfold finishInTheDay at h
  simp only at h
  split at h
  · cases h
  · simp only [map_eq_ok, Option.some.injEq, exists_eq_right] at h
    have hlt : (start.minutes : ℤ) <
        finishMinutes start.minutes (wholeMinutes hours) (mergedMinutes breaks) :=
      lt_finishMinutes (wholeMinutes_pos hhours)
    rw [← timeOf_eq_ok h] at hlt
    exact lt_of_minutes_lt (by exact_mod_cast hlt)

/-! ## The invariant -/

/-- **Breaks run forward**: a line on the Break job that has both times finishes after it starts. -/
def BreaksForward (db : Timesheets) : Prop :=
  ∀ line ∈ db.lines.rows, some line.job = db.company.breakJob →
    Forward line.payload.startTime line.payload.endTime

instance : DecidablePred BreaksForward := fun _ => inferInstanceAs (Decidable (∀ _ ∈ _, _ → _))

/-- The line is no break running backward, where breaks are on the job. -/
def NotBackward (breakJob : Option ℕ) (line : TimeLine) : Prop :=
  some line.job = breakJob → Forward line.payload.startTime line.payload.endTime

section Keeping

variable {breakJob : Option ℕ}

/-- The entry gives a break no times that run backward. -/
def GivesForward (breakJob : Option ℕ) (data : WorkshopEntryCreateData) : Prop :=
  some data.job = breakJob → Forward data.startTime data.endTime

lemma forward_of_entryLines {db : Timesheets} {owner : Staff} {job : WorkJob}
    {managedBy : Option CostLineOwner} {data : WorkshopEntryCreateData} {lines : EntryLines}
    (hbreak : some job.id = db.company.breakJob) (hjob : job.id = data.job)
    (hhours : 1 / 100 ≤ data.hours) (hgives : Forward data.startTime data.endTime)
    (h : entryLines db owner job managedBy data = .ok lines) :
    ∀ part ∈ lines.parts, Forward part.startTime part.endTime := by
  unfold entryLines at h
  simp only [bind_eq_ok] at h
  obtain ⟨timed, htimed, _, -, overtime, hovertime, h⟩ := h
  have hforward : Forward timed.startTime timed.endTime := by
    unfold withTimes placed at htimed
    split at htimed
    · split at htimed
      · simp only [bind_eq_ok] at htimed
        obtain ⟨start, -, breaks, -, finish, hfinish, htimed⟩ := htimed
        rcases finish with _ | finish
        · obtain rfl := Except.ok.inj htimed
          exact hgives
        · obtain rfl := Except.ok.inj htimed
          rintro s ⟨rfl⟩ f ⟨rfl⟩
          exact lt_finishInTheDay hhours hfinish
      · obtain rfl := Except.ok.inj htimed
        exact hgives
    · rw [if_neg (by rw [← hjob]; exact not_not.mpr hbreak)] at htimed
      obtain rfl := Except.ok.inj htimed
      exact hgives
  -- time on the Break job is never overtime
  have hnone : overtime = 0 := by
    unfold overtimePart at hovertime
    rw [if_pos (.inr (.inl hbreak))] at hovertime
    exact (Except.ok.inj hovertime).symm
  rw [if_pos hnone] at h
  obtain rfl := Except.ok.inj h
  obtain ⟨hstart, hend, -⟩ := times_chargedUrgent job timed
  refine List.forall_mem_singleton.mpr ?_
  rw [hstart, hend]
  exact hforward

/-- The patch points no line that runs backward at the Break job, but where it sets its hours, its
times or its day. -/
def MovesForward (breakJob : Option ℕ) (db : Timesheets) (data : WorkshopEntryUpdateData) : Prop :=
  ∀ line, db.lines.find? data.entry = some line → some (data.job.getD line.job) = breakJob →
    (data.movesTheFinish || data.endTime.isSome) = false →
      Forward line.payload.startTime line.payload.endTime

lemma forward_of_requireBreakTimes {start finish : TimeOfDay} {u : Unit}
    (h : requireBreakTimes start finish = .ok u) : start < finish := by
  unfold requireBreakTimes at h
  split at h
  · cases h
  · rename_i hlt
    exact lt_of_not_ge (α := ℕ) hlt

lemma forward_of_redrawFinish {db : Timesheets} {data : WorkshopEntryUpdateData}
    {line redrawn : TimeLine} (hbreak : some line.job = db.company.breakJob)
    (hgives : (data.movesTheFinish || data.endTime.isSome) = false →
      Forward line.payload.startTime line.payload.endTime)
    (h : redrawFinish db data line = .ok redrawn) :
    Forward redrawn.payload.startTime redrawn.payload.endTime := by
  unfold redrawFinish at h
  split at h
  · rename_i hset
    obtain rfl := Except.ok.inj h
    exact hgives hset
  split at h
  · rename_i start finish htimes
    simp only [bind_eq_ok, pure_eq_ok] at h
    obtain ⟨_, hcheck, rfl⟩ := h
    obtain ⟨hstart, hfinish⟩ := Prod.mk.inj htimes
    intro s hs f hf
    obtain rfl := Option.some.inj (hstart.symm.trans hs)
    obtain rfl := Option.some.inj (hfinish.symm.trans hf)
    exact forward_of_requireBreakTimes hcheck
  · rename_i hnot
    obtain rfl := Except.ok.inj h
    exact fun s hs f hf => absurd (Prod.ext hs hf) (hnot s f)

lemma times_markBreakEdited (payload : EntryMeta) :
    (markBreakEdited payload).startTime = payload.startTime ∧
      (markBreakEdited payload).endTime = payload.endTime := by
  unfold markBreakEdited
  split <;> exact ⟨rfl, rfl⟩

lemma forward_of_patched {db : Timesheets} {owner : Staff} {source : WorkJob}
    {line edited : TimeLine} {data : WorkshopEntryUpdateData}
    (hmoves : MovesForward db.company.breakJob db data)
    (hfound : db.lines.find? data.entry = some line) (hsource : db.findJob line.job = .ok source)
    (patched : Patched db owner source line data edited) :
    NotBackward db.company.breakJob edited := by
  obtain ⟨hon, hstart, hend⟩ := patched.priced_columns (findJob_eq_ok hsource)
  intro hbreak
  obtain ⟨start, finish, hredrawn⟩ := redrawFinish_eq_ok patched.redrew
  have hpriced : some patched.priced.job = db.company.breakJob := by
    rw [patched.edited_eq, hredrawn] at hbreak
    exact hbreak
  obtain ⟨hstart', hend'⟩ := times_markBreakEdited patched.redrawn.payload
  rw [patched.edited_eq]
  simp only [hstart', hend']
  refine forward_of_redrawFinish hpriced (fun hset => ?_) patched.redrew
  have hunset : data.startTime = none ∧ data.endTime = none := by
    simp only [WorkshopEntryUpdateData.movesTheFinish, Bool.or_eq_false_iff,
      Option.isSome_eq_false_iff, Option.isNone_iff_eq_none] at hset
    exact ⟨hset.1.1.2, hset.2⟩
  rw [hstart, hend, hunset.1, hunset.2]
  rw [hon, findJob_eq_ok patched.found] at hpriced
  exact hmoves line hfound hpriced hset

variable (breakJob) in
/-- No line runs backward on the Break job there is. -/
def breaksRule : LineRule where
  Setup db := db.company.breakJob = breakJob
  Line := NotBackward breakJob
  Owner _ := True
  Gives := GivesForward breakJob
  Moves := MovesForward breakJob
  setup_written _ _ _ h := h
  owner_of_setup _ _ := trivial
  gives_timed hstart hfinish hlt _ s hs f hf := by
    obtain rfl := Option.some.inj (hstart.symm.trans hs)
    obtain rfl := Option.some.inj (hfinish.symm.trans hf)
    exact hlt
  moves_timed _ _ _ _ _ _ _ _ h := by cases h
  booked hsetup _ hgives hjob hhours hlines hpart hstored hbreak := by
    obtain ⟨hon, -, -, -, -, -, hstart, hend⟩ := hstored.columns
    have hid := findJob_eq_ok hjob
    rw [hon] at hbreak
    rw [hstart, hend]
    exact forward_of_entryLines (hbreak.trans hsetup.symm) hid (hundredth_of_refuseBadHours hhours)
      (hgives (hid ▸ hbreak)) hlines _ hpart
  patched hsetup _ hmoves hfound _ hsource patched := by
    subst hsetup
    exact forward_of_patched hmoves hfound hsource patched

lemma holds_breaksRule {db : Timesheets} :
    (breaksRule db.company.breakJob).Holds db ↔ BreaksForward db :=
  ⟨fun h => h.2, fun h => ⟨rfl, h⟩⟩

end Keeping

/-! ## Every run of operations -/

/-- What the operation does not check itself of a break's times: an entry made on the Break job is
given none that run backward, and a patch that sets none points no such line at it. -/
def TimeOperation.GivesBreakTimes (db : Timesheets) : TimeOperation → Prop
  | dayWrite (.createEntry _ data _) => GivesForward db.company.breakJob data
  | dayWrite (.updateEntry _ data) => MovesForward db.company.breakJob db data
  | _ => True

lemma TimeOperation.forward_call {db db' : Timesheets} (operation : TimeOperation)
    (hdb : BreaksForward db) (hgives : operation.GivesBreakTimes db)
    (hrun : operation.call.run db = .ok ((), db')) : BreaksForward db' := by
  have hmeets : (breaksRule db.company.breakJob).Meets db operation := by
    cases operation with
    | dayWrite write => cases write <;> exact hgives
    | _ => trivial
  have happrove : ∀ line, NotBackward db.company.breakJob line →
      NotBackward db.company.breakJob { line with approved := true } := fun _ h => h
  obtain ⟨hjob, hlines⟩ := LineRule.holds_call happrove operation db
    ⟨holds_breaksRule.mpr hdb, hmeets⟩ _ _ hrun
  exact fun line hline hbreak => hlines line hline (hbreak.trans hjob)

/-- The states after accepted operations, each made under `C`; between two of them anything may
change but the time lines and which job breaks are on. -/
inductive TimeReached (C : Timesheets → TimeOperation → Prop) (start : Timesheets) :
    Timesheets → Prop
  | start : TimeReached C start start
  | elsewhere {db db' : Timesheets} (hdb : TimeReached C start db) (hlines : db'.lines = db.lines)
      (hjob : db'.company.breakJob = db.company.breakJob) : TimeReached C start db'
  | operation {db db' : Timesheets} (operation : TimeOperation) (hdb : TimeReached C start db)
      (hC : C db operation) (hrun : operation.call.run db = .ok ((), db')) : TimeReached C start db'

section Runs

variable {start db : Timesheets}

lemma lt_of_defaultBreaks {company : Company} {breaks : List StandardBreak}
    (h : defaultBreaks company = .ok breaks) :
    ∀ each ∈ breaks, each.window.start < each.window.finish := by
  intro each heach
  obtain ⟨⟨⟨start, minutes⟩, paid, description⟩, hgiven, hmade⟩ := exists_of_mem_mapM h heach
  have hminutes : minutes ≠ 0 := by simpa using (List.mem_filter.mp hgiven).2
  unfold standardBreak at hmade
  simp only [bind_eq_ok, pure_eq_ok] at hmade
  obtain ⟨finish, hfinish, rfl⟩ := hmade
  have hend := timeOf_eq_ok hfinish
  exact lt_of_minutes_lt (by simp only; omega)

lemma lt_of_plannedBreaks {company : Company} {day : ℤ} {windows : List Window}
    (h : plannedBreaks company day = .ok windows) : ∀ w ∈ windows, w.start < w.finish := by
  unfold plannedBreaks at h
  split at h
  · obtain rfl := Except.ok.inj h
    exact fun _ hw => absurd hw List.not_mem_nil
  · simp only [bind_eq_ok, pure_eq_ok] at h
    obtain ⟨breaks, hbreaks, rfl⟩ := h
    intro w hw
    obtain ⟨each, heach, rfl⟩ := List.mem_map.mp (List.mem_of_mem_filter hw)
    exact lt_of_defaultBreaks hbreaks each heach

lemma lt_of_breakWindows {company : Company} {day : ℤ} {row : Option AttendanceDay}
    {breakLines : List TimeLine} {windows : List Window}
    (hlines : ∀ line ∈ breakLines, Forward line.payload.startTime line.payload.endTime)
    (h : breakWindows company day row breakLines = .ok windows) :
    ∀ w ∈ windows, w.start < w.finish := by
  have htaken : ∀ w ∈ breakLines.filterMap lineWindow, w.start < w.finish := by
    intro w hw
    obtain ⟨line, hline, hwindow⟩ := List.mem_filterMap.mp hw
    unfold lineWindow at hwindow
    obtain ⟨start, hstart, hwindow⟩ := Option.bind_eq_some_iff.mp hwindow
    obtain ⟨finish, hfinish, hwindow⟩ := Option.bind_eq_some_iff.mp hwindow
    obtain rfl := Option.some.inj hwindow
    exact hlines line hline start hstart finish hfinish
  unfold breakWindows at h
  rcases row with _ | row
  · simp only [bind_eq_ok, pure_eq_ok] at h
    obtain ⟨planned, hplanned, _, rfl, rfl⟩ := h
    intro w hw
    rcases List.mem_append.mp ((List.mem_insertionSort _).mp hw) with hw | hw
    · exact htaken w hw
    · exact lt_of_plannedBreaks hplanned w (List.mem_of_mem_filter hw)
  · simp only [bind_eq_ok, pure_eq_ok] at h
    obtain ⟨_, rfl, rfl⟩ := h
    intro w hw
    rw [List.append_nil] at hw
    exact htaken w ((List.mem_insertionSort _).mp hw)

lemma BreaksForward.windows (h : BreaksForward db) {staff : ℕ} {day : ℤ} {windows : List Window}
    (hwindows : db.dayBreakWindows staff day = .ok windows) : ∀ w ∈ windows, w.start < w.finish := by
  refine lt_of_breakWindows (fun line hline => ?_) hwindows
  obtain ⟨hday, hbreak⟩ := List.mem_filter.mp hline
  exact h line (List.mem_of_mem_filter hday) (of_decide_eq_true hbreak)

/-- **Breaks run forward** after every run of accepted operations that give a break no times running
backward: every line on the Break job that has both times finishes after it starts, and so does every
break that entries are placed around. -/
theorem breaks_run_forward (hstart : BreaksForward start)
    (hrun : TimeReached (fun db operation => operation.GivesBreakTimes db) start db) :
    BreaksForward db ∧ ∀ staff day windows, db.dayBreakWindows staff day = .ok windows →
      ∀ w ∈ windows, w.start < w.finish := by
  have hdb : BreaksForward db := by
    induction hrun with
    | start => exact hstart
    | elsewhere _ hlines hjob ih => exact fun line hline => hjob ▸ ih line (hlines ▸ hline)
    | operation operation _ hgives hrun ih => exact operation.forward_call ih hgives hrun
  exact ⟨hdb, fun _ _ _ hwindows => hdb.windows hwindows⟩

end Runs

/-! ### A break typed as an entry -/

/-- An hour on the Break job, from one time to another. -/
def breakTyped (start finish : TimeOfDay) : WorkshopEntryCreateData where
  job := 1
  accountingDate := 0
  hours := 1
  startTime := some start
  endTime := some finish
  isBillable := false

/-- An hour's break typed as an entry, and a break added after it. -/
theorem breaks_run_forward_round_noon :
    ∃ db, TimeReached (fun db operation => operation.GivesBreakTimes db)
        (fittersDay clockedDay .empty) db ∧ db.lines.rows.length = 2 ∧ BreaksForward db ∧
      ∀ staff day windows, db.dayBreakWindows staff day = .ok windows →
        ∀ w ∈ windows, w.start < w.finish := by
  let start := fittersDay clockedDay .empty
  let entry : TimeOperation := .dayWrite (.createEntry 9
    (breakTyped (clock 12 0 (by decide)) (clock 13 0 (by decide))) none)
  let added : TimeOperation := .dayWrite (.addBreak fitter 9 0
    (clock 14 0 (by decide)) (clock 14 30 (by decide)) true)
  obtain ⟨_, typed, htyped, hadded⟩ := exists_of_endsIn (x := entry.call) (s := start)
    (p := fun _ typed => endsIn added.call typed fun _ db => db.lines.rows.length = 2)
    (by decide +kernel)
  obtain ⟨_, db, hrun, htwo⟩ := exists_of_endsIn hadded
  have hforward : entry.GivesBreakTimes start := fun _ => by decide
  have hreached : TimeReached (fun db operation => operation.GivesBreakTimes db) start db :=
    .operation added (.operation entry .start hforward htyped) trivial hrun
  have hnone : BreaksForward start := fun _ hline => absurd hline List.not_mem_nil
  exact ⟨db, hreached, of_decide_eq_true htwo, breaks_run_forward hnone hreached⟩

/-- **A break can run backward**: an entry on the Break job keeps the times it was given, noon to
eleven among them. -/
theorem typed_break_runs_backward :
    ∃ start db, BreaksForward start ∧ TimeReached (fun _ _ => True) start db ∧
      ¬BreaksForward db := by
  let start := fittersDay clockedDay .empty
  obtain ⟨_, db, hrun, hbackward⟩ := exists_of_endsIn
    (x := (TimeOperation.dayWrite (.createEntry 9
      (breakTyped (clock 12 0 (by decide)) (clock 11 0 (by decide))) none)).call) (s := start)
    (p := fun _ db => !decide (BreaksForward db)) (by decide +kernel)
  refine ⟨start, db, fun _ hline => absurd hline List.not_mem_nil,
    .operation _ .start trivial hrun, ?_⟩
  simpa using hbackward

end Timesheet

end Docketworks
