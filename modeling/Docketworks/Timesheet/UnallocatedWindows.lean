import Docketworks.Timesheet.Attendance

/-!
# The unallocated windows of a day

What `unallocatedWindows` answers on every day whose breaks and entries are the right way round:
windows in order, apart and not empty, inside the rounded span, on no break and no entry, and
together all of the free time but what rounding loses.

* `windowsBetween_eq_ok` — the windows are the gaps of `Library.gaps`.
* `occupiedWindows_eq_ok` — the layout of untimed entries never fails and keeps windows the right
  way round.
* `Allocates lost` — what the windows owe the span and what is occupied, but for the minutes `lost`.
* `unallocatedWindows_allocates` — the windows of every day.
* `unallocatedWindows_loses_a_minute` — rounding loses minutes beside an entry too.
-/

namespace Docketworks

open Library

namespace Timesheet

/-! ## What is occupied -/

/-- A line whose times are the right way round and whose hours are not negative. -/
def RightWayRound (line : TimeLine) : Prop :=
  (∀ w ∈ lineWindow line, w.start.minutes ≤ w.finish.minutes) ∧ 0 ≤ line.quantity

instance (line : TimeLine) : Decidable (RightWayRound line) :=
  inferInstanceAs (Decidable (_ ∧ _))

lemma wellFormed_lineWindows {lines : List TimeLine} (h : ∀ line ∈ lines, RightWayRound line) :
    WellFormed (lines.filterMap lineWindow) := by
  intro w hw
  obtain ⟨line, hline, hwindow⟩ := List.mem_filterMap.mp hw
  exact (h line hline).1 w hwindow

lemma WellFormed.append {windows windows' : List Window} (h : WellFormed windows)
    (h' : WellFormed windows') : WellFormed (windows ++ windows') := by
  intro w hw
  rcases List.mem_append.mp hw with hw | hw
  · exact h w hw
  · exact h' w hw

lemma wellFormed_standardBreak {start : TimeOfDay} {minutes : ℕ} {paid : Bool}
    {description : String} {each : StandardBreak}
    (h : standardBreak start minutes paid description = .ok each) :
    each.window.start.minutes ≤ each.window.finish.minutes := by
  unfold standardBreak at h
  rcases hfinish : timeOf (start.minutes + minutes) with e | finish
  · rw [hfinish] at h
    cases h
  · rw [hfinish] at h
    obtain rfl := Except.ok.inj h
    have hminutes := timeOf_eq_ok hfinish
    show start.minutes ≤ finish.minutes
    omega

lemma wellFormed_defaultBreaks {company : Company} {breaks : List StandardBreak}
    (h : defaultBreaks company = .ok breaks) : WellFormed (breaks.map StandardBreak.window) := by
  intro w hw
  obtain ⟨each, heach, rfl⟩ := List.mem_map.mp hw
  obtain ⟨_, -, hmade⟩ := exists_of_mem_mapM h heach
  exact wellFormed_standardBreak hmade

lemma wellFormed_plannedBreaks {company : Company} {day : ℤ} {breaks : List Window}
    (h : plannedBreaks company day = .ok breaks) : WellFormed breaks := by
  unfold plannedBreaks at h
  split at h
  · obtain rfl : [] = breaks := Except.ok.inj h
    exact fun _ hw => absurd hw List.not_mem_nil
  · rcases hdefault : defaultBreaks company with e | windows
    · rw [hdefault] at h
      cases h
    · rw [hdefault] at h
      obtain rfl := Except.ok.inj h
      exact fun w hw => wellFormed_defaultBreaks hdefault w (List.mem_of_mem_filter hw)

lemma wellFormed_breakWindows {company : Company} {day : ℤ} {row : Option AttendanceDay}
    {breakLines : List TimeLine} {breaks : List Window}
    (hlines : ∀ line ∈ breakLines, RightWayRound line)
    (h : breakWindows company day row breakLines = .ok breaks) : WellFormed breaks := by
  have hsorted : ∀ {windows : List Window}, WellFormed windows →
      WellFormed (windows.insertionSort BreakLE) :=
    fun hw w hmem => hw w ((List.mem_insertionSort _).mp hmem)
  unfold breakWindows at h
  rcases row with _ | row
  · rcases hplanned : plannedBreaks company day with e | planned
    · rw [hplanned] at h
      cases h
    · rw [hplanned] at h
      obtain rfl := Except.ok.inj h
      refine hsorted ((wellFormed_lineWindows hlines).append fun w hw => ?_)
      exact wellFormed_plannedBreaks hplanned w (List.mem_of_mem_filter hw)
  · obtain rfl := Except.ok.inj h
    refine hsorted ((wellFormed_lineWindows hlines).append fun w hw => ?_)
    exact absurd hw List.not_mem_nil

/-- **The layout** never fails, keeps what is occupied, and lays an entry out the right way round. -/
lemma layOut_eq_ok (cursor : TimeOfDay) {occupied : List Window} {lines : List TimeLine}
    (hoccupied : WellFormed occupied) (hlines : ∀ line ∈ lines, 0 ≤ line.quantity) :
    ∃ laid, layOut cursor occupied lines = .ok laid ∧ WellFormed laid ∧ occupied ⊆ laid := by
  induction lines generalizing cursor occupied with
  | nil => exact ⟨occupied, rfl, hoccupied, List.Subset.refl _⟩
  | cons line rest ih =>
      have hquantity : 0 ≤ line.quantity := hlines line List.mem_cons_self
      obtain ⟨begins, hbegins, -⟩ := startAfterBreaks_eq_ok cursor occupied
      obtain ⟨ends, hends⟩ := finishInTheDay_eq_ok begins hquantity occupied
      have hright : begins.minutes ≤ (ends.getD lastMinute).minutes := by
        rcases ends with _ | ends
        · exact Nat.le_of_lt_succ begins.minutes_lt
        · exact le_finishInTheDay hquantity hends
      have hone : WellFormed [⟨begins, ends.getD lastMinute⟩] := by
        intro w hw
        obtain rfl := List.mem_singleton.mp hw
        exact hright
      obtain ⟨laid, hlaid, hwell, hsub⟩ := ih (ends.getD lastMinute)
        (hoccupied.append hone) fun l hl => hlines l (List.mem_cons_of_mem _ hl)
      refine ⟨laid, ?_, hwell, List.Subset.trans (List.subset_append_left _ _) hsub⟩
      unfold layOut
      rw [hbegins]
      show (finishInTheDay begins line.quantity occupied >>= _) = _
      rw [hends]
      exact hlaid

lemma rightWayRound_workedEntries {row : Option AttendanceDay} {entries : List TimeLine}
    (h : ∀ line ∈ entries, RightWayRound line) : ∀ line ∈ workedEntries row entries,
      RightWayRound line := by
  rcases row with _ | row
  · exact h
  · exact fun line hline => h line (List.mem_of_mem_filter hline)

lemma occupiedWindows_eq_ok {company : Company} {day : ℤ} {row : Option AttendanceDay}
    (dayStart : TimeOfDay) {entries breakLines : List TimeLine} {breaks : List Window}
    (hentries : ∀ line ∈ entries, RightWayRound line)
    (hlines : ∀ line ∈ breakLines, RightWayRound line)
    (hbreaks : breakWindows company day row breakLines = .ok breaks) :
    ∃ occupied, occupiedWindows company day row dayStart entries breakLines = .ok occupied ∧
      WellFormed occupied ∧ breaks ⊆ occupied ∧
        (workedEntries row entries).filterMap lineWindow ⊆ occupied := by
  have hworked : ∀ line ∈ workedEntries row entries, RightWayRound line :=
    rightWayRound_workedEntries hentries
  have htimed : WellFormed (breaks ++ (workedEntries row entries).filterMap lineWindow) :=
    (wellFormed_breakWindows hlines hbreaks).append (wellFormed_lineWindows hworked)
  have huntimed : ∀ line ∈ (workedEntries row entries).filter fun line => lineWindow line = none,
      0 ≤ line.quantity := fun line hline => (hworked line (List.mem_of_mem_filter hline)).2
  obtain ⟨occupied, hlaid, hwell, hsub⟩ := layOut_eq_ok dayStart htimed huntimed
  refine ⟨occupied, ?_, hwell, List.Subset.trans (List.subset_append_left _ _) hsub,
    List.Subset.trans (List.subset_append_right _ _) hsub⟩
  unfold occupiedWindows
  rw [hbreaks]
  exact hlaid

/-! ## The windows are gaps -/

/-- The windows are those of the gaps, on whole minutes. -/
structure AreGaps (windows : List Window) (between : List (ℕ × ℕ)) : Prop where
  minutes : windows.map Window.minutes = between
  whole : ∀ w ∈ windows, w.start.micros = 0 ∧ w.finish.micros = 0

lemma windowsBetween_cons {last freeFrom floor : ℕ} {t : ℕ × ℕ} {rest : List (ℕ × ℕ)}
    {windows : List Window} (hlast : last < 24 * 60) (hfree : freeFrom < 24 * 60)
    (hfloor : floor < 24 * 60)
    (hrest : windowsBetween last (max freeFrom t.2) (max floor t.2) rest = .ok windows)
    (hgaps : AreGaps windows (gaps quarterOf last (max freeFrom t.2) (max floor t.2) rest)) :
    ∃ windows, windowsBetween last freeFrom floor (t :: rest) = .ok windows ∧
      AreGaps windows (gaps quarterOf last freeFrom floor (t :: rest)) := by
  obtain ⟨takenStart, takenEnd⟩ := t
  have hbound : min takenStart last < 24 * 60 := (min_le_right _ _).trans_lt hlast
  have hstart : max (quarterOf freeFrom) floor < 24 * 60 := max_lt (quarterOf_lt _) hfloor
  have hfinish : min (quarterOf (min takenStart last)) takenStart < 24 * 60 :=
    (min_le_left _ _).trans_lt (quarterOf_lt _)
  refine ⟨⟨.ofMinutes _ hstart, .ofMinutes _ hfinish⟩ :: windows, ?_, ?_, ?_⟩
  · unfold windowsBetween
    rw [timeOf_of_lt hfree, timeOf_of_lt hbound]
    show (timeOf (max (quarterOf freeFrom) floor : ℕ) >>= _) = _
    rw [timeOf_of_lt hstart]
    show (timeOf (min (quarterOf (min takenStart last)) takenStart : ℕ) >>= _) = _
    rw [timeOf_of_lt hfinish]
    show (windowsBetween last (max freeFrom takenEnd) (max floor takenEnd) rest >>= _) = _
    rw [hrest]
    rfl
  · rw [List.map_cons, hgaps.minutes]
    rfl
  · intro w hw
    rcases List.mem_cons.mp hw with rfl | hw
    · exact ⟨rfl, rfl⟩
    · exact hgaps.whole w hw

lemma windowsBetween_eq_ok {last freeFrom floor : ℕ} {taken : List (ℕ × ℕ)}
    (hlast : last < 24 * 60) (hfree : freeFrom < 24 * 60) (hfloor : floor < 24 * 60)
    (htaken : ∀ t ∈ taken, t.1 < 24 * 60 ∧ t.2 < 24 * 60) :
    ∃ windows, windowsBetween last freeFrom floor (taken ++ [(24 * 60, 24 * 60)]) = .ok windows ∧
      AreGaps windows (gaps quarterOf last freeFrom floor (taken ++ [(24 * 60, 24 * 60)])) := by
  induction taken generalizing freeFrom floor with
  | nil => exact windowsBetween_cons hlast hfree hfloor rfl ⟨rfl, by simp⟩
  | cons t rest ih =>
      have ht := htaken t List.mem_cons_self
      obtain ⟨windows, hrest, hgaps⟩ := ih (max_lt hfree ht.2) (max_lt hfloor ht.2)
        fun u hu => htaken u (List.mem_cons_of_mem _ hu)
      exact windowsBetween_cons hlast hfree hfloor hrest hgaps

/-! ## What the windows owe the day -/

/-- A minute that is on no occupied window. -/
def Free (occupied : List Window) (m : ℕ) : Prop :=
  ∀ w ∈ occupied, ¬(w.start.minutes ≤ m ∧ m < w.finish.minutes)

def LostAtTheSpan (span : Window) (m : ℕ) : Prop :=
  LostAfter quarterOf span.start.minutes m ∨ LostBefore quarterOf span.finish.minutes m

/-- The minute is lost to rounding a bound of the span, or one of an occupied window. -/
def LostToRounding (span : Window) (occupied : List Window) (m : ℕ) : Prop :=
  LostAtTheSpan span m ∨ (∃ w ∈ occupied, LostAfter quarterOf w.finish.minutes m) ∨
    ∃ w ∈ occupied, LostBefore quarterOf w.start.minutes m

/-- What the windows owe the span and what is occupied, but for the minutes `lost`. -/
structure Allocates (lost : ℕ → Prop) (span : Window) (occupied windows : List Window) : Prop where
  nonempty : ∀ w ∈ windows, w.start < w.finish
  /-- The windows are in order, and none reaches into the next. -/
  apart : windows.Pairwise fun w v => w.finish ≤ v.start
  inside : ∀ w ∈ windows, toQuarter span.start ≤ w.start ∧ w.finish ≤ toQuarter span.finish
  free : ∀ w ∈ windows, ∀ m, w.start.minutes ≤ m → m < w.finish.minutes → Free occupied m
  /-- Every free minute of the span is on one, or lost. -/
  covers : ∀ m, span.start.minutes ≤ m → m < span.finish.minutes → Free occupied m → ¬lost m →
    ∃ w ∈ windows, w.start.minutes ≤ m ∧ m < w.finish.minutes

lemma free_iff {occupied : List Window} {m : ℕ} :
    Free occupied m ↔ ¬Covers (mergedMinutes occupied) m := by
  unfold mergedMinutes
  rw [covers_join]
  unfold Free Covers
  constructor
  · rintro h ⟨s, hs, hm⟩
    obtain ⟨w, hw, rfl⟩ := List.mem_map.mp hs
    exact h w hw hm
  · exact fun h w hw hm => h ⟨w.minutes, List.mem_map_of_mem hw, hm⟩

lemma le_iff_minutes {s t : TimeOfDay} (hs : s.micros = 0) (ht : t.micros = 0) :
    s ≤ t ↔ s.minutes ≤ t.minutes := by
  show s.sinceMidnight ≤ t.sinceMidnight ↔ _
  unfold TimeOfDay.sinceMidnight
  rw [hs, ht]
  omega

lemma lt_iff_minutes {s t : TimeOfDay} (hs : s.micros = 0) (ht : t.micros = 0) :
    s < t ↔ s.minutes < t.minutes := by
  show s.sinceMidnight < t.sinceMidnight ↔ _
  unfold TimeOfDay.sinceMidnight
  rw [hs, ht]
  omega

lemma apart_taken {occupied : List Window} (h : WellFormed occupied) :
    Apart (mergedMinutes occupied ++ [(24 * 60, 24 * 60)]) ∧
      Ordered (mergedMinutes occupied ++ [(24 * 60, 24 * 60)]) := by
  have hordered : Ordered (mergedMinutes occupied) := ordered_join h.ordered
  have hseparated : Separated (mergedMinutes occupied) := separated_join h.ordered
  constructor
  · refine List.pairwise_append.mpr ⟨hseparated.imp fun h => h.le, List.pairwise_singleton _ _, ?_⟩
    intro s hs t ht
    obtain rfl := List.mem_singleton.mp ht
    exact (lt_day_of_mem_merged hs).2.le
  · intro s hs
    rcases List.mem_append.mp hs with hs | hs
    · exact hordered s hs
    · obtain rfl := List.mem_singleton.mp hs
      exact le_rfl

lemma bounds_merged {occupied : List Window} {s : ℕ × ℕ} (h : s ∈ mergedMinutes occupied) :
    (∃ w ∈ occupied, w.start.minutes = s.1) ∧ ∃ w ∈ occupied, w.finish.minutes = s.2 := by
  obtain ⟨⟨t, ht, hstart⟩, u, hu, hend⟩ := bounds_join h
  obtain ⟨w, hw, rfl⟩ := List.mem_map.mp ht
  obtain ⟨v, hv, rfl⟩ := List.mem_map.mp hu
  exact ⟨⟨w, hw, hstart⟩, v, hv, hend⟩

lemma allocates_windowsBetween {span : Window} {occupied windows : List Window}
    (hoccupied : WellFormed occupied)
    (h : windowsBetween span.finish.minutes span.start.minutes 0
      (mergedMinutes occupied ++ [(24 * 60, 24 * 60)]) = .ok windows) :
    Allocates (LostToRounding span occupied) span occupied
      (windows.filter fun window => window.start < window.finish) := by
  obtain ⟨windows', h', ⟨hgaps, hmicros⟩⟩ := windowsBetween_eq_ok span.finish.minutes_lt
    span.start.minutes_lt (by decide : 0 < 24 * 60)
    fun t (ht : t ∈ mergedMinutes occupied) => lt_day_of_mem_merged ht
  obtain rfl : windows' = windows := Except.ok.inj (h'.symm.trans h)
  obtain ⟨hapart, hordered⟩ := apart_taken hoccupied
  have hmem : ∀ w ∈ windows', w.minutes ∈ gaps quarterOf span.finish.minutes span.start.minutes 0
      (mergedMinutes occupied ++ [(24 * 60, 24 * 60)]) :=
    fun w hw => hgaps ▸ List.mem_map_of_mem hw
  constructor
  · intro w hw
    simpa using List.of_mem_filter hw
  · refine List.Pairwise.filter _ (List.Pairwise.imp_of_mem ?_
      (List.pairwise_map.mp (hgaps ▸ gaps_apart quarterOf_mono hapart hordered :
        Apart (windows'.map Window.minutes))))
    intro w v hw hv hwv
    exact (le_iff_minutes (hmicros w hw).2 (hmicros v hv).1).mpr hwv
  · intro w hw
    have hw := List.mem_of_mem_filter hw
    obtain ⟨-, hstart, hfinish⟩ := gaps_inside quarterOf_mono (hmem w hw)
    exact ⟨(le_iff_minutes rfl (hmicros w hw).1).mpr hstart,
      (le_iff_minutes (hmicros w hw).2 rfl).mpr hfinish⟩
  · intro w hw m hle hlt
    have hw := List.mem_of_mem_filter hw
    rw [free_iff]
    intro hcovers
    exact gaps_free quarterOf_mono hapart hordered (hmem w hw) ⟨hle, hlt⟩
      (covers_append.mpr (.inl hcovers))
  · intro m hle hlt hfree hlost
    have hday : m < 24 * 60 := hlt.trans span.finish.minutes_lt
    have hnot : ¬Covers (mergedMinutes occupied ++ [(24 * 60, 24 * 60)]) m := by
      rw [covers_append]
      rintro (h | ⟨s, hs, hge, -⟩)
      · exact free_iff.mp hfree h
      · obtain rfl := List.mem_singleton.mp hs
        exact absurd hday hge.not_gt
    have hafter : ∃ t ∈ mergedMinutes occupied ++ [(24 * 60, 24 * 60)], m < t.1 :=
      ⟨_, List.mem_append_right _ (List.mem_singleton_self _), hday⟩
    rcases gaps_covers quarterOf hle (Nat.zero_le m) hlt hnot hafter with
      hin | hin | hin | ⟨t, ht, hin⟩ | ⟨t, ht, hlast, hin⟩
    · rw [← hgaps] at hin
      obtain ⟨s, hs, hsm⟩ := hin
      obtain ⟨w, hw, rfl⟩ := List.mem_map.mp hs
      have hnonempty : w.start < w.finish :=
        (lt_iff_minutes (hmicros w hw).1 (hmicros w hw).2).mpr (hsm.1.trans_lt hsm.2)
      exact ⟨w, List.mem_filter.mpr ⟨hw, by simpa using hnonempty⟩, hsm⟩
    · exact absurd (.inl (.inl hin)) hlost
    · exact absurd (.inl (.inr hin)) hlost
    · rcases List.mem_append.mp ht with ht | ht
      · obtain ⟨-, w, hw, hend⟩ := bounds_merged ht
        exact absurd (.inr (.inl ⟨w, hw, hend ▸ hin⟩)) hlost
      · obtain rfl := List.mem_singleton.mp ht
        exact absurd hday hin.1.not_gt
    · rcases List.mem_append.mp ht with ht | ht
      · obtain ⟨⟨w, hw, hstart⟩, -⟩ := bounds_merged ht
        exact absurd (.inr (.inr ⟨w, hw, hstart ▸ hin⟩)) hlost
      · obtain rfl := List.mem_singleton.mp ht
        exact absurd span.finish.minutes_lt hlast.not_gt

/-! ## Every day -/

section Day

variable {company : Company} {today day : ℤ} {row : Option AttendanceDay}
  {entries breakLines : List TimeLine}

lemma unallocatedWindows_eq_ok {span : Window} {breaks : List Window}
    (hentries : ∀ line ∈ entries, RightWayRound line)
    (hlines : ∀ line ∈ breakLines, RightWayRound line)
    (hspan : daySpan company today day row = some span)
    (hbreaks : breakWindows company day row breakLines = .ok breaks) :
    ∃ occupied windows, occupiedWindows company day row span.start entries breakLines = .ok occupied ∧
      breaks ⊆ occupied ∧ (workedEntries row entries).filterMap lineWindow ⊆ occupied ∧
        unallocatedWindows company today day row entries breakLines = .ok (some windows) ∧
          Allocates (LostToRounding span occupied) span occupied windows := by
  obtain ⟨occupied, hoccupied, hwell, hbreak, htimed⟩ :=
    occupiedWindows_eq_ok span.start hentries hlines hbreaks
  obtain ⟨windows, hwindows, -⟩ := windowsBetween_eq_ok span.finish.minutes_lt
    span.start.minutes_lt (by decide : 0 < 24 * 60)
    fun t (ht : t ∈ mergedMinutes occupied) => lt_day_of_mem_merged ht
  refine ⟨occupied, _, hoccupied, hbreak, htimed, ?_, allocates_windowsBetween hwell hwindows⟩
  unfold unallocatedWindows
  rw [hspan]
  show (occupiedWindows company day row span.start entries breakLines >>= _) = _
  rw [hoccupied]
  show (windowsBetween span.finish.minutes span.start.minutes 0 _ >>= _) = _
  rw [hwindows]
  rfl

lemma daySpan_of_unallocatedWindows {windows : List Window}
    (h : unallocatedWindows company today day row entries breakLines = .ok (some windows)) :
    ∃ span breaks, daySpan company today day row = some span ∧
      breakWindows company day row breakLines = .ok breaks := by
  unfold unallocatedWindows at h
  rcases hspan : daySpan company today day row with _ | span
  · rw [hspan] at h
    cases h
  · rcases hbreaks : breakWindows company day row breakLines with e | breaks
    · rw [hspan] at h
      simp only [occupiedWindows, hbreaks] at h
      cases h
    · exact ⟨span, breaks, rfl, rfl⟩

/-- **The unallocated windows of every day** whose breaks and entries are the right way round.
They are answered wherever the day has a span and its breaks are known, and they are in order,
apart, not empty, inside the rounded span and on no break, no timed entry and no entry laid out;
and every free minute of the span is on one of them, unless rounding a bound of the span or of an
occupied window to the quarter hour lost it. -/
theorem unallocatedWindows_allocates (company : Company) (today day : ℤ)
    (row : Option AttendanceDay) (entries breakLines : List TimeLine)
    (hentries : ∀ line ∈ entries, RightWayRound line)
    (hlines : ∀ line ∈ breakLines, RightWayRound line) :
    ((∃ windows, unallocatedWindows company today day row entries breakLines = .ok (some windows)) ↔
      ∃ span breaks, daySpan company today day row = some span ∧
        breakWindows company day row breakLines = .ok breaks) ∧
    ∀ windows, unallocatedWindows company today day row entries breakLines = .ok (some windows) →
      ∃ span breaks occupied, daySpan company today day row = some span ∧
        breakWindows company day row breakLines = .ok breaks ∧
        occupiedWindows company day row span.start entries breakLines = .ok occupied ∧
        breaks ⊆ occupied ∧ (workedEntries row entries).filterMap lineWindow ⊆ occupied ∧
        Allocates (LostToRounding span occupied) span occupied windows := by
  refine ⟨⟨fun ⟨windows, h⟩ => daySpan_of_unallocatedWindows h, ?_⟩, ?_⟩
  · rintro ⟨span, breaks, hspan, hbreaks⟩
    obtain ⟨_, windows, -, -, -, h, -⟩ := unallocatedWindows_eq_ok hentries hlines hspan hbreaks
    exact ⟨windows, h⟩
  · intro windows h
    obtain ⟨span, breaks, hspan, hbreaks⟩ := daySpan_of_unallocatedWindows h
    obtain ⟨occupied, windows', hoccupied, hbreak, htimed, h', hallocates⟩ :=
      unallocatedWindows_eq_ok hentries hlines hspan hbreaks
    obtain rfl : windows' = windows := Option.some.inj (Except.ok.inj (h'.symm.trans h))
    exact ⟨span, breaks, occupied, hspan, hbreaks, hoccupied, hbreak, htimed, hallocates⟩

end Day

/-! ## A morning -/

/-- A whole minute of the day. -/
def clock (hour minute : ℕ) (h : hour * 60 + minute < 24 * 60) : TimeOfDay := .ofMinutes _ h

lemma eight_oclock : 8 * 60 + 0 < 24 * 60 := by decide

lemma noon : 12 * 60 + 0 < 24 * 60 := by decide

/-- The working day of the defaults: seven to three, with its three breaks. -/
def defaultCompany : Company where
  mon := ⟨clock 7 0 (by decide), clock 15 0 (by decide)⟩
  tue := ⟨clock 7 0 (by decide), clock 15 0 (by decide)⟩
  wed := ⟨clock 7 0 (by decide), clock 15 0 (by decide)⟩
  thu := ⟨clock 7 0 (by decide), clock 15 0 (by decide)⟩
  fri := ⟨clock 7 0 (by decide), clock 15 0 (by decide)⟩
  morningBreak := (clock 8 30 (by decide), 15)
  lunch := (clock 11 30 (by decide), 30)
  afternoonBreak := (clock 13 30 (by decide), 15)
  breakJob := some 1
  generalWorkJob := some 2
  weekendTimesheetsEnabled := false
  labourCostLoading := 0

def clockedDay : AttendanceDay where
  staff := 9
  date := 0
  clockIn := clock 8 0 (by decide)
  clockOut := some (clock 16 0 (by decide))
  submitted := false
  breaksGenerated := true
  generalWorkFill := false
  finish_after_start := by decide

/-- An entry from eight to eight minutes past ten. -/
def morningEntry : TimeLine where
  id := 5
  job := 3
  staff := 9
  accountingDate := 0
  quantity := 213 / 100
  unitCost := 30
  unitRev := 100
  desc := none
  approved := false
  payItem := some 1
  labourSubtype := 1
  managedBy := none
  payload :=
    { staffId := 9
      date := 0
      isBillable := true
      wageRateMultiplier := 1
      billRateMultiplier := none
      startTime := some (clock 8 0 (by decide))
      endTime := some (clock 10 8 (by decide)) }

/-- The morning with its entry, and nothing else: the windows from a quarter past ten. -/
theorem unallocatedWindows_allocates_a_morning :
    ∃ windows, unallocatedWindows defaultCompany 7 0 (some clockedDay) [morningEntry] [] =
        .ok (some windows) ∧
      ∃ span breaks occupied, daySpan defaultCompany 7 0 (some clockedDay) = some span ∧
        breakWindows defaultCompany 0 (some clockedDay) [] = .ok breaks ∧
        occupiedWindows defaultCompany 0 (some clockedDay) span.start [morningEntry] [] =
          .ok occupied ∧
        breaks ⊆ occupied ∧
        (workedEntries (some clockedDay) [morningEntry]).filterMap lineWindow ⊆ occupied ∧
        Allocates (LostToRounding span occupied) span occupied windows :=
  ⟨[⟨clock 10 15 (by decide), clock 16 0 (by decide)⟩], by decide +kernel,
    (unallocatedWindows_allocates defaultCompany 7 0 (some clockedDay) [morningEntry] []
      (by decide +kernel) (by decide)).2 _ (by decide +kernel)⟩

/-- **Rounding loses minutes beside an entry too**: from eight past ten to a quarter past, no
window holds the free minutes after the entry, and neither bound of the span is near. -/
theorem unallocatedWindows_loses_a_minute :
    ∃ windows span occupied,
      unallocatedWindows defaultCompany 7 0 (some clockedDay) [morningEntry] [] =
        .ok (some windows) ∧
      daySpan defaultCompany 7 0 (some clockedDay) = some span ∧
      occupiedWindows defaultCompany 0 (some clockedDay) span.start [morningEntry] [] =
        .ok occupied ∧
      (∀ line ∈ [morningEntry], RightWayRound line) ∧
      ¬Allocates (LostAtTheSpan span) span occupied windows := by
  refine ⟨[⟨clock 10 15 (by decide), clock 16 0 (by decide)⟩],
    ⟨clock 8 0 (by decide), clock 16 0 (by decide)⟩,
    [⟨clock 8 0 (by decide), clock 10 8 (by decide)⟩], by decide +kernel, by decide +kernel,
    by decide +kernel, by decide +kernel, ?_⟩
  intro h
  obtain ⟨w, hw, hle, -⟩ := h.covers 608 (by decide) (by decide) (by unfold Free; decide)
    (by unfold LostAtTheSpan LostAfter LostBefore; decide)
  obtain rfl := List.mem_singleton.mp hw
  revert hle
  decide

end Timesheet

end Docketworks
