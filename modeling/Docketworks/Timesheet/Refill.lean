import Docketworks.Library.Cuts
import Docketworks.Timesheet.EntryLines
import Docketworks.Timesheet.UnallocatedWindows

/-!
# Rebuilding a day's General work

After `refillGeneralWork` a filled day's General work is the time on none of its other lines, and
running it again changes nothing.

* `Bookable` — what the unallocated windows of a day are, for an entry to be booked on each.
* `run_bookWindow` — a window is stored as one line, or as two that meet inside it.
* `run_refillGeneralWork` — a rebuild keeps the other lines, and leaves a fill that stands.
* `Fills` — the fill lines hold the windows, and no minute twice.
* `refillGeneralWork_settles` — every day whose times are the right way round.
-/

namespace Docketworks

open Library Library.Transaction

namespace Timesheet

/-! ## Windows an entry can be booked on -/

/-- Windows to the minute, not empty, apart, in the day and on no break. -/
structure Bookable (breaks windows : List Window) : Prop where
  whole : ∀ w ∈ windows, w.start.micros = 0 ∧ w.finish.micros = 0
  nonempty : ∀ w ∈ windows, w.start.minutes < w.finish.minutes
  inDay : ∀ w ∈ windows, w.finish.minutes ≤ lastQuarterMinute
  apart : Apart (windows.map Window.minutes)
  beside : ∀ w ∈ windows, ∀ t ∈ mergedMinutes breaks,
    t.2 ≤ w.start.minutes ∨ w.finish.minutes ≤ t.1

lemma bookable_nil (breaks : List Window) : Bookable breaks [] where
  whole _ hw := absurd hw List.not_mem_nil
  nonempty _ hw := absurd hw List.not_mem_nil
  inDay _ hw := absurd hw List.not_mem_nil
  apart := List.Pairwise.nil
  beside _ hw := absurd hw List.not_mem_nil

lemma Bookable.head {breaks windows : List Window} {w : Window} (h : Bookable breaks (w :: windows)) :
    Bookable breaks [w] := by
  have hmem : ∀ v ∈ [w], v ∈ w :: windows := fun v hv =>
    List.mem_singleton.mp hv ▸ List.mem_cons_self
  exact ⟨fun v hv => h.whole v (hmem v hv), fun v hv => h.nonempty v (hmem v hv),
    fun v hv => h.inDay v (hmem v hv), List.pairwise_singleton _ _,
    fun v hv => h.beside v (hmem v hv)⟩

lemma Bookable.tail {breaks windows : List Window} {w : Window} (h : Bookable breaks (w :: windows)) :
    Bookable breaks windows where
  whole v hv := h.whole v (List.mem_cons_of_mem _ hv)
  nonempty v hv := h.nonempty v (List.mem_cons_of_mem _ hv)
  inDay v hv := h.inDay v (List.mem_cons_of_mem _ hv)
  apart := (List.pairwise_cons.mp h.apart).2
  beside v hv := h.beside v (List.mem_cons_of_mem _ hv)

lemma bookable_unallocatedWindows {company : Company} {today day : ℤ} {row : Option AttendanceDay}
    {entries breakLines : List TimeLine} {breaks windows : List Window}
    (hentries : ∀ line ∈ entries, RightWayRound line)
    (hlines : ∀ line ∈ breakLines, RightWayRound line)
    (hbreaks : breakWindows company day row breakLines = .ok breaks)
    (h : unallocatedWindows company today day row entries breakLines = .ok (some windows)) :
    Bookable breaks windows := by
  unfold unallocatedWindows at h
  split at h
  · cases h
  rename_i span hspan
  simp only [bind_eq_ok, pure_eq_ok, Option.some.injEq] at h
  obtain ⟨occupied, hoccupied, between, hbetween, rfl⟩ := h
  obtain ⟨occupied', hoccupied', hwell, hsub, -⟩ :=
    occupiedWindows_eq_ok span.start hentries hlines hbreaks
  obtain rfl : occupied' = occupied := Except.ok.inj (hoccupied'.symm.trans hoccupied)
  obtain ⟨between', hbetween', ⟨hgaps, hmicros⟩⟩ := windowsBetween_eq_ok span.finish.minutes_lt
    span.start.minutes_lt (by decide : 0 < 24 * 60)
    fun t (ht : t ∈ mergedMinutes occupied') => lt_day_of_mem_merged ht
  obtain rfl : between' = between := Except.ok.inj (hbetween'.symm.trans hbetween)
  obtain ⟨hapart, hordered⟩ := apart_taken hwell
  have hmem : ∀ w ∈ between', w.minutes ∈ gaps quarterOf span.finish.minutes span.start.minutes 0
      (mergedMinutes occupied' ++ [(24 * 60, 24 * 60)]) :=
    fun w hw => hgaps ▸ List.mem_map_of_mem hw
  have hnonempty : ∀ w ∈ between'.filter fun window => window.start < window.finish,
      w.start.minutes < w.finish.minutes := by
    intro w hw
    obtain ⟨hin, hlt⟩ := List.mem_filter.mp hw
    exact (lt_iff_minutes (hmicros w hin).1 (hmicros w hin).2).mp (by simpa using hlt)
  refine ⟨fun w hw => hmicros w (List.mem_of_mem_filter hw), hnonempty, fun w hw => ?_, ?_,
    fun w hw => ?_⟩
  · obtain ⟨-, -, hlast⟩ := gaps_inside quarterOf_mono (hmem w (List.mem_of_mem_filter hw))
    exact hlast.trans (min_le_right _ _)
  · have hbetween : Apart (between'.map Window.minutes) :=
      hgaps ▸ gaps_apart quarterOf_mono hapart hordered
    exact hbetween.sublist (List.filter_sublist.map _)
  · -- beside each break, as it is beside the stretch of the day that break is joined in
    intro t ht
    refine beside_join (hnonempty w hw) (fun s hs => ?_) ht
    obtain ⟨b, hb, rfl⟩ := List.mem_map.mp hs
    obtain ⟨u, hu, hstart, hend⟩ := within_join (List.mem_map_of_mem (f := Window.minutes) (hsub hb))
    rcases gaps_beside quarterOf_mono hapart hordered (hmem w (List.mem_of_mem_filter hw)) u
      (List.mem_append_left _ hu) with hbefore | hafter
    · exact .inr (hbefore.trans hstart)
    · exact .inl (hend.trans hafter)

/-! ## One window -/

section Window

variable {db db' : Timesheets} {owner : Staff} {day : ℤ} {breaks : List Window} {w : Window}

lemma hoursFor_window (hw : w.start.minutes < w.finish.minutes) :
    ∃ hours, hoursFor w.start w.finish [] = .ok hours ∧
      |hours * 60 - (w.finish.minutes - w.start.minutes : ℕ)| ≤ 3 / 10 := by
  unfold hoursFor
  simp only [if_neg (Nat.not_le.mpr hw)]
  refine ⟨_, rfl, ?_⟩
  have hnone : minutesInside w.start.minutes w.finish.minutes [] = 0 := rfl
  have hround := abs_roundHalfEven_sub_le 2
    (((w.finish.minutes : ℚ) - w.start.minutes - minutesInside w.start.minutes w.finish.minutes []) /
      60)
  rw [hnone] at hround ⊢
  rw [Nat.cast_sub hw.le]
  rw [abs_le] at hround ⊢
  push_cast at hround ⊢
  constructor <;> linarith [hround.1, hround.2]

lemma fitTimes_window (clockChange : TimeOfDay → TimeOfDay → ℤ) {hours : ℚ}
    (hwhole : w.start.micros = 0 ∧ w.finish.micros = 0) (hw : w.start.minutes < w.finish.minutes)
    (hhours : wholeMinutes hours = (w.finish.minutes - w.start.minutes : ℕ))
    (hbeside : ∀ t ∈ mergedMinutes breaks, t.2 ≤ w.start.minutes ∨ w.finish.minutes ≤ t.1) :
    fitTimes clockChange (some w.start) (some w.finish) hours breaks =
      .ok (some w.start, some w.finish) := by
  have hstart : startAfterBreaks w.start breaks = .ok w.start :=
    startAfterBreaks_clear hwhole.1 fun t ht => (hbeside t ht).imp_right hw.trans_le
  obtain ⟨n, hn⟩ : ∃ n, w.finish.minutes - w.start.minutes = n := ⟨_, rfl⟩
  rw [hn] at hhours
  have hsum : w.start.minutes + n = w.finish.minutes := by omega
  have hday : w.start.minutes + n < 24 * 60 := by
    rw [hsum]
    exact w.finish.minutes_lt
  have hend : TimeOfDay.ofMinutes (w.start.minutes + n) hday = w.finish :=
    TimeOfDay.ext hsum hwhole.2.symm
  have hfinish : finishInTheDay w.start hours breaks = .ok (some w.finish) := by
    rw [finishInTheDay_clear hhours hday fun t ht =>
      (hbeside t ht).imp_right fun h => ⟨hw.trans_le h, hsum.le.trans h⟩, hend]
  rw [fitTimes, hstart, ok_bind]
  split
  · rfl
  · rw [hfinish, ok_bind]
    rfl

lemma wholeMinutes_part {hours : ℚ} (part : ℚ) {n : ℕ} (hhours : |hours * 60 - n| ≤ 3 / 10)
    (hpart : 1 / 4 ≤ part) (hrest : part ≤ hours - 1 / 4) :
    ∃ k : ℕ, wholeMinutes part = k ∧ 0 < k ∧ k < n := by
  rw [abs_le] at hhours
  have hnonneg : 0 ≤ part := by linarith
  obtain ⟨k, hk⟩ := Int.eq_ofNat_of_zero_le (wholeMinutes_nonneg hnonneg)
  refine ⟨k, hk, ?_⟩
  unfold wholeMinutes at hk
  rw [if_pos hnonneg, Int.floor_eq_iff] at hk
  obtain ⟨hlow, hhigh⟩ := hk
  push_cast at hlow hhigh
  constructor
  · have hpos : (0 : ℚ) < k := by linarith
    exact_mod_cast hpos
  · have hlt : (k : ℚ) < n := by linarith
    exact_mod_cast hlt

/-- A line of the General work filling a day. -/
structure IsFillOf (owner : Staff) (day : ℤ) (generalWork : ℕ) (line : TimeLine) : Prop where
  staff : line.staff = owner.id
  date : line.accountingDate = day
  job : line.job = generalWork
  source : line.payload.source = some .sweptGeneralWork

lemma findJob_eq_ok {id : ℕ} {job : WorkJob} (h : db.findJob id = .ok job) : job.id = id := by
  unfold Timesheets.findJob at h
  split at h
  · rename_i found hfound
    obtain rfl := Except.ok.inj h
    exact Table.key_of_find? hfound
  · cases h

lemma lineWindow_eq_some {line : TimeLine} {start finish : TimeOfDay}
    (hstart : line.payload.startTime = some start) (hfinish : line.payload.endTime = some finish) :
    lineWindow line = some ⟨start, finish⟩ := by
  unfold lineWindow
  rw [hstart, hfinish]
  rfl

lemma times_chargedUrgent (job : WorkJob) (data : WorkshopEntryCreateData) :
    (chargedUrgent job data).startTime = data.startTime ∧
      (chargedUrgent job data).endTime = data.endTime ∧
        (chargedUrgent job data).hours = data.hours ∧
          (chargedUrgent job data).accountingDate = data.accountingDate := by
  unfold chargedUrgent
  split <;> exact ⟨rfl, rfl, rfl, rfl⟩

lemma date_withTimes {managedBy : Option CostLineOwner} {data timed : WorkshopEntryCreateData}
    (h : withTimes db owner managedBy data = .ok timed) :
    timed.accountingDate = data.accountingDate := by
  rw [eq_of_withTimes h]

lemma dates_of_entryLines {job : WorkJob} {data : WorkshopEntryCreateData} {lines : EntryLines}
    {managedBy : Option CostLineOwner}
    (h : entryLines db owner job managedBy data = .ok lines) :
    (∀ part ∈ lines.parts, part.accountingDate = data.accountingDate) ∧
      owner.isActiveOn data.accountingDate = true := by
  obtain ⟨timed, overtime, htimed, hactive, -, hlines⟩ := entryLines_eq_ok h
  have hdate := date_withTimes htimed
  have hcharged : (chargedUrgent job timed).accountingDate = data.accountingDate :=
    (times_chargedUrgent job timed).2.2.2.trans hdate
  refine ⟨?_, hdate ▸ refuseOutsideEmployment_eq_ok.mp hactive⟩
  rcases hlines with ⟨-, hparts⟩ | ⟨-, -, hparts⟩ | ⟨ordinary, late, -, -, hsplit, hparts⟩
  · rw [hparts]
    exact List.forall_mem_singleton.mpr hcharged
  · rw [hparts]
    exact List.forall_mem_singleton.mpr hcharged
  · rw [hparts]
    rcases splitAtOvertime_eq_ok hsplit with
      ⟨_, _, _, _, _, -, -, -, -, -, rfl, rfl⟩ | ⟨-, rfl, rfl⟩
    · exact List.forall_mem_cons.mpr ⟨hcharged, List.forall_mem_singleton.mpr hcharged⟩
    · exact List.forall_mem_cons.mpr ⟨hcharged, List.forall_mem_singleton.mpr hcharged⟩

lemma withTimes_windowEntry {generalWork : ℕ} {hours : ℚ} (hwindows : Bookable breaks [w])
    (hjob : some generalWork ≠ db.company.breakJob)
    (hbreaks : db.dayBreakWindows owner.id day = .ok breaks)
    (hhours : wholeMinutes hours = (w.finish.minutes - w.start.minutes : ℕ)) :
    withTimes db owner none (windowEntry day generalWork w hours) =
      .ok (windowEntry day generalWork w hours) := by
  have hw : w ∈ [w] := List.mem_singleton_self w
  have hfit := fitTimes_window (db.clockChangeMinutes day) (hwindows.whole w hw)
    (hwindows.nonempty w hw) hhours (hwindows.beside w hw)
  unfold withTimes
  have hjob' : some (windowEntry day generalWork w hours).job ≠ db.company.breakJob := hjob
  rw [if_neg (by simp [windowEntry]), if_pos hjob']
  show (db.dayBreakWindows owner.id day >>= _) = _
  rw [hbreaks, ok_bind]
  show (fitTimes (db.clockChangeMinutes day) (some w.start) (some w.finish) hours breaks >>= _) = _
  rw [hfit]
  rfl

lemma splitAtOvertime_window {data ordinary late : WorkshopEntryCreateData} {overtime : ℚ}
    (hwindows : Bookable breaks [w]) (hstart : data.startTime = some w.start)
    (hfinish : data.endTime = some w.finish)
    (hbreaks : db.dayBreakWindows owner.id data.accountingDate = .ok breaks)
    (hminutes : |data.hours * 60 - (w.finish.minutes - w.start.minutes : ℕ)| ≤ 3 / 10)
    (hquarter : 1 / 4 ≤ overtime ∧ overtime ≤ data.hours - 1 / 4)
    (h : splitAtOvertime db owner data overtime = .ok (ordinary, late)) :
    ∃ k, ∃ hday : w.start.minutes + k < 24 * 60,
      wholeMinutes (data.hours - overtime) = k ∧ 0 < k ∧ w.start.minutes + k < w.finish.minutes ∧
      ordinary = { data with
        hours := data.hours - overtime, endTime := some (.ofMinutes (w.start.minutes + k) hday) } ∧
      late = { atOvertime data with
        hours := overtime, startTime := some (.ofMinutes (w.start.minutes + k) hday) } := by
  have hw : w ∈ [w] := List.mem_singleton_self w
  have hlen : w.start.minutes < w.finish.minutes := hwindows.nonempty w hw
  obtain ⟨k, hk, hkpos, hklt⟩ := wholeMinutes_part (data.hours - overtime) hminutes
    (by linarith [hquarter.2]) (by linarith [hquarter.1])
  have hday : w.start.minutes + k < 24 * 60 := by
    have hlast := w.finish.minutes_lt
    omega
  have hends := finishInTheDay_clear hk hday fun t ht =>
    (hwindows.beside w hw t ht).imp_right fun h => ⟨by omega, by omega⟩
  have hresumes : startAfterBreaks (.ofMinutes (w.start.minutes + k) hday) breaks =
      .ok (.ofMinutes (w.start.minutes + k) hday) := by
    refine startAfterBreaks_clear rfl fun t ht => ?_
    show t.2 ≤ w.start.minutes + k ∨ w.start.minutes + k < t.1
    rcases hwindows.beside w hw t ht with h | h
    · exact .inl (by omega)
    · exact .inr (by omega)
  rcases splitAtOvertime_eq_ok h with
    ⟨s, _, windows, split, resumes, hs, -, hin, hsplit, hagain, rfl, rfl⟩ | ⟨hnot, -⟩
  · obtain rfl : w.start = s := Option.some.inj (hstart.symm.trans hs)
    obtain rfl : breaks = windows := Except.ok.inj (hbreaks.symm.trans hin)
    obtain rfl := Option.some.inj (Except.ok.inj (hends.symm.trans hsplit))
    obtain rfl := Except.ok.inj (hresumes.symm.trans hagain)
    exact ⟨k, hday, hk, hkpos, by omega, rfl, rfl⟩
  · exact (hnot _ _ hstart hfinish).elim

lemma parts_windowEntry {job : WorkJob} {generalWork : ℕ} {hours : ℚ} {lines : EntryLines}
    (hwindows : Bookable breaks [w]) (hjob : some generalWork ≠ db.company.breakJob)
    (hbreaks : db.dayBreakWindows owner.id day = .ok breaks) (hpos : 0 < hours)
    (hhours : |hours * 60 - (w.finish.minutes - w.start.minutes : ℕ)| ≤ 3 / 10)
    (h : entryLines db owner job none (windowEntry day generalWork w hours) = .ok lines) :
    ∃ windows, CutInto w.minutes (windows.map Window.minutes) ∧
      List.Forall₂ (fun part window => part.accountingDate = day ∧
        part.startTime = some window.start ∧ part.endTime = some window.finish)
        lines.parts windows := by
  have hw : w ∈ [w] := List.mem_singleton_self w
  have hlen : w.start.minutes < w.finish.minutes := hwindows.nonempty w hw
  have htimes := withTimes_windowEntry hwindows hjob hbreaks (wholeMinutes_eq hpos.le hhours)
  obtain ⟨hstart, hfinish, hsame, hdata⟩ :=
    times_chargedUrgent job (windowEntry day generalWork w hours)
  obtain ⟨timed, overtime, htimed, -, hovertime, hlines⟩ := entryLines_eq_ok h
  obtain rfl : windowEntry day generalWork w hours = timed :=
    Except.ok.inj (htimes.symm.trans htimed)
  rcases hlines with ⟨-, hparts⟩ | ⟨-, -, hparts⟩ | ⟨ordinary, late, hsome, hnotAll, hsplit, hparts⟩
  · -- whole, at the ordinary rate
    rw [hparts]
    exact ⟨[w], cutInto_self hlen, .cons ⟨hdata, hstart, hfinish⟩ .nil⟩
  · -- whole, at time and a half
    rw [hparts]
    exact ⟨[w], cutInto_self hlen, .cons ⟨hdata, hstart, hfinish⟩ .nil⟩
  · -- split where the ordinary hours end
    have hquarter : 1 / 4 ≤ overtime ∧ overtime ≤ hours - 1 / 4 :=
      ((overtimePart_cases hpos.le hovertime).resolve_left hsome).resolve_left
        fun hall => hnotAll (hall.trans hsame.symm)
    obtain ⟨k, hday, -, hkpos, hklt, rfl, rfl⟩ := splitAtOvertime_window hwindows hstart hfinish
      (hdata.symm ▸ hbreaks) (hsame.symm ▸ hhours) (hsame.symm ▸ hquarter) hsplit
    have hcut : CutInto w.minutes [(w.start.minutes, w.start.minutes + k),
        (w.start.minutes + k, w.finish.minutes)] := cutInto_pair (by omega) hklt
    rw [hparts]
    exact ⟨[⟨w.start, .ofMinutes (w.start.minutes + k) hday⟩,
        ⟨.ofMinutes (w.start.minutes + k) hday, w.finish⟩], hcut,
      .cons ⟨hdata, hstart, rfl⟩ (.cons ⟨hdata, rfl, hfinish⟩ .nil)⟩

lemma windows_of_stores {job : WorkJob} {source : Option EntrySource}
    {managedBy : Option CostLineOwner} {parts : List WorkshopEntryCreateData}
    {added : List TimeLine} {windows : List Window}
    (hstores : List.Forall₂ (Stores db owner job source managedBy) parts added)
    (hparts : List.Forall₂ (fun part window => part.accountingDate = day ∧
      part.startTime = some window.start ∧ part.endTime = some window.finish) parts windows) :
    added.map lineWindow = windows.map some ∧ ∀ line ∈ added, line.staff = owner.id ∧
      line.accountingDate = day ∧ line.job = job.id ∧ line.payload.source = source := by
  induction hstores generalizing windows with
  | nil =>
      cases hparts
      exact ⟨rfl, fun _ h => absurd h List.not_mem_nil⟩
  | cons hstore _ ih =>
      rcases hparts with _ | ⟨⟨hdate, hstart, hfinish⟩, hrest⟩
      obtain ⟨hjob, hstaff, hday, -, -, hsource, hstart', hfinish'⟩ := hstore.columns
      obtain ⟨hwindows, hlines⟩ := ih hrest
      constructor
      · rw [List.map_cons, List.map_cons, hwindows,
          lineWindow_eq_some (hstart'.trans hstart) (hfinish'.trans hfinish)]
      · intro line hline
        rcases List.mem_cons.mp hline with rfl | hline
        · exact ⟨hstaff, hday.trans hdate, hjob, hsource⟩
        · exact hlines line hline

/-- Lines that cut stretches of the day, and are of the General work filling it. -/
structure Cuts (owner : Staff) (day : ℤ) (generalWork : ℕ) (windows : List Window)
    (pieces : List TimeLine) : Prop where
  fill : ∀ line ∈ pieces, IsFillOf owner day generalWork line
  cut : ∃ chunks : List (List Window), pieces.map lineWindow = chunks.flatten.map some ∧
    List.Forall₂ CutInto (windows.map Window.minutes) (chunks.map fun chunk => chunk.map Window.minutes)

/-- **A window** is booked as lines that cut it. -/
lemma run_bookWindow {generalWork : ℕ} {u : Unit} (hwindows : Bookable breaks [w])
    (hjob : some generalWork ≠ db.company.breakJob)
    (hbreaks : db.dayBreakWindows owner.id day = .ok breaks)
    (h : (bookWindow owner day generalWork w).run db = .ok (u, db')) :
    ∃ pieces, AddsLines db db' pieces ∧ Cuts owner day generalWork [w] pieces := by
  unfold bookWindow at h
  simp only [run_bind, run_consult, run_pure] at h
  obtain ⟨hours, _, ⟨hhours, rfl⟩, _, _, hbook, _, rfl⟩ := h
  obtain ⟨job, lines, added, hfound, hgood, hlines, hadds, hstores⟩ := run_bookEntry hbook
  obtain ⟨hours', hhours', hminutes⟩ :=
    hoursFor_window (hwindows.nonempty w (List.mem_singleton_self w))
  obtain rfl : hours' = hours := Except.ok.inj (hhours'.symm.trans hhours)
  obtain ⟨windows, hcut, hparts⟩ := parts_windowEntry hwindows hjob hbreaks
    (pos_of_refuseBadHours hgood) hminutes hlines
  obtain ⟨htimes, hcolumns⟩ := windows_of_stores hstores hparts
  refine ⟨added, hadds, fun line hline => ?_, [windows], ?_, .cons hcut .nil⟩
  · obtain ⟨hstaff, hday, hid, hsource⟩ := hcolumns line hline
    exact ⟨hstaff, hday, hid.trans (findJob_eq_ok hfound), hsource⟩
  · rw [htimes, List.flatten_singleton]

lemma Cuts.nil (owner : Staff) (day : ℤ) (generalWork : ℕ) : Cuts owner day generalWork [] [] where
  fill _ h := absurd h List.not_mem_nil
  cut := ⟨[], rfl, .nil⟩

lemma Cuts.append {generalWork : ℕ} {windows : List Window} {pieces pieces' : List TimeLine}
    (h : Cuts owner day generalWork [w] pieces) (h' : Cuts owner day generalWork windows pieces') :
    Cuts owner day generalWork (w :: windows) (pieces ++ pieces') := by
  obtain ⟨hfill, chunks, htimes, hcut⟩ := h
  obtain ⟨hfill', chunks', htimes', hcut'⟩ := h'
  refine ⟨fun line hline => ?_, chunks ++ chunks', ?_, ?_⟩
  · rcases List.mem_append.mp hline with hline | hline
    · exact hfill line hline
    · exact hfill' line hline
  · rw [List.map_append, htimes, htimes', List.flatten_append, List.map_append]
  · rw [List.map_append]
    exact List.rel_append hcut hcut'

/-- **The windows** are booked as lines that cut them. -/
lemma run_bookWindows {generalWork : ℕ} {windows : List Window} {u : Unit}
    (hwindows : Bookable breaks windows) (hjob : some generalWork ≠ db.company.breakJob)
    (hbreaks : db.dayBreakWindows owner.id day = .ok breaks)
    (h : (windows.forM (bookWindow owner day generalWork)).run db = .ok (u, db')) :
    ∃ pieces, AddsLines db db' pieces ∧ Cuts owner day generalWork windows pieces := by
  induction windows generalizing db with
  | nil =>
      obtain rfl := run_forM_nil.mp h
      exact ⟨[], .refl db, .nil owner day generalWork⟩
  | cons w windows ih =>
      obtain ⟨mid, hfirst, hrest⟩ := run_forM_cons.mp h
      obtain ⟨pieces, hadds, hcuts⟩ := run_bookWindow hwindows.head hjob hbreaks hfirst
      -- the General work added is on no break, so the breaks stand for the next window
      have hsame : mid.dayBreakWindows owner.id day = .ok breaks := by
        rw [hadds.dayBreakWindows owner.id day fun line hline => ?_, hbreaks]
        rw [(hcuts.fill line hline).job]
        exact hjob
      obtain ⟨pieces', hadds', hcuts'⟩ :=
        ih hwindows.tail (hadds.books.company.symm ▸ hjob) hsame hrest
      exact ⟨pieces ++ pieces', hadds.trans hadds', hcuts.append hcuts'⟩

end Window

/-! ## The fill of a day -/

/-- The fill lines hold the windows, and no minute twice. -/
structure Fills (filled : List TimeLine) (windows : List Window) : Prop where
  timed : ∀ line ∈ filled, (lineWindow line).isSome
  /-- Their windows, joined where they touch, are the windows joined so. -/
  joined : mergedMinutes (filled.filterMap lineWindow) = mergedMinutes windows
  /-- A minute is on a fill line exactly when it is on a window. -/
  covers : ∀ m, Covers ((filled.filterMap lineWindow).map Window.minutes) m ↔
    Covers (windows.map Window.minutes) m
  once : Once ((filled.filterMap lineWindow).map Window.minutes)

lemma flatMap_mergedMinutes (windows : List Window) :
    (windows.flatMap fun each => mergedMinutes [each]) = windows.map Window.minutes := by
  induction windows with
  | nil => rfl
  | cons w windows ih => rw [List.flatMap_cons, ih]; rfl

lemma fills_of_fillStands {filled : List TimeLine} {windows : List Window}
    (h : fillStands filled windows = true) (hright : WellFormed (filled.filterMap lineWindow)) :
    Fills filled windows := by
  unfold fillStands at h
  simp only [Bool.and_eq_true, decide_eq_true_eq, flatMap_mergedMinutes] at h
  obtain ⟨⟨hlength, hjoined⟩, htotal⟩ := h
  refine ⟨List.filterMap_length_eq_length.mp hlength, hjoined, fun m => ?_,
    once_of_totalLength hright.ordered htotal⟩
  unfold mergedMinutes at hjoined
  rw [← covers_join, hjoined, covers_join]

section Stands

variable {owner : Staff} {day : ℤ} {generalWork : ℕ} {breaks windows : List Window}
  {pieces : List TimeLine}

lemma Cuts.current (h : Cuts owner day generalWork windows pieces) :
    ∃ chunks : List (List Window), pieces.filterMap lineWindow = chunks.flatten ∧
      chunks.flatten.length = pieces.length ∧
      List.Forall₂ CutInto (windows.map Window.minutes)
        (chunks.map fun chunk => chunk.map Window.minutes) := by
  obtain ⟨-, chunks, htimes, hcut⟩ := h
  refine ⟨chunks, ?_, ?_, hcut⟩
  · calc pieces.filterMap lineWindow
        = (pieces.map lineWindow).filterMap id := by rw [List.filterMap_map]; rfl
      _ = chunks.flatten := by rw [htimes, List.filterMap_map]; exact List.filterMap_some
  · rw [← List.length_map (f := some), ← htimes, List.length_map]

lemma Cuts.wellFormed (h : Cuts owner day generalWork windows pieces) :
    WellFormed (pieces.filterMap lineWindow) := by
  obtain ⟨chunks, hcurrent, -, hcut⟩ := h.current
  intro w hw
  have hpiece : w.minutes ∈ (chunks.map fun chunk => chunk.map Window.minutes).flatten := by
    rw [← List.map_flatten, ← hcurrent]
    exact List.mem_map_of_mem hw
  exact (nonempty_flatten_of_cut hcut _ hpiece).le

lemma Cuts.fillStands (h : Cuts owner day generalWork windows pieces)
    (hwindows : Bookable breaks windows) : fillStands pieces windows = true := by
  obtain ⟨chunks, hcurrent, hlength, hcut⟩ := h.current
  have hne : ∀ s ∈ windows.map Window.minutes, s.1 < s.2 := by
    intro s hs
    obtain ⟨w, hw, rfl⟩ := List.mem_map.mp hs
    exact hwindows.nonempty w hw
  unfold Timesheet.fillStands
  simp only [Bool.and_eq_true, decide_eq_true_eq, flatMap_mergedMinutes, hcurrent]
  unfold mergedMinutes
  rw [List.map_flatten]
  exact ⟨⟨hlength, join_flatten_of_cut hcut hne⟩, totalLength_flatten_of_cut hcut hwindows.apart⟩

end Stands

/-! ## The rebuild -/

section Rebuild

variable {db db' : Timesheets} {owner : Staff} {day : ℤ}

lemma run_deleteLines {lines : List TimeLine} {u : Unit}
    (h : (lines.forM deleteLine).run db = .ok (u, db')) :
    SameBooks db db' ∧
      db'.lines.rows = db.lines.rows.filter fun r => lines.all fun line => r.id ≠ line.id := by
  induction lines generalizing db with
  | nil =>
      obtain rfl := run_forM_nil.mp h
      exact ⟨.refl db, (List.filter_eq_self.mpr fun _ _ => rfl).symm⟩
  | cons line lines ih =>
      obtain ⟨mid, hfirst, hrest⟩ := run_forM_cons.mp h
      obtain rfl := run_write.mp hfirst
      obtain ⟨hbooks, hrows⟩ := ih hrest
      refine ⟨(sameBooks_lines _ _).trans hbooks, ?_⟩
      rw [hrows, Table.rows_erase, List.filter_filter]
      refine List.filter_congr fun r _ => ?_
      rw [List.all_cons, Bool.and_comm]

lemma dayTimeLines_of_deleted
    (hrows : db'.lines.rows = db.lines.rows.filter fun r =>
      (db.fillLines owner.id day).all fun line => r.id ≠ line.id) :
    db'.dayTimeLines owner.id day =
      (db.dayTimeLines owner.id day).filter fun line => !isGeneralWorkFill db.company line := by
  have hswap : db'.dayTimeLines owner.id day = (db.dayTimeLines owner.id day).filter fun r =>
      (db.fillLines owner.id day).all fun line => r.id ≠ line.id := by
    unfold Timesheets.dayTimeLines
    rw [hrows, List.filter_comm]
  rw [hswap]
  refine List.filter_congr fun r hr => ?_
  have hstored : r ∈ db.lines.rows := List.mem_of_mem_filter hr
  rw [Bool.eq_iff_iff]
  simp only [List.all_eq_true, decide_eq_true_eq, Bool.not_eq_true']
  constructor
  · intro hall
    by_contra hfill
    have hin : r ∈ db.fillLines owner.id day :=
      List.mem_filter.mpr ⟨hr, by simpa using hfill⟩
    exact hall r hin rfl
  · intro hnot line hline hid
    obtain ⟨hday, hfill⟩ := List.mem_filter.mp hline
    have heq : r = line := Table.eq_of_key_eq hstored (List.mem_of_mem_filter hday) hid
    rw [heq, hfill] at hnot
    cases hnot

lemma lines_of_rebuilt {generalWork : ℕ} {windows : List Window} {pieces : List TimeLine}
    (hcompany : db'.company = db.company) (hwork : db.company.generalWorkJob = some generalWork)
    (hcuts : Cuts owner day generalWork windows pieces)
    (h : db'.dayTimeLines owner.id day = ((db.dayTimeLines owner.id day).filter fun line =>
      !isGeneralWorkFill db.company line) ++ pieces) :
    db'.fillLines owner.id day = pieces ∧
      db'.otherLines owner.id day = db.otherLines owner.id day := by
  have hfill : ∀ line ∈ pieces, isGeneralWorkFill db.company line = true := by
    intro line hline
    obtain ⟨-, -, hjob, hsource⟩ := hcuts.fill line hline
    unfold isGeneralWorkFill
    rw [hjob, hsource, hwork]
    simp
  have hnone : pieces.filter (fun line => !isGeneralWorkFill db.company line) = [] :=
    List.filter_eq_nil_iff.mpr fun line hline => by simp [hfill line hline]
  have hrest : ((db.dayTimeLines owner.id day).filter fun line =>
      !isGeneralWorkFill db.company line).filter (isGeneralWorkFill db.company) = [] :=
    List.filter_eq_nil_iff.mpr fun line hline => by simpa using List.of_mem_filter hline
  unfold Timesheets.fillLines Timesheets.otherLines
  rw [h, hcompany, List.filter_append, List.filter_append, List.filter_eq_self.mpr hfill, hrest,
    hnone, List.nil_append, List.append_nil, List.filter_filter]
  simp only [Bool.and_self, and_self]

lemma generalWorkJobId_eq_ok {generalWork : ℕ} (h : generalWorkJobId db = .ok generalWork) :
    db.company.generalWorkJob = some generalWork ∧ some generalWork ≠ db.company.breakJob := by
  unfold generalWorkJobId at h
  split at h
  · cases h
  · rename_i job hjob
    split at h
    · cases h
    · rename_i hworked
      obtain rfl := Except.ok.inj h
      exact ⟨hjob, fun hbreak => hworked (.inl hbreak)⟩

lemma bookable_windowsToFill {row : AttendanceDay} {breaks windows : List Window}
    (hright : ∀ line ∈ db.dayTimeLines owner.id day, RightWayRound line)
    (hbreaks : breakWindows db.company day (some row) (db.otherLines owner.id day).2 = .ok breaks)
    (h : db.windowsToFill owner.id day row = .ok windows) : Bookable breaks windows := by
  have hother : ∀ line, line ∈ (db.otherLines owner.id day).1 ∨
      line ∈ (db.otherLines owner.id day).2 → RightWayRound line := by
    rintro line (hline | hline)
    · exact hright line (List.mem_of_mem_filter (List.mem_of_mem_filter hline))
    · exact hright line (List.mem_of_mem_filter (List.mem_of_mem_filter hline))
  unfold Timesheets.windowsToFill at h
  simp only [map_eq_ok] at h
  obtain ⟨found, hfound, rfl⟩ := h
  rcases found with _ | found
  · exact bookable_nil breaks
  · exact bookable_unallocatedWindows (fun line h => hother line (.inl h))
      (fun line h => hother line (.inr h)) hbreaks hfound

/-- **What a refill does**: nothing, where the day is not filled or its fill stands; else the fill is
deleted and the windows are booked. -/
lemma refill_cases {made : ℚ} (hrun : (refillGeneralWork owner day).run db = .ok (made, db')) :
    (db' = db ∧ ∀ row, db.dayRow owner.id day = some row → row.generalWorkFill = true →
      ∃ generalWork windows, generalWorkJobId db = .ok generalWork ∧
        db.windowsToFill owner.id day row = .ok windows ∧
        fillStands (db.fillLines owner.id day) windows = true) ∨
    ∃ row generalWork windows mid, db.dayRow owner.id day = some row ∧
      row.generalWorkFill = true ∧ generalWorkJobId db = .ok generalWork ∧
      db.windowsToFill owner.id day row = .ok windows ∧
      ((db.fillLines owner.id day).forM deleteLine).run db = .ok ((), mid) ∧
      (windows.forM (bookWindow owner day generalWork)).run mid = .ok ((), db') := by
  unfold refillGeneralWork at hrun
  simp only [run_bind, run_read] at hrun
  obtain ⟨_, _, ⟨rfl, rfl⟩, hrun⟩ := hrun
  split at hrun
  · rename_i hrow
    obtain ⟨-, rfl⟩ := run_pure.mp hrun
    exact .inl ⟨rfl, fun row h => absurd (hrow.symm.trans h) (by simp)⟩
  rename_i row hrow
  split at hrun
  · rename_i hfill
    obtain ⟨-, rfl⟩ := run_pure.mp hrun
    refine .inl ⟨rfl, fun row' h hfill' => ?_⟩
    obtain rfl : row = row' := Option.some.inj (hrow.symm.trans h)
    rw [hfill] at hfill'
    cases hfill'
  rename_i hfill
  simp only [run_bind, run_consult, run_read] at hrun
  obtain ⟨generalWork, _, ⟨hwork, rfl⟩, _, _, ⟨rfl, rfl⟩, windows, _, ⟨hwindows, rfl⟩, hrun⟩ := hrun
  split at hrun
  · rename_i hstands
    obtain ⟨-, rfl⟩ := run_pure.mp hrun
    refine .inl ⟨rfl, fun row' h _ => ?_⟩
    obtain rfl : row = row' := Option.some.inj (hrow.symm.trans h)
    exact ⟨generalWork, windows, hwork, hwindows, hstands⟩
  simp only [run_bind, run_consult] at hrun
  obtain ⟨_, mid, hdelete, _, _, hbook, -, rfl⟩ := hrun
  exact .inr ⟨row, generalWork, windows, mid, hrow, by simpa using hfill, hwork, hwindows, hdelete,
    hbook⟩

/-- **A refill** keeps the other lines of the day and every other table, and on a filled day leaves
a fill that stands, of new lines or of those there were. -/
lemma run_refillGeneralWork {made : ℚ}
    (hright : ∀ line ∈ db.dayTimeLines owner.id day, RightWayRound line)
    (hrun : (refillGeneralWork owner day).run db = .ok (made, db')) :
    SameBooks db db' ∧ db'.otherLines owner.id day = db.otherLines owner.id day ∧
      ∀ row, db.dayRow owner.id day = some row → row.generalWorkFill = true →
        ∃ generalWork windows, generalWorkJobId db = .ok generalWork ∧
          db.windowsToFill owner.id day row = .ok windows ∧
          fillStands (db'.fillLines owner.id day) windows = true ∧
          (db' = db ∨ Cuts owner day generalWork windows (db'.fillLines owner.id day)) := by
  rcases refill_cases hrun with ⟨rfl, hstands⟩ |
    ⟨row, generalWork, windows, mid, hrow, -, hwork, hwindows, hdelete, hbook⟩
  · refine ⟨.refl db', rfl, fun row hrow hfill => ?_⟩
    obtain ⟨generalWork, windows, hwork, hwindows, hstands⟩ := hstands row hrow hfill
    exact ⟨generalWork, windows, hwork, hwindows, hstands, .inl rfl⟩
  obtain ⟨hjob, hnotBreak⟩ := generalWorkJobId_eq_ok hwork
  obtain ⟨hbooks, hrows⟩ := run_deleteLines hdelete
  have hday := dayTimeLines_of_deleted hrows
  obtain ⟨breaks, hbreaks⟩ : ∃ breaks,
      breakWindows db.company day (some row) (db.otherLines owner.id day).2 = .ok breaks := ⟨_, rfl⟩
  have hmid : mid.dayBreakWindows owner.id day = .ok breaks := by
    unfold Timesheets.dayBreakWindows
    rw [hbooks.company, hbooks.dayRow, hday, hrow]
    exact hbreaks
  have hbookable := bookable_windowsToFill hright hbreaks hwindows
  obtain ⟨pieces, hadds, hcuts⟩ :=
    run_bookWindows hbookable (hbooks.company.symm ▸ hnotBreak) hmid hbook
  have hin : (pieces.filter fun line => line.staff = owner.id && line.accountingDate = day) =
      pieces := by
    refine List.filter_eq_self.mpr fun line hline => ?_
    obtain ⟨hstaff, hdate, -, -⟩ := hcuts.fill line hline
    simp [hstaff, hdate]
  obtain ⟨hfilled, hother⟩ := lines_of_rebuilt (hbooks.trans hadds.books).company hjob hcuts
    (by rw [hadds.dayTimeLines, hday, hin])
  refine ⟨hbooks.trans hadds.books, hother, fun row' h _ => ?_⟩
  obtain rfl : row = row' := Option.some.inj (hrow.symm.trans h)
  rw [hfilled]
  exact ⟨generalWork, windows, hwork, hwindows, hcuts.fillStands hbookable, .inr hcuts⟩

lemma refillGeneralWork_noop
    (h : ∀ row, db.dayRow owner.id day = some row → row.generalWorkFill = true →
      ∃ generalWork windows, generalWorkJobId db = .ok generalWork ∧
        db.windowsToFill owner.id day row = .ok windows ∧
        fillStands (db.fillLines owner.id day) windows = true) :
    (refillGeneralWork owner day).run db = .ok (0, db) := by
  refine run_bind.mpr ⟨_, db, run_read.mpr ⟨rfl, rfl⟩, ?_⟩
  rcases hrow : db.dayRow owner.id day with _ | row
  · rfl
  · simp only
    split
    · rfl
    · rename_i hfilled
      obtain ⟨generalWork, windows, hwork, hwindows, hstands⟩ := h row hrow (by simpa using hfilled)
      refine run_bind.mpr ⟨generalWork, db, run_consult.mpr ⟨hwork, rfl⟩, ?_⟩
      refine run_bind.mpr ⟨_, db, run_read.mpr ⟨rfl, rfl⟩, ?_⟩
      refine run_bind.mpr ⟨windows, db, run_consult.mpr ⟨hwindows, rfl⟩, ?_⟩
      rw [if_pos hstands]
      rfl

lemma windowsToFill_congr (hbooks : SameBooks db db')
    (hother : db'.otherLines owner.id day = db.otherLines owner.id day) (row : AttendanceDay) :
    db'.windowsToFill owner.id day row = db.windowsToFill owner.id day row := by
  have htoday : db'.today = db.today := by rw [hbooks]
  unfold Timesheets.windowsToFill
  rw [hother, hbooks.company, htoday]

end Rebuild

/-- **Refilling settles a day** whose times are the right way round.  Once it has run, running it
again changes nothing; the entries and breaks of the day are as they were; and the General work of
a filled day is then its unallocated time, joined where it touches, and no minute of it twice. -/
theorem refillGeneralWork_settles (db db' : Timesheets) (owner : Staff) (day : ℤ) (made : ℚ)
    (hright : ∀ line ∈ db.dayTimeLines owner.id day, RightWayRound line)
    (hrun : (refillGeneralWork owner day).run db = .ok (made, db')) :
    (refillGeneralWork owner day).run db' = .ok (0, db') ∧
      db'.otherLines owner.id day = db.otherLines owner.id day ∧
      ∀ row, db'.dayRow owner.id day = some row → row.generalWorkFill = true →
        ∃ windows, db'.windowsToFill owner.id day row = .ok windows ∧
          Fills (db'.fillLines owner.id day) windows := by
  obtain ⟨hbooks, hother, hfill⟩ := run_refillGeneralWork hright hrun
  have hstand : ∀ row, db'.dayRow owner.id day = some row → row.generalWorkFill = true →
      ∃ generalWork windows, generalWorkJobId db' = .ok generalWork ∧
        db'.windowsToFill owner.id day row = .ok windows ∧
        fillStands (db'.fillLines owner.id day) windows = true ∧
        (db' = db ∨ Cuts owner day generalWork windows (db'.fillLines owner.id day)) := by
    intro row hrow hfilled
    obtain ⟨generalWork, windows, hwork, hwindows, hstands, hlines⟩ :=
      hfill row (hbooks.dayRow owner.id day ▸ hrow) hfilled
    exact ⟨generalWork, windows, hbooks.generalWorkJobId.trans hwork,
      (windowsToFill_congr hbooks hother row).trans hwindows, hstands, hlines⟩
  refine ⟨refillGeneralWork_noop fun row hrow hfilled => ?_, hother, fun row hrow hfilled => ?_⟩
  · obtain ⟨generalWork, windows, hwork, hwindows, hstands, -⟩ := hstand row hrow hfilled
    exact ⟨generalWork, windows, hwork, hwindows, hstands⟩
  · obtain ⟨generalWork, windows, -, hwindows, hstands, hlines⟩ := hstand row hrow hfilled
    refine ⟨windows, hwindows, fills_of_fillStands hstands ?_⟩
    rcases hlines with rfl | hcuts
    · exact wellFormed_lineWindows fun line hline => hright line (List.mem_of_mem_filter hline)
    · exact hcuts.wellFormed

/-! ## A day of one person -/

/-- A fitter who has been with the company for long. -/
def fitter : Staff where
  id := 9
  isOfficeStaff := false
  hasPayrollId := true
  employmentStartDate := -1000
  dateLeft := none
  payBasis := some .hourly
  wageRate := 30
  defaultLabourSubtype := some 1
  rosterHours := [8, 8, 8, 8, 8, 0, 0]
  payrollTerms := []

/-- Breaks, General work, and a customer's job. -/
def workshopJobs : Table WorkJob.id where
  rows := [⟨1, "Break", true, false, false, some 1⟩, ⟨2, "General work", true, false, false, some 1⟩,
    ⟨3, "Handrail", false, false, false, some 1⟩]
  nodup := by decide

def earningsRates : Table PayItem.id where
  rows := [⟨1, "Ordinary Time", false, true, some 1⟩,
    ⟨2, "Time and one half", false, true, some (3 / 2)⟩, ⟨3, "Unpaid Work", false, true, some 0⟩]
  nodup := by decide

/-- The fitter's Monday, a week ago. -/
def fittersDay (row : AttendanceDay) (lines : Table TimeLine.id) : Timesheets where
  company := defaultCompany
  staff := ⟨[fitter], by decide⟩
  jobs := workshopJobs
  leaveTypes := .empty
  payItems := earningsRates
  labourSubtypes := [1]
  labourRates := ⟨[⟨1, 1, 0⟩, ⟨2, 1, 0⟩, ⟨3, 1, 100⟩], by decide⟩
  attendance := ⟨[row], by simp⟩
  lines := lines
  fresh := 10
  today := 7
  now := clock 12 0 (by decide)
  clockChangeMinutes := fun _ _ _ => 0

def filledDay : AttendanceDay := { clockedDay with generalWorkFill := true }

/-- A hundredth of an hour at ten, from and to the second. -/
def momentEntry : TimeLine :=
  { morningEntry with
    quantity := 1 / 100
    payload :=
      { morningEntry.payload with
        startTime := some (clock 10 0 (by decide))
        endTime := some ⟨600, 50000000, by decide, by decide⟩ } }

/-- The morning's entry on a filled day: refilling settles the rest of it. -/
theorem refillGeneralWork_settles_a_morning :
    ∃ made db', (refillGeneralWork fitter 0).run
        (fittersDay filledDay ⟨[morningEntry], by decide⟩) = .ok (made, db') ∧
      (refillGeneralWork fitter 0).run db' = .ok (0, db') ∧
      db'.otherLines fitter.id 0 =
        (fittersDay filledDay ⟨[morningEntry], by decide⟩).otherLines fitter.id 0 ∧
      ∀ row, db'.dayRow fitter.id 0 = some row → row.generalWorkFill = true →
        ∃ windows, db'.windowsToFill fitter.id 0 row = .ok windows ∧
          Fills (db'.fillLines fitter.id 0) windows := by
  obtain ⟨made, db', hrun, -⟩ := exists_of_endsIn (x := refillGeneralWork fitter 0)
    (s := fittersDay filledDay ⟨[morningEntry], by decide⟩) (p := fun made _ => made = 23 / 4)
    (by decide +kernel)
  exact ⟨made, db', hrun, refillGeneralWork_settles _ db' fitter 0 made (by decide +kernel) hrun⟩

/-- **The fill joins what the windows leave apart, and an unfilled day has none**: round an entry
inside one minute the windows meet and the General work joined is one stretch; and on a day that is
not filled there are windows and no General work. -/
theorem refillGeneralWork_joins_and_guards :
    (∃ made db', (refillGeneralWork fitter 0).run
        (fittersDay filledDay ⟨[momentEntry], by decide⟩) = .ok (made, db') ∧
      ∃ windows, db'.windowsToFill fitter.id 0 filledDay = .ok windows ∧
        mergedMinutes ((db'.fillLines fitter.id 0).filterMap lineWindow) ≠
          windows.map Window.minutes) ∧
    ∃ made db', (refillGeneralWork fitter 0).run
        (fittersDay clockedDay ⟨[morningEntry], by decide⟩) = .ok (made, db') ∧
      ∃ windows, db'.windowsToFill fitter.id 0 clockedDay = .ok windows ∧
        mergedMinutes ((db'.fillLines fitter.id 0).filterMap lineWindow) ≠
          windows.map Window.minutes := by
  constructor
  · obtain ⟨made, db', hrun, htest⟩ := exists_of_endsIn (x := refillGeneralWork fitter 0)
      (s := fittersDay filledDay ⟨[momentEntry], by decide⟩)
      (p := fun _ db' =>
        db'.windowsToFill fitter.id 0 filledDay = .ok
          [⟨clock 8 0 (by decide), clock 10 0 (by decide)⟩,
            ⟨clock 10 0 (by decide), clock 16 0 (by decide)⟩] &&
        mergedMinutes ((db'.fillLines fitter.id 0).filterMap lineWindow) = [(480, 960)])
      (by decide +kernel)
    simp only [Bool.and_eq_true, decide_eq_true_eq] at htest
    obtain ⟨hwindows, hfill⟩ := htest
    exact ⟨made, db', hrun, _, hwindows, by rw [hfill]; decide⟩
  · obtain ⟨made, db', hrun, htest⟩ := exists_of_endsIn (x := refillGeneralWork fitter 0)
      (s := fittersDay clockedDay ⟨[morningEntry], by decide⟩)
      (p := fun _ db' =>
        db'.windowsToFill fitter.id 0 clockedDay = .ok
          [⟨clock 10 15 (by decide), clock 16 0 (by decide)⟩] &&
        mergedMinutes ((db'.fillLines fitter.id 0).filterMap lineWindow) = [])
      (by decide +kernel)
    simp only [Bool.and_eq_true, decide_eq_true_eq] at htest
    obtain ⟨hwindows, hfill⟩ := htest
    exact ⟨made, db', hrun, _, hwindows, by rw [hfill]; decide⟩

end Timesheet

end Docketworks
