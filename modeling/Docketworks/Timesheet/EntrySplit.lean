import Docketworks.Timesheet.SubmittedRows

/-!
# The lines an entry is stored as

What `createEntry` adds to the books: one line, or two where the hours pass the usual day.

* `entryStored` — the lines a call added, but for the General work rebuilt after them.
* `Drawn` — windows that run from a start to a finish, one after the other.
* `drawn_split` — the parts of a split entry meet in order, and hold its worked minutes.
* `createEntry_carries_entry` — the stored lines carry the hours, the rates and the times.
* `later_finish_is_stored` — a finish later than the hours need stays, with more minutes than hours.

**Design.**  An entry's times are those `withTimes` gives it: a start moves out of a break, and a
finish too soon for the hours moves to where they end.
-/

namespace Docketworks

open Library Library.Transaction

namespace Timesheet

/-! ## The times of an entry -/

section Times

variable {db : Timesheets} {owner : Staff} {managedBy : Option CostLineOwner}
  {data timed : WorkshopEntryCreateData} {breaks : List Window} {s f : TimeOfDay} {hours : ℚ}

/-- Where an entry's times stand: from a whole minute on no break, to where its hours end or to a
later finish it was given. -/
structure Fitted (clockChange : TimeOfDay → TimeOfDay → ℤ) (data : WorkshopEntryCreateData)
    (breaks : List Window) (s f : TimeOfDay) : Prop where
  whole : s.micros = 0
  outside : Free breaks s.minutes
  forward : s < f
  begins : ∀ given ∈ data.startTime, startAfterBreaks given breaks = .ok s
  ends : finishInTheDay s data.hours breaks = .ok (some f) ∨ (data.endTime = some f ∧
    data.hours - elapsedHours clockChange s f breaks ≤ timeAgreementTolerance)

lemma nextEntryStart_free (hbreaks : WellFormed breaks)
    (hin : db.dayBreakWindows owner.id data.accountingDate = .ok breaks)
    (h : db.nextEntryStart owner.id data.accountingDate = .ok s) :
    s.micros = 0 ∧ Free breaks s.minutes := by
  unfold Timesheets.nextEntryStart defaultEntryStart at h
  simp only [bind_eq_ok] at h
  obtain ⟨windows, hwindows, hstart⟩ := h
  obtain rfl : windows = breaks := Except.ok.inj (hwindows.symm.trans hin)
  obtain ⟨t, ht, hwhole, hfree, -⟩ := startAfterBreaks_free _ hbreaks
  obtain rfl : s = t := Except.ok.inj (hstart.symm.trans ht)
  exact ⟨hwhole, hfree⟩

/-- **The times of a new entry** are fitted to its hours, but on the Break job. -/
lemma fitted_of_withTimes (hbreaks : ∀ breaks, db.dayBreakWindows owner.id data.accountingDate =
      .ok breaks → ∀ w ∈ breaks, w.start < w.finish)
    (hhours : refuseBadHours data.hours = .ok ()) (hjob : some data.job ≠ db.company.breakJob)
    (h : withTimes db owner managedBy data = .ok timed) (hs : timed.startTime = some s)
    (hf : timed.endTime = some f) :
    ∃ breaks, db.dayBreakWindows owner.id data.accountingDate = .ok breaks ∧ WellFormed breaks ∧
      Fitted (db.clockChangeMinutes data.accountingDate) data breaks s f := by
  have hpart : 1 / 100 ≤ data.hours := hundredth_of_refuseBadHours hhours
  unfold withTimes placed at h
  split at h
  · -- given without times
    rename_i hnone
    split at h
    · simp only [bind_eq_ok] at h
      obtain ⟨start, hstart, breaks, hin, finish, hfinish, h⟩ := h
      have hwell : WellFormed breaks := wellFormed_of_lt (hbreaks breaks hin)
      rcases finish with _ | finish <;> obtain rfl := Except.ok.inj h
      · rw [hnone.1] at hs
        cases hs
      · obtain rfl : start = s := Option.some.inj hs
        obtain rfl : finish = f := Option.some.inj hf
        obtain ⟨hwhole, hfree⟩ := nextEntryStart_free hwell hin hstart
        refine ⟨breaks, hin, hwell, hwhole, hfree, lt_finishInTheDay hpart hfinish, ?_, .inl hfinish⟩
        rw [hnone.1]
        exact fun _ hgiven => by cases hgiven
    · obtain rfl := Except.ok.inj h
      rw [hnone.1] at hs
      cases hs
  simp only [bind_eq_ok, pure_eq_ok] at h
  obtain ⟨breaks, hin, ⟨start, finish⟩, hfit, rfl⟩ := h
  have hwell : WellFormed breaks := wellFormed_of_lt (hbreaks breaks hin)
  refine ⟨breaks, hin, hwell, ?_⟩
  simp only at hs hf
  subst hs hf
  unfold fitTimes at hfit
  split at hfit
  · rename_i given given' hbegins hgiven
    have hmoved : ∀ t ∈ data.startTime, t = given := fun t ht =>
      Option.some.inj (ht.symm.trans hbegins)
    obtain ⟨start, hstart, hwhole, hfree, -⟩ := startAfterBreaks_free given hwell
    rw [hstart, ok_bind] at hfit
    split at hfit
    · rename_i hkept
      obtain ⟨hs, hf⟩ := Prod.mk.inj (Except.ok.inj hfit)
      obtain rfl := Option.some.inj hs
      obtain rfl := Option.some.inj hf
      exact ⟨hwhole, hfree, hkept.1, fun t ht => hmoved t ht ▸ hstart, .inr ⟨hgiven, hkept.2⟩⟩
    · simp only [bind_eq_ok] at hfit
      obtain ⟨finish, hfinish, hfit⟩ := hfit
      rcases finish with _ | finish
      · cases (Prod.mk.inj (Except.ok.inj hfit)).1
      · obtain ⟨hs, hf⟩ := Prod.mk.inj (Except.ok.inj hfit)
        obtain rfl := Option.some.inj hs
        obtain rfl := Option.some.inj hf
        exact ⟨hwhole, hfree, lt_finishInTheDay hpart hfinish,
          fun t ht => hmoved t ht ▸ hstart, .inl hfinish⟩
  · rename_i hnot
    obtain ⟨hs, hf⟩ := Prod.mk.inj (Except.ok.inj hfit)
    exact absurd hf (hnot s f hs)

lemma wholeMinutes_near (h : 0 ≤ hours) :
    hours * 60 - 1 / 2 < wholeMinutes hours ∧ (wholeMinutes hours : ℚ) ≤ hours * 60 + 1 / 2 := by
  unfold wholeMinutes
  rw [if_pos h]
  have hlt := Int.lt_floor_add_one (hours * 60 + 1 / 2)
  exact ⟨by linarith, Int.floor_le _⟩

lemma Fitted.lt_worked {clockChange : TimeOfDay → TimeOfDay → ℤ} {ordinary : ℚ}
    (h : Fitted clockChange data breaks s f) (hbreaks : WellFormed breaks) (h0 : 0 ≤ ordinary)
    (hrest : ordinary + 1 / 4 ≤ data.hours) (hclock : clockChange s f ≤ 0) :
    wholeMinutes ordinary < workedMinutes breaks s.minutes f.minutes := by
  obtain ⟨-, hround⟩ := wholeMinutes_near h0
  rcases h.ends with hends | ⟨-, hlate⟩
  · obtain ⟨-, hworked⟩ := worked_of_finishInTheDay (by linarith) hbreaks hends
    obtain ⟨hlow, -⟩ := wholeMinutes_near (show (0 : ℚ) ≤ data.hours by linarith)
    have hlt : (wholeMinutes ordinary : ℚ) < wholeMinutes data.hours := by linarith
    rw [hworked]
    exact_mod_cast hlt
  · -- a finish between two minutes passes less than a minute that is not counted
    have hle : s.minutes ≤ f.minutes := by
      by_contra hlt
      exact absurd h.forward (not_lt.mpr (le_of_lt (α := ℕ) (lt_of_minutes_lt (by omega))))
    have hsum := workedMinutes_add_inside s.minutes f.minutes hbreaks
    have hspan : ((workedMinutes breaks s.minutes f.minutes : ℚ) +
        minutesInside s.minutes f.minutes breaks) = f.minutes - s.minutes := by
      rw [← Nat.cast_sub hle, ← hsum, Nat.cast_add]
    have hmicros : (f.micros : ℚ) < 60 * 1000000 := by exact_mod_cast f.micros_lt
    have hback : (clockChange s f : ℚ) ≤ 0 := by exact_mod_cast hclock
    unfold elapsedHours breakMinutesIn TimeOfDay.sinceMidnight timeAgreementTolerance at hlate
    rw [h.whole] at hlate
    push_cast at hlate
    have hlt : (wholeMinutes ordinary : ℚ) < workedMinutes breaks s.minutes f.minutes := by linarith
    exact_mod_cast hlt

end Times

/-! ## Where an entry is split -/

section Split

variable {breaks : List Window} {s f split resumes : TimeOfDay} {ordinary : ℚ}

/-- Windows one after the other, from a start to a finish, each beginning on no break. -/
structure Drawn (breaks : List Window) (s f : TimeOfDay) (windows : List Window) : Prop where
  start : windows.head?.map Window.start = some s
  finish : windows.getLast?.map Window.finish = some f
  forward : ∀ w ∈ windows, w.start < w.finish
  outside : ∀ w ∈ windows, Free breaks w.start.minutes
  apart : windows.Pairwise fun w v => w.finish ≤ v.start

lemma drawn_singleton (hforward : s < f) (hfree : Free breaks s.minutes) :
    Drawn breaks s f [⟨s, f⟩] where
  start := rfl
  finish := rfl
  forward := List.forall_mem_singleton.mpr hforward
  outside := List.forall_mem_singleton.mpr hfree
  apart := List.pairwise_singleton _ _

lemma workedMinutes_startAfterBreaks (hbreaks : WellFormed breaks)
    (h : startAfterBreaks split breaks = .ok resumes) :
    split.minutes ≤ resumes.minutes ∧
      workedMinutes breaks split.minutes resumes.minutes = 0 := by
  obtain ⟨t, ht, -, hminutes, hle⟩ := startAfterBreaks_eq_ok split breaks
  obtain rfl : resumes = t := Except.ok.inj (h.symm.trans ht)
  obtain ⟨finish, hfinish, hends⟩ := endsAt_finishMinutes (separated_join hbreaks.ordered)
    (ordered_join hbreaks.ordered) split.minutes 0
  have heq : resumes.minutes = finish := by
    have hcast : (resumes.minutes : ℤ) = finish := hminutes.trans hfinish
    exact_mod_cast hcast
  refine ⟨hle, ?_⟩
  rw [workedMinutes_eq_merged, heq]
  exact hends.count

/-- **The two parts of a split entry** meet in order; the first holds the ordinary hours, and the
second the rest of the minutes worked. -/
lemma drawn_split (hbreaks : WellFormed breaks) (hfree : Free breaks s.minutes)
    (hordinary : 1 / 100 ≤ ordinary) (hends : finishInTheDay s ordinary breaks = .ok (some split))
    (hresumes : startAfterBreaks split breaks = .ok resumes)
    (hmore : wholeMinutes ordinary < workedMinutes breaks s.minutes f.minutes) :
    Drawn breaks s f [⟨s, split⟩, ⟨resumes, f⟩] ∧
      (workedMinutes breaks s.minutes split.minutes : ℤ) = wholeMinutes ordinary ∧
      workedMinutes breaks s.minutes split.minutes +
        workedMinutes breaks resumes.minutes f.minutes =
          workedMinutes breaks s.minutes f.minutes := by
  obtain ⟨hwhole, hworked⟩ := worked_of_finishInTheDay hordinary hbreaks hends
  obtain ⟨hle, hnone⟩ := workedMinutes_startAfterBreaks hbreaks hresumes
  obtain ⟨t, ht, hwhole', hfree', -⟩ := startAfterBreaks_free split hbreaks
  obtain rfl : resumes = t := Except.ok.inj (hresumes.symm.trans ht)
  have hsplit : s.minutes ≤ split.minutes :=
    le_finishInTheDay (show (0 : ℚ) ≤ ordinary by linarith) hends
  have hjoint : workedMinutes breaks s.minutes resumes.minutes =
      workedMinutes breaks s.minutes split.minutes := by
    unfold workedMinutes at *
    rw [freeCount_append hsplit hle, hnone, Nat.add_zero]
  -- were the entry over when work resumes, it would hold no more than the ordinary hours
  have hlt : resumes.minutes < f.minutes := by
    by_contra hover
    have hmono : workedMinutes breaks s.minutes f.minutes ≤
        workedMinutes breaks s.minutes resumes.minutes := freeCount_mono (by omega)
    omega
  refine ⟨⟨rfl, rfl, ?_, ?_, ?_⟩, hworked, ?_⟩
  · exact List.forall_mem_cons.mpr ⟨lt_finishInTheDay hordinary hends,
      List.forall_mem_singleton.mpr (lt_of_minutes_lt hlt)⟩
  · exact List.forall_mem_cons.mpr ⟨hfree, List.forall_mem_singleton.mpr hfree'⟩
  · refine List.pairwise_pair.mpr ?_
    show split.sinceMidnight ≤ resumes.sinceMidnight
    unfold TimeOfDay.sinceMidnight
    rw [hwhole, hwhole']
    omega
  · rw [← hjoint]
    exact (freeCount_append (hsplit.trans hle) hlt.le).symm

end Split

/-! ## The parts of an entry -/

section Parts

variable {db : Timesheets} {owner : Staff} {job : WorkJob} {managedBy : Option CostLineOwner}
  {data timed : WorkshopEntryCreateData} {lines : EntryLines} {overtime : ℚ} {breaks : List Window}
  {s f : TimeOfDay}

/-- The window a part is drawn at. -/
def WorkshopEntryCreateData.window (part : WorkshopEntryCreateData) : Option Window := do
  let start ← part.startTime
  let finish ← part.endTime
  pure ⟨start, finish⟩

def HoldsMinutes (breaks : List Window) (hours : ℚ) (w : Window) : Prop :=
  |(workedMinutes breaks w.start.minutes w.finish.minutes : ℚ) - 60 * hours| < 1

structure CarriesParts (db : Timesheets) (owner : Staff) (data timed : WorkshopEntryCreateData)
    (overtime : ℚ) (parts : List WorkshopEntryCreateData) : Prop where
  /-- The ordinary hours at the entered rate and the rest at overtime; a part of none is not saved. -/
  rates : parts.map (fun part => (part.hours, part.wageRateMultiplier)) =
    [(data.hours - overtime, data.wageRateMultiplier), (overtime, overtimeMultiplier)].filter
      (·.1 ≠ 0)
  quarter : parts.length = 1 ∨ ∀ part ∈ parts, 1 / 4 ≤ part.hours
  /-- A part that is split off has its own times, where the entry has. -/
  drawn : ∀ s f breaks, timed.startTime = some s → timed.endTime = some f →
    db.dayBreakWindows owner.id data.accountingDate = .ok breaks → WellFormed breaks →
    (standardDay db.company data.accountingDate ≠ none →
      db.clockChangeMinutes data.accountingDate s f ≤ 0) →
    Fitted (db.clockChangeMinutes data.accountingDate) data breaks s f →
    ∃ windows, parts.map WorkshopEntryCreateData.window = windows.map some ∧
      Drawn breaks s f windows ∧
      ((workedMinutes breaks s.minutes f.minutes : ℤ) = wholeMinutes data.hours →
        List.Forall₂ (fun part w => HoldsMinutes breaks part.hours w) parts windows)

lemma carriesParts_whole {part : WorkshopEntryCreateData} (hpos : 0 < data.hours)
    (hrates : (overtime = 0 ∧ part.wageRateMultiplier = data.wageRateMultiplier) ∨
      (overtime = data.hours ∧ part.wageRateMultiplier = overtimeMultiplier))
    (hhours : part.hours = data.hours) (hstart : part.startTime = timed.startTime)
    (hfinish : part.endTime = timed.endTime) : CarriesParts db owner data timed overtime [part] where
  rates := by
    rcases hrates with ⟨rfl, hrate⟩ | ⟨rfl, hrate⟩
    · simp [hhours, hrate, hpos.ne']
    · simp [hhours, hrate, hpos.ne']
  quarter := .inl rfl
  drawn s f breaks hs hf _ _ _ hfitted := by
    refine ⟨[⟨s, f⟩], ?_, drawn_singleton hfitted.forward hfitted.outside, fun hexact => ?_⟩
    · unfold WorkshopEntryCreateData.window
      rw [List.map_singleton, hstart, hfinish, hs, hf]
      rfl
    · refine .cons ?_ .nil
      obtain ⟨hlow, hhigh⟩ := wholeMinutes_near hpos.le
      have hcast : (workedMinutes breaks s.minutes f.minutes : ℚ) = wholeMinutes data.hours := by
        exact_mod_cast hexact
      show |(workedMinutes breaks s.minutes f.minutes : ℚ) - 60 * part.hours| < 1
      rw [hcast, hhours, abs_lt]
      constructor <;> linarith

lemma standardDay_of_overtimePart {day : ℤ} {hours wage : ℚ} {id : ℕ}
    (h : overtimePart db owner day hours wage id = .ok overtime) (hsome : overtime ≠ 0) :
    wage = defaultMultiplier ∧ standardDay db.company day ≠ none := by
  unfold overtimePart at h
  split at h
  · exact absurd (Except.ok.inj h).symm hsome
  rename_i hordinary
  refine ⟨not_not.mp fun hwage => hordinary (.inl hwage), fun hnone => hsome ?_⟩
  simp only [bind_eq_ok, pure_eq_ok] at h
  obtain ⟨past, hpast, rfl⟩ := h
  unfold overtimeHours at hpast
  rw [hnone] at hpast
  obtain rfl := Except.ok.inj hpast
  simp [splitOff]

lemma carriesParts_split {ordinary late : WorkshopEntryCreateData} {entry : WorkshopEntryCreateData}
    (hentry : entry.startTime = timed.startTime ∧ entry.endTime = timed.endTime ∧
      entry.hours = data.hours ∧ entry.accountingDate = data.accountingDate ∧
      entry.wageRateMultiplier = data.wageRateMultiplier)
    (hquarter : 1 / 4 ≤ overtime ∧ overtime ≤ data.hours - 1 / 4)
    (hstandard : standardDay db.company data.accountingDate ≠ none)
    (hsplit : splitAtOvertime db owner entry overtime = .ok (ordinary, late)) :
    CarriesParts db owner data timed overtime [ordinary, late] := by
  obtain ⟨hstart, hfinish, hhours, hdate, hwage⟩ := hentry
  obtain ⟨hlow, hhigh⟩ := hquarter
  have hordinary : data.hours - overtime ≠ 0 := by linarith
  have hlate : overtime ≠ 0 := by linarith
  have hquarters : 1 / 4 ≤ entry.hours - overtime := by
    rw [hhours]
    linarith
  rcases splitAtOvertime_eq_ok hsplit with
    ⟨s, f, breaks, split, resumes, hs, hf, hbreaks, hends, hresumes, rfl, rfl⟩ | ⟨hnot, rfl, rfl⟩
  · refine ⟨?_, .inr ?_, ?_⟩
    · simp [atOvertime, hhours, hwage, hordinary, hlate]
    · exact List.forall_mem_cons.mpr ⟨hquarters, List.forall_mem_singleton.mpr hlow⟩
    · intro s' f' breaks' hs' hf' hbreaks' hwell hclock hfitted
      obtain rfl : s = s' := Option.some.inj ((hs.symm.trans hstart).trans hs')
      obtain rfl : f = f' := Option.some.inj ((hf.symm.trans hfinish).trans hf')
      obtain rfl : breaks = breaks' :=
        Except.ok.inj ((hdate ▸ hbreaks).symm.trans hbreaks')
      rw [hhours] at hends
      have hmore := hfitted.lt_worked hwell (show 0 ≤ data.hours - overtime by linarith)
        (by linarith) (hclock hstandard)
      obtain ⟨hdrawn, hfirst, hsum⟩ :=
        drawn_split hwell hfitted.outside (by linarith) hends hresumes hmore
      refine ⟨_, ?_, hdrawn, fun hexact => .cons ?_ (.cons ?_ .nil)⟩
      · unfold WorkshopEntryCreateData.window atOvertime
        simp only [List.map_cons, List.map_nil, hs, hf]
        rfl
      all_goals
        obtain ⟨hlow, hhigh⟩ := wholeMinutes_near (show 0 ≤ data.hours - overtime by linarith)
        obtain ⟨hlow', hhigh'⟩ := wholeMinutes_near (show 0 ≤ data.hours by linarith)
        have hcast : (workedMinutes breaks s.minutes split.minutes : ℚ) =
            wholeMinutes (data.hours - overtime) := by exact_mod_cast hfirst
      · show |(workedMinutes breaks s.minutes split.minutes : ℚ) -
          60 * (entry.hours - overtime)| < 1
        rw [hcast, hhours, abs_lt]
        constructor <;> linarith
      · -- the rest holds what rounding the whole and the first leaves
        have hcast' : (workedMinutes breaks s.minutes f.minutes : ℚ) =
            wholeMinutes data.hours := by exact_mod_cast hexact
        have hrest : (workedMinutes breaks s.minutes split.minutes : ℚ) +
            workedMinutes breaks resumes.minutes f.minutes =
              workedMinutes breaks s.minutes f.minutes := by exact_mod_cast hsum
        show |(workedMinutes breaks resumes.minutes f.minutes : ℚ) - 60 * overtime| < 1
        rw [abs_lt]
        constructor <;> linarith
  · refine ⟨?_, .inr ?_, fun s f _ hs hf => ?_⟩
    · simp [atOvertime, hhours, hwage, hordinary, hlate]
    · exact List.forall_mem_cons.mpr ⟨hquarters, List.forall_mem_singleton.mpr hlow⟩
    · exact (hnot s f (hstart.trans hs) (hfinish.trans hf)).elim

/-- **The parts of an accepted entry** carry it. -/
lemma carriesParts_of_entryLines (hhours : refuseBadHours data.hours = .ok ())
    (h : entryLines db owner job managedBy data = .ok lines) :
    ∃ timed overtime, withTimes db owner managedBy data = .ok timed ∧
      overtimePart db owner data.accountingDate data.hours data.wageRateMultiplier job.id =
        .ok overtime ∧ timed.hours = data.hours ∧ Joins db owner timed lines.parts ∧
      CarriesParts db owner data timed overtime lines.parts := by
  obtain ⟨timed, overtime, htimed, -, hovertime, hlines⟩ := entryLines_eq_ok h
  have hpos : 0 < data.hours := pos_of_refuseBadHours hhours
  have heq := eq_of_withTimes htimed
  have hsame : timed.hours = data.hours ∧ timed.accountingDate = data.accountingDate ∧
      timed.wageRateMultiplier = data.wageRateMultiplier := by
    rw [heq]
    exact ⟨rfl, rfl, rfl⟩
  obtain ⟨hsameHours, hsameDate, hsameWage⟩ := hsame
  rw [hsameHours, hsameDate, hsameWage] at hovertime
  obtain ⟨hstart, hfinish, hcharged, hdate⟩ := times_chargedUrgent job timed
  have hrate : (chargedUrgent job timed).wageRateMultiplier = timed.wageRateMultiplier := by
    unfold chargedUrgent
    split <;> rfl
  obtain ⟨hjoins, -⟩ := joins_of_entryLines (hsameHours ▸ hpos.le) htimed h
  refine ⟨timed, overtime, htimed, hovertime, hsameHours, hjoins, ?_⟩
  rcases hlines with ⟨hnone, hparts⟩ | ⟨-, hall, hparts⟩ |
    ⟨ordinary, late, hsome, hpart, hsplit, hparts⟩
  · rw [hparts]
    exact carriesParts_whole hpos (.inl ⟨hnone, hrate.trans hsameWage⟩) (hcharged.trans hsameHours)
      hstart hfinish
  · rw [hparts]
    exact carriesParts_whole hpos (.inr ⟨hall.trans (hcharged.trans hsameHours), rfl⟩)
      (hcharged.trans hsameHours) hstart hfinish
  · rw [hparts]
    have hnotAll : overtime ≠ data.hours := fun hall =>
      hpart (hall.trans (hcharged.trans hsameHours).symm)
    have hquarter : 1 / 4 ≤ overtime ∧ overtime ≤ data.hours - 1 / 4 :=
      ((overtimePart_cases hpos.le hovertime).resolve_left hsome).resolve_left hnotAll
    exact carriesParts_split ⟨hstart, hfinish, hcharged.trans hsameHours, hdate.trans hsameDate,
      hrate.trans hsameWage⟩ hquarter (standardDay_of_overtimePart hovertime hsome).2 hsplit

end Parts

/-! ## The lines stored -/

section Stored

variable {db db' : Timesheets} {owner : Staff} {job : WorkJob} {data timed : WorkshopEntryCreateData}
  {source : Option EntrySource} {managedBy : Option CostLineOwner} {line : TimeLine}
  {parts : List WorkshopEntryCreateData} {stored : List TimeLine}

/-- The lines a call added, but for the General work rebuilt after them. -/
def entryStored (source : Option EntrySource) (db db' : Timesheets) : List TimeLine :=
  db'.lines.rows.filter fun line => line ∉ db.lines.rows ∧
    (source = some .sweptGeneralWork ∨ isGeneralWorkFill db.company line = false)

lemma AddsLines.entryStored (h : AddsLines db db' stored)
    (hkept : ∀ line ∈ stored, source = some .sweptGeneralWork ∨
      isGeneralWorkFill db.company line = false) : entryStored source db db' = stored := by
  unfold Timesheet.entryStored
  rw [h.rows, List.filter_append, List.filter_eq_nil_iff.mpr, List.nil_append, List.filter_eq_self]
  · exact fun line hline => decide_eq_true ⟨h.not_mem line hline, hkept line hline⟩
  · exact fun line hline hnew => (of_decide_eq_true hnew).1 hline

/-- **Making an entry** stores its parts, whoever manages it and whatever made it. -/
lemma run_createEntry_stored
    (h : (createEntry owner data source managedBy).run db = .ok (line, db')) :
    ∃ job lines, db.findJob data.job = .ok job ∧ refuseBadHours data.hours = .ok () ∧
      entryLines db owner job managedBy data = .ok lines ∧
      List.Forall₂ (Stores db owner job source managedBy) lines.parts (entryStored source db db') := by
  unfold createEntry at h
  simp only [run_bind, run_when, run_pure] at h
  obtain ⟨_, mid, hbook, _, last, hrefill, rfl, hlast⟩ := h
  rw [hlast] at hrefill
  obtain ⟨job, lines, added, hjob, hhours, hlines, hadds, hstores⟩ := run_bookEntry hbook
  refine ⟨job, lines, hjob, hhours, hlines, ?_⟩
  have hkept : ∀ line ∈ added, source = some .sweptGeneralWork ∨
      isGeneralWorkFill db.company line = false := by
    intro line hline
    obtain ⟨part, -, hstored⟩ := exists_part_of_stores hstores hline
    obtain ⟨-, -, -, -, -, hsource, -, -⟩ := hstored.columns
    by_cases hswept : source = some .sweptGeneralWork
    · exact .inl hswept
    · refine .inr ?_
      unfold isGeneralWorkFill
      simp [hsource, hswept]
  have hmid := hadds.entryStored hkept
  rcases hrefill with ⟨hnot, made, _, hrefill, -, rfl⟩ | ⟨-, -, rfl⟩
  · -- the rebuild leaves every line that is no fill
    obtain ⟨-, hentries⟩ := run_refill_filter
      (q := fun line => line ∉ db.lines.rows ∧
        (source = some .sweptGeneralWork ∨ isGeneralWorkFill db.company line = false))
      (fun _ _ line hfill => by
        rw [hadds.books.company] at hfill
        simp [hfill, hnot]) hrefill
    have hlast : entryStored source db _ = entryStored source db mid := hentries
    rw [hlast, hmid]
    exact hstores
  · rw [hmid]
    exact hstores

lemma map_of_stores {γ : Type} {g : WorkshopEntryCreateData → γ} {g' : TimeLine → γ}
    (h : List.Forall₂ (Stores db owner job source managedBy) parts stored)
    (hcolumn : ∀ part line, Stores db owner job source managedBy part line → g' line = g part) :
    stored.map g' = parts.map g := by
  induction h with
  | nil => rfl
  | cons hstored _ ih => rw [List.map_cons, List.map_cons, hcolumn _ _ hstored, ih]

/-- A job whose time is paid through an earnings rate, and not as leave. -/
def PaidByRate (db : Timesheets) (job : WorkJob) : Prop :=
  leavePayItem db job = none ∧
    ∀ leave ∈ db.leaveTypes.rows, leave.job = some job.id → leave.postingSurface ≠ .xeroComputed

lemma usesLeaveApi_of_getByMultiplier {multiplier : ℚ} {item : PayItem}
    (h : getByMultiplier db multiplier = some item) : item.usesLeaveApi = false := by
  have hrate : ∀ item ∈ db.payItems.rows.filter (fun item =>
      !item.usesLeaveApi && item.multiplier = some multiplier), item.usesLeaveApi = false := by
    intro item hitem
    have hboth := List.of_mem_filter hitem
    simp only [Bool.and_eq_true, Bool.not_eq_true'] at hboth
    exact hboth.1
  unfold getByMultiplier at h
  simp only [Option.or_eq_some_iff] at h
  apply hrate
  rcases h with h | ⟨-, h | ⟨-, h⟩⟩
  · split at h
    · exact List.mem_of_find?_eq_some h
    · split at h
      · exact List.mem_of_find?_eq_some h
      · cases h
  · exact List.mem_of_find?_eq_some h
  · exact List.mem_of_head? h

lemma Stores.rate {part : WorkshopEntryCreateData}
    (h : Stores db owner job source managedBy part line) (hhourly : owner.payBasis ≠ some .salary)
    (hpaid : PaidByRate db job) :
    line.payload.wageRateMultiplier = normalizeMultiplier part.wageRateMultiplier := by
  obtain ⟨mid, hbooks, hline⟩ := h
  obtain ⟨pricing, hprice, rfl, -⟩ := pricedEntryLine_eq_ok hline
  obtain ⟨hitem, hcomputed⟩ := hpaid
  have hsameItem : leavePayItem mid job = none := by
    rw [hbooks]
    exact hitem
  have hnone : (mid.leaveTypes.rows.any fun leave =>
      leave.job = some job.id && leave.postingSurface = .xeroComputed) = false := by
    rw [hbooks, List.any_eq_false]
    intro leave hleave hboth
    simp only [Bool.and_eq_true, decide_eq_true_eq] at hboth
    exact hcomputed leave hleave hboth.1 hboth.2
  unfold priceTimeEntry at hprice
  rw [if_neg hhourly] at hprice
  simp only [bind_eq_ok, pure_eq_ok] at hprice
  obtain ⟨term, -, subtype, -, wageRate, -, item, hresolved, ⟨wage, bill⟩, hrates, charge, -, rfl⟩ :=
    hprice
  rw [if_neg fun hsalary => hhourly hsalary.1] at hresolved hrates
  unfold resolveXeroPayItemForJob at hresolved
  rw [hnone, if_neg Bool.false_ne_true, hsameItem] at hresolved
  simp only [map_eq_ok] at hresolved
  obtain ⟨found, hfound, rfl⟩ := hresolved
  unfold resolveXeroPayItem at hfound
  split at hfound
  · rename_i rate hrate
    obtain rfl := Except.ok.inj hfound
    simp only [entryMultipliers] at hrates
    split at hrates
    · cases hrates
    · rw [usesLeaveApi_of_getByMultiplier hrate, if_neg Bool.false_ne_true] at hrates
      exact (congrArg Prod.fst (Except.ok.inj hrates)).symm
  · cases hfound

structure CarriesEntry (db : Timesheets) (owner : Staff) (job : WorkJob)
    (data timed : WorkshopEntryCreateData) (overtime : ℚ) (stored : List TimeLine) : Prop where
  /-- The ordinary hours, then the rest; a part of none is not stored. -/
  hours : stored.map TimeLine.quantity = [data.hours - overtime, overtime].filter (· ≠ 0)
  total : (stored.map TimeLine.quantity).sum = data.hours
  quarter : stored.length = 1 ∨ ∀ line ∈ stored, 1 / 4 ≤ line.quantity
  rates : owner.payBasis ≠ some .salary → PaidByRate db job →
    stored.map (fun line => (line.quantity, line.payload.wageRateMultiplier)) =
      [(data.hours - overtime, normalizeMultiplier data.wageRateMultiplier),
        (overtime, overtimeMultiplier)].filter (·.1 ≠ 0)
  start : (stored.head?.bind fun line => line.payload.startTime) = timed.startTime
  finish : (stored.getLast?.bind fun line => line.payload.endTime) = timed.endTime
  untimed : timed.startTime = none → timed.endTime = none →
    ∀ line ∈ stored, line.payload.startTime = none ∧ line.payload.endTime = none
  /-- Off the Break job, round breaks that run forward, the times are fitted to the hours and the
  lines drawn one after the other; where the times hold just the hours, each line's hold its own. -/
  drawn : some data.job ≠ db.company.breakJob →
    (∀ breaks, db.dayBreakWindows owner.id data.accountingDate = .ok breaks →
      ∀ w ∈ breaks, w.start < w.finish) →
    (standardDay db.company data.accountingDate ≠ none →
      ∀ s f, db.clockChangeMinutes data.accountingDate s f ≤ 0) →
    ∀ s f, timed.startTime = some s → timed.endTime = some f → ∃ breaks windows,
      db.dayBreakWindows owner.id data.accountingDate = .ok breaks ∧
      Fitted (db.clockChangeMinutes data.accountingDate) data breaks s f ∧
      stored.map lineWindow = windows.map some ∧ Drawn breaks s f windows ∧
      (data.endTime ≠ some f ∨
          (workedMinutes breaks s.minutes f.minutes : ℤ) = wholeMinutes data.hours →
        List.Forall₂ (fun line w => HoldsMinutes breaks line.quantity w) stored windows)

lemma forall₂_of_map_eq {α β γ : Type} {g : α → γ} {g' : β → γ} {r : γ → Window → Prop}
    {l : List α} {l' : List β} {windows : List Window} (h : l'.map g' = l.map g)
    (hall : List.Forall₂ (fun a w => r (g a) w) l windows) :
    List.Forall₂ (fun b w => r (g' b) w) l' windows := by
  rw [← List.forall₂_map_left_iff (R := r)] at hall ⊢
  rwa [h]

/-- **An accepted entry is stored as it was entered.**  Its one or two lines carry its hours, the
ordinary part at its rate and the rest at overtime, and no part is under a quarter hour; they run from
its start to its finish, one after the other, each with the minutes of its hours unless the entry kept
a later finish it was given. -/
theorem createEntry_carries_entry
    (hrun : (createEntry owner data source managedBy).run db = .ok (line, db')) :
    ∃ job timed overtime, db.findJob data.job = .ok job ∧
      withTimes db owner managedBy data = .ok timed ∧
      overtimePart db owner data.accountingDate data.hours data.wageRateMultiplier data.job =
        .ok overtime ∧
      CarriesEntry db owner job data timed overtime (entryStored source db db') := by
  obtain ⟨job, lines, hjob, hhours, hlines, hstores⟩ := run_createEntry_stored hrun
  obtain ⟨timed, overtime, htimed, hovertime, hsame, hjoins, hcarries⟩ :=
    carriesParts_of_entryLines hhours hlines
  rw [findJob_eq_ok hjob] at hovertime
  have hquantity : (entryStored source db db').map TimeLine.quantity =
      lines.parts.map fun part => part.hours :=
    map_of_stores hstores fun _ _ h => h.columns.2.2.2.1
  have hstarts : (entryStored source db db').map (fun line => line.payload.startTime) =
      lines.parts.map fun part => part.startTime :=
    map_of_stores hstores fun _ _ h => h.columns.2.2.2.2.2.2.1
  have hfinishes : (entryStored source db db').map (fun line => line.payload.endTime) =
      lines.parts.map fun part => part.endTime :=
    map_of_stores hstores fun _ _ h => h.columns.2.2.2.2.2.2.2
  have hsplit : lines.parts.map (fun part => part.hours) =
      [data.hours - overtime, overtime].filter (· ≠ 0) := by
    have hfst := congrArg (List.map Prod.fst) hcarries.rates
    rw [List.map_map] at hfst
    exact hfst.trans (List.filter_map (f := Prod.fst) (p := fun hours : ℚ => hours ≠ 0)
      (l := [(data.hours - overtime, data.wageRateMultiplier), (overtime, overtimeMultiplier)])).symm
  refine ⟨job, timed, overtime, hjob, htimed, hovertime, hquantity.trans hsplit, ?_, ?_, ?_, ?_, ?_,
    ?_, ?_⟩
  · rw [hquantity, hjoins.hours, hsame]
  · rcases hcarries.quarter with hone | hquarter
    · exact .inl (hstores.length_eq.symm.trans hone)
    · refine .inr fun stored hstored => ?_
      obtain ⟨part, hpart, hof⟩ := exists_part_of_stores hstores hstored
      rw [hof.columns.2.2.2.1]
      exact hquarter part hpart
  · intro hhourly hpaid
    have hmap : (entryStored source db db').map
        (fun line => (line.quantity, line.payload.wageRateMultiplier)) =
          lines.parts.map fun part => (part.hours, normalizeMultiplier part.wageRateMultiplier) :=
      map_of_stores hstores fun _ _ h => Prod.ext h.columns.2.2.2.1 (h.rate hhourly hpaid)
    have hnormal := congrArg (List.map fun rate : ℚ × ℚ => (rate.1, normalizeMultiplier rate.2))
      hcarries.rates
    rw [List.map_map] at hnormal
    have hhalf : normalizeMultiplier overtimeMultiplier = overtimeMultiplier := by decide +kernel
    rw [← hhalf]
    exact hmap.trans (hnormal.trans (List.filter_map
      (f := fun rate : ℚ × ℚ => (rate.1, normalizeMultiplier rate.2))
      (p := fun rate : ℚ × ℚ => rate.1 ≠ 0)
      (l := [(data.hours - overtime, data.wageRateMultiplier), (overtime, overtimeMultiplier)])).symm)
  · rw [head?_bind_map, hstarts, ← head?_bind_map, hjoins.start]
  · rw [getLast?_bind_map, hfinishes, ← getLast?_bind_map, hjoins.finish]
  · intro hs hf stored hstored
    obtain ⟨part, hpart, hof⟩ := exists_part_of_stores hstores hstored
    obtain ⟨-, -, -, -, -, -, hstart, hfinish⟩ := hof.columns
    obtain ⟨hnone, hnone'⟩ := hjoins.untimed hs hf part hpart
    exact ⟨hstart.trans hnone, hfinish.trans hnone'⟩
  · intro hjobOff hbreaks hclocks s f hs hf
    obtain ⟨breaks, hin, hwell, hfitted⟩ := fitted_of_withTimes hbreaks hhours hjobOff htimed hs hf
    obtain ⟨windows, hwindows, hdrawn, hexact⟩ := hcarries.drawn s f breaks hs hf hin hwell
      (fun hstandard => hclocks hstandard s f) hfitted
    have hparts : (entryStored source db db').map lineWindow =
        lines.parts.map WorkshopEntryCreateData.window := by
      refine map_of_stores hstores fun part stored h => ?_
      obtain ⟨-, -, -, -, -, -, hstart, hfinish⟩ := h.columns
      unfold lineWindow WorkshopEntryCreateData.window
      rw [hstart, hfinish]
    refine ⟨breaks, windows, hin, hfitted, hparts.trans hwindows, hdrawn, fun hholds => ?_⟩
    have hworked : (workedMinutes breaks s.minutes f.minutes : ℤ) = wholeMinutes data.hours := by
      rcases hholds with hmoved | hworked
      · rcases hfitted.ends with hends | ⟨hgiven, -⟩
        · exact (worked_of_finishInTheDay (hundredth_of_refuseBadHours hhours) hwell hends).2
        · exact absurd hgiven hmoved
      · exact hworked
    exact forall₂_of_map_eq (r := HoldsMinutes breaks) hquantity (hexact hworked)

/-- Ten hours on the handrail, without times. -/
def longEntry : WorkshopEntryCreateData := { job := 3, accountingDate := 0, hours := 10 }

/-- The fitter's Monday before the clock-in. -/
def unclockedDay : Timesheets := { fittersDay clockedDay .empty with attendance := .empty }

/-- Ten hours round the standard breaks: eight at the ordinary rate to four, then two at overtime. -/
theorem createEntry_carries_entry_ten_hours :
    ∃ line db', (createEntry fitter longEntry none none).run unclockedDay = .ok (line, db') ∧
      (entryStored none unclockedDay db').map
        (fun line => (line.quantity, line.payload.wageRateMultiplier)) = [(8, 1), (2, 3 / 2)] ∧
      ∃ windows : List Window, (entryStored none unclockedDay db').map lineWindow = windows.map some ∧
        windows.Pairwise fun w v => w.finish ≤ v.start := by
  obtain ⟨line, db', hrun, -⟩ := exists_of_endsIn (x := createEntry fitter longEntry none none)
    (s := unclockedDay) (p := fun _ _ => true) (by decide +kernel)
  obtain ⟨job, timed, overtime, hjob, htimed, hovertime, hcarries⟩ := createEntry_carries_entry hrun
  have hin : unclockedDay.dayBreakWindows fitter.id longEntry.accountingDate =
      .ok [⟨clock 8 30 (by decide), clock 8 45 (by decide)⟩,
        ⟨clock 11 30 (by decide), clock 12 0 (by decide)⟩,
        ⟨clock 13 30 (by decide), clock 13 45 (by decide)⟩] := by decide +kernel
  have hplaced : withTimes unclockedDay fitter none longEntry = .ok { longEntry with
      startTime := some (clock 7 0 (by decide)), endTime := some (clock 18 0 (by decide)) } := by
    decide +kernel
  have htwo : overtimePart unclockedDay fitter longEntry.accountingDate longEntry.hours
      longEntry.wageRateMultiplier longEntry.job = .ok 2 := by decide +kernel
  have hhandrail : unclockedDay.findJob longEntry.job =
      .ok ⟨3, "Handrail", false, false, false, some 1⟩ := by decide +kernel
  obtain rfl := Except.ok.inj (hplaced.symm.trans htimed)
  obtain rfl : (2 : ℚ) = overtime := Except.ok.inj (htwo.symm.trans hovertime)
  obtain rfl := Except.ok.inj (hhandrail.symm.trans hjob)
  obtain ⟨_, windows, -, -, hwindows, hdrawn, -⟩ := hcarries.drawn (by decide) (fun breaks hbreaks => by
    obtain rfl := Except.ok.inj (hin.symm.trans hbreaks)
    decide) (fun _ _ _ => le_rfl) _ _ rfl rfl
  refine ⟨line, db', hrun, ?_, windows, hwindows, hdrawn.apart⟩
  rw [hcarries.rates (by decide) ⟨by decide +kernel, by decide +kernel⟩]
  decide +kernel

/-- Two hours on the handrail, drawn from eight to noon. -/
def wideEntry : WorkshopEntryCreateData :=
  { job := 3, accountingDate := 0, hours := 2,
    startTime := some (clock 8 0 eight_oclock), endTime := some (clock 12 0 noon) }

/-- **A later finish is kept**: two hours drawn from eight to noon are stored so, with four hours of
minutes. -/
theorem later_finish_is_stored :
    ¬∀ (db db' : Timesheets) (owner : Staff) (data : WorkshopEntryCreateData) (line : TimeLine),
      (createEntry owner data none none).run db = .ok (line, db') →
      ∀ breaks, db.dayBreakWindows owner.id data.accountingDate = .ok breaks →
        ∀ stored ∈ entryStored none db db', ∀ w, lineWindow stored = some w →
          HoldsMinutes breaks stored.quantity w := by
  intro h
  obtain ⟨line, db', hrun, htest⟩ := exists_of_endsIn (x := createEntry fitter wideEntry none none)
    (s := fittersDay clockedDay .empty)
    (p := fun _ db' => decide (∃ stored ∈ entryStored none (fittersDay clockedDay .empty) db',
      lineWindow stored = some ⟨clock 8 0 (by decide), clock 12 0 (by decide)⟩ ∧
        stored.quantity = 2)) (by decide +kernel)
  obtain ⟨stored, hstored, hwindow, htwo⟩ := of_decide_eq_true htest
  have hholds := h _ _ _ _ _ hrun [] (by decide +kernel) stored hstored _ hwindow
  rw [htwo] at hholds
  exact absurd hholds (by unfold HoldsMinutes; decide +kernel)

end Stored

end Timesheet

end Docketworks
