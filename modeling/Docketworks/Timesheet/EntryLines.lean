import Docketworks.Timesheet.GeneralWork

/-!
# What booking an entry does

The inversion of `bookEntry`: the lines it adds, and where its hours split.

* `SameBooks`, `AddsLines` — nothing but the time lines changes; some are added after the others.
* `run_bookEntry` — a booked entry is stored as its parts, each priced and checked.
* `splitOff_cases` — an entry is whole, or both its parts are a quarter hour at least.
* `entryLines_eq_ok`, `splitAtOvertime_eq_ok` — the parts an entry is saved as.
-/

namespace Docketworks

open Library Library.Transaction

namespace Timesheet

/-! ## Lines added -/

/-- Nothing but the time lines and the next key changes. -/
def SameBooks (db db' : Timesheets) : Prop :=
  db' = { db with lines := db'.lines, fresh := db'.fresh }

section Books

variable {db db' db'' : Timesheets}

lemma SameBooks.refl (db : Timesheets) : SameBooks db db := rfl

lemma SameBooks.trans (h : SameBooks db db') (h' : SameBooks db' db'') : SameBooks db db'' := by
  unfold SameBooks at *
  rw [h', h]

lemma sameBooks_lines (lines : Table TimeLine.id) (fresh : ℕ) :
    SameBooks db { db with lines := lines, fresh := fresh } := rfl

lemma SameBooks.company (h : SameBooks db db') : db'.company = db.company := by rw [h]

lemma SameBooks.dayRow (h : SameBooks db db') (staff : ℕ) (day : ℤ) :
    db'.dayRow staff day = db.dayRow staff day := by rw [h]; rfl

lemma SameBooks.generalWorkJobId (h : SameBooks db db') :
    generalWorkJobId db' = generalWorkJobId db := by rw [h]; rfl

/-- The lines `added` stand after the others, and nothing else changes. -/
structure AddsLines (db db' : Timesheets) (added : List TimeLine) : Prop where
  books : SameBooks db db'
  rows : db'.lines.rows = db.lines.rows ++ added

lemma AddsLines.refl (db : Timesheets) : AddsLines db db [] where
  books := .refl db
  rows := (List.append_nil _).symm

lemma AddsLines.trans {added added' : List TimeLine} (h : AddsLines db db' added)
    (h' : AddsLines db' db'' added') : AddsLines db db'' (added ++ added') where
  books := h.books.trans h'.books
  rows := by rw [h'.rows, h.rows, List.append_assoc]

lemma AddsLines.dayTimeLines {added : List TimeLine} (h : AddsLines db db' added) (staff : ℕ)
    (day : ℤ) : db'.dayTimeLines staff day = db.dayTimeLines staff day ++
      added.filter fun line => line.staff = staff && line.accountingDate = day := by
  unfold Timesheets.dayTimeLines
  rw [h.rows, List.filter_append]

lemma AddsLines.dayBreakWindows {added : List TimeLine} (h : AddsLines db db' added) (staff : ℕ)
    (day : ℤ) (hadded : ∀ line ∈ added, some line.job ≠ db.company.breakJob) :
    db'.dayBreakWindows staff day = db.dayBreakWindows staff day := by
  have hbreaks : (splitBreaks db.company (db'.dayTimeLines staff day)).2 =
      (splitBreaks db.company (db.dayTimeLines staff day)).2 := by
    unfold splitBreaks
    simp only
    rw [h.dayTimeLines, List.filter_append]
    refine List.append_right_eq_self.mpr (List.filter_eq_nil_iff.mpr fun line hline => ?_)
    simpa using hadded line (List.mem_of_mem_filter hline)
  unfold Timesheets.dayBreakWindows
  rw [h.books.company, h.books.dayRow, hbreaks]

end Books

/-! ## Saving a line -/

section Saving

variable {db db' : Timesheets} {owner : Staff} {job : WorkJob} {data : WorkshopEntryCreateData}
  {source : Option EntrySource} {managedBy : Option CostLineOwner} {line : TimeLine}

lemma run_insertLine {u : Unit} (h : (insertLine line).run db = .ok (u, db')) :
    AddsLines db db' [line] := by
  unfold insertLine at h
  simp only [run_bind, run_read, run_orRefuse, run_write] at h
  obtain ⟨_, _, ⟨rfl, rfl⟩, lines, _, ⟨hlines, rfl⟩, rfl⟩ := h
  exact ⟨sameBooks_lines _ _, Table.rows_insert? hlines⟩

lemma run_saveEntry (h : (saveEntry owner job data source managedBy).run db = .ok (line, db')) :
    pricedEntryLine db owner job data source managedBy = .ok line ∧ AddsLines db db' [line] := by
  unfold saveEntry at h
  simp only [run_bind, run_consult, run_pure] at h
  obtain ⟨_, _, ⟨hline, rfl⟩, _, _, hinsert, rfl, rfl⟩ := h
  exact ⟨hline, run_insertLine hinsert⟩

lemma pricedEntryLine_eq_ok
    (h : pricedEntryLine db owner job data source managedBy = .ok line) :
    ∃ pricing, priceTimeEntry db job owner (pricingMeta owner data source) data.labourSubtype =
        .ok pricing ∧
      line = entryLine db.fresh owner job data source managedBy pricing ∧
      saveValidated db line job = .ok () := by
  unfold pricedEntryLine at h
  simp only [bind_eq_ok, pure_eq_ok] at h
  obtain ⟨_, -, pricing, hpricing, _, hvalid, rfl⟩ := h
  exact ⟨pricing, hpricing, rfl, hvalid⟩

def EntryLines.parts : EntryLines → List WorkshopEntryCreateData
  | .whole data => [data]
  | .split ordinary late => [ordinary, late]

/-- The line stores the part, priced as the books stood. -/
def Stores (db : Timesheets) (owner : Staff) (job : WorkJob) (source : Option EntrySource)
    (managedBy : Option CostLineOwner) (part : WorkshopEntryCreateData) (line : TimeLine) : Prop :=
  ∃ db', SameBooks db db' ∧ pricedEntryLine db' owner job part source managedBy = .ok line

/-- **A booked entry** is stored as its parts, after the lines there were. -/
lemma run_bookEntry (h : (bookEntry owner data source managedBy).run db = .ok (line, db')) :
    ∃ job lines added, db.findJob data.job = .ok job ∧ refuseBadHours data.hours = .ok () ∧
      entryLines db owner job managedBy data = .ok lines ∧ AddsLines db db' added ∧
      List.Forall₂ (Stores db owner job source managedBy) lines.parts added := by
  unfold bookEntry theWorkJob at h
  simp only [run_bind, run_consult] at h
  obtain ⟨_, _, ⟨hhours, rfl⟩, job, _, ⟨hjob, rfl⟩, lines, _, ⟨hlines, rfl⟩, h⟩ := h
  rcases lines with part | ⟨ordinary, late⟩
  · obtain ⟨hline, hadds⟩ := run_saveEntry h
    exact ⟨job, _, [line], hjob, hhours, hlines, hadds, .cons ⟨_, .refl _, hline⟩ .nil⟩
  · simp only [run_bind, run_pure] at h
    obtain ⟨first, _, hfirst, second, _, hsecond, rfl, rfl⟩ := h
    obtain ⟨hline, hadds⟩ := run_saveEntry hfirst
    obtain ⟨hline', hadds'⟩ := run_saveEntry hsecond
    exact ⟨job, _, [first, second], hjob, hhours, hlines, hadds.trans hadds',
      .cons ⟨_, .refl _, hline⟩ (.cons ⟨_, hadds.books, hline'⟩ .nil)⟩

lemma Stores.columns {part : WorkshopEntryCreateData}
    (h : Stores db owner job source managedBy part line) :
    line.job = job.id ∧ line.staff = owner.id ∧ line.accountingDate = part.accountingDate ∧
      line.quantity = part.hours ∧ line.managedBy = managedBy ∧ line.payload.source = source ∧
      line.payload.startTime = part.startTime ∧ line.payload.endTime = part.endTime := by
  obtain ⟨_, -, hline⟩ := h
  obtain ⟨pricing, -, rfl, -⟩ := pricedEntryLine_eq_ok hline
  exact ⟨rfl, rfl, rfl, rfl, rfl, rfl, rfl, rfl⟩

lemma exists_part_of_stores {source : Option EntrySource} {managedBy : Option CostLineOwner}
    {parts : List WorkshopEntryCreateData} {added : List TimeLine} {line : TimeLine}
    (h : List.Forall₂ (Stores db owner job source managedBy) parts added) (hline : line ∈ added) :
    ∃ part ∈ parts, Stores db owner job source managedBy part line := by
  induction h with
  | nil => exact absurd hline List.not_mem_nil
  | @cons part _ _ _ hstore _ ih =>
      rcases List.mem_cons.mp hline with rfl | hline
      · exact ⟨part, List.mem_cons_self, hstore⟩
      · obtain ⟨part', hpart', hstore'⟩ := ih hline
        exact ⟨part', List.mem_cons_of_mem _ hpart', hstore'⟩

end Saving

/-! ## Where hours split -/

section Split

variable {hours overtime : ℚ}

lemma pos_of_refuseBadHours {u : Unit} (h : refuseBadHours hours = .ok u) : 0 < hours := by
  unfold refuseBadHours at h
  split at h
  · cases h
  · rename_i hgood
    exact lt_of_not_ge fun hle => hgood (.inl hle)

/-- **The split**: nothing, everything, or two parts of a quarter hour at least. -/
lemma splitOff_cases (h0 : 0 ≤ overtime) (hle : overtime ≤ hours) :
    splitOff hours overtime = 0 ∨ splitOff hours overtime = hours ∨
      (splitOff hours overtime = overtime ∧ 1 / 4 ≤ overtime ∧ overtime ≤ hours - 1 / 4) := by
  unfold splitOff smallestSplit
  simp only
  split
  · split
    · exact .inr (.inl rfl)
    · exact .inl rfl
  · rename_i hkept
    rcases h0.eq_or_lt with h | hpos
    · exact .inl h.symm
    rcases hle.eq_or_lt with h | hlt
    · exact .inr (.inl h)
    have hmin : 0 < min overtime (hours - overtime) := lt_min hpos (by linarith)
    have hquarter : 1 / 4 ≤ min overtime (hours - overtime) := by
      by_contra hsmall
      exact hkept ⟨hmin, lt_of_not_ge hsmall⟩
    obtain ⟨hfirst, hsecond⟩ := le_min_iff.mp hquarter
    exact .inr (.inr ⟨rfl, hfirst, by linarith⟩)

lemma overtimeHours_mem {db : Timesheets} {owner : Staff} {day : ℤ} {worked : ℚ}
    (hhours : 0 ≤ hours) (h : overtimeHours db owner day hours worked = .ok overtime) :
    0 ≤ overtime ∧ overtime ≤ hours := by
  unfold overtimeHours at h
  split at h
  · obtain rfl := Except.ok.inj h
    exact ⟨le_rfl, hhours⟩
  split at h
  · obtain rfl := Except.ok.inj h
    exact ⟨le_rfl, hhours⟩
  split at h
  · obtain rfl := Except.ok.inj h
    exact ⟨hhours, le_rfl⟩
  · simp only [bind_eq_ok, pure_eq_ok] at h
    obtain ⟨usual, -, rfl⟩ := h
    exact ⟨le_min hhours (le_max_right _ _), min_le_left _ _⟩

lemma overtimePart_cases {db : Timesheets} {owner : Staff} {day : ℤ} {wage : ℚ} {job : ℕ}
    (hhours : 0 ≤ hours) (h : overtimePart db owner day hours wage job = .ok overtime) :
    overtime = 0 ∨ overtime = hours ∨ (1 / 4 ≤ overtime ∧ overtime ≤ hours - 1 / 4) := by
  unfold overtimePart at h
  split at h
  · exact .inl (Except.ok.inj h).symm
  · simp only [bind_eq_ok, pure_eq_ok] at h
    obtain ⟨past, hpast, rfl⟩ := h
    obtain ⟨h0, hle⟩ := overtimeHours_mem hhours hpast
    rcases splitOff_cases h0 hle with h | h | ⟨h, hfirst, hsecond⟩
    · exact .inl h
    · exact .inr (.inl h)
    · exact .inr (.inr ⟨h.symm ▸ hfirst, h.symm ▸ hsecond⟩)

lemma overtimePart_break {db : Timesheets} {owner : Staff} {day : ℤ} {wage : ℚ} {job : ℕ}
    (hbreak : some job = db.company.breakJob)
    (h : overtimePart db owner day hours wage job = .ok overtime) : overtime = 0 := by
  unfold overtimePart at h
  rw [if_pos (.inr (.inl hbreak))] at h
  exact (Except.ok.inj h).symm

lemma eq_of_withTimes {db : Timesheets} {owner : Staff} {managedBy : Option CostLineOwner}
    {data timed : WorkshopEntryCreateData}
    (h : withTimes db owner managedBy data = .ok timed) :
    timed = { data with startTime := timed.startTime, endTime := timed.endTime } := by
  unfold withTimes placed at h
  split at h
  · split at h
    · simp only [bind_eq_ok] at h
      obtain ⟨_, -, _, -, finish, -, h⟩ := h
      rcases finish with _ | finish <;> (obtain rfl := Except.ok.inj h; rfl)
    · obtain rfl := Except.ok.inj h
      rfl
  · split at h
    · simp only [bind_eq_ok, pure_eq_ok] at h
      obtain ⟨_, -, _, -, rfl⟩ := h
      rfl
    · obtain rfl := Except.ok.inj h
      rfl

/-- **An entry's lines**: whole at its rate, whole at overtime, or split. -/
lemma entryLines_eq_ok {db : Timesheets} {owner : Staff} {job : WorkJob}
    {managedBy : Option CostLineOwner} {data : WorkshopEntryCreateData} {lines : EntryLines}
    (h : entryLines db owner job managedBy data = .ok lines) :
    ∃ timed overtime, withTimes db owner managedBy data = .ok timed ∧
      refuseOutsideEmployment owner timed.accountingDate = .ok () ∧
      overtimePart db owner timed.accountingDate timed.hours timed.wageRateMultiplier job.id =
        .ok overtime ∧
      ((overtime = 0 ∧ lines.parts = [chargedUrgent job timed]) ∨
        (overtime ≠ 0 ∧ overtime = (chargedUrgent job timed).hours ∧
          lines.parts = [atOvertime (chargedUrgent job timed)]) ∨
        ∃ ordinary late, overtime ≠ 0 ∧ overtime ≠ (chargedUrgent job timed).hours ∧
          splitAtOvertime db owner (chargedUrgent job timed) overtime = .ok (ordinary, late) ∧
          lines.parts = [ordinary, late]) := by
  unfold entryLines at h
  simp only [bind_eq_ok] at h
  obtain ⟨timed, htimed, _, hactive, overtime, hovertime, h⟩ := h
  refine ⟨timed, overtime, htimed, hactive, hovertime, ?_⟩
  split at h
  · rename_i hnone
    obtain rfl := Except.ok.inj h
    exact .inl ⟨hnone, rfl⟩
  rename_i hsome
  split at h
  · rename_i hall
    obtain rfl := Except.ok.inj h
    exact .inr (.inl ⟨hsome, hall, rfl⟩)
  · rename_i hpart
    simp only [bind_eq_ok, pure_eq_ok] at h
    obtain ⟨⟨ordinary, late⟩, hsplit, rfl⟩ := h
    exact .inr (.inr ⟨ordinary, late, hsome, hpart, hsplit, rfl⟩)

/-- **The two parts of an entry**: its hours, the second at overtime; with times, the first ends where
the ordinary hours do and the second resumes after the breaks. -/
lemma splitAtOvertime_eq_ok {db : Timesheets} {owner : Staff}
    {data ordinary late : WorkshopEntryCreateData}
    (h : splitAtOvertime db owner data overtime = .ok (ordinary, late)) :
    (∃ s f breaks split resumes, data.startTime = some s ∧ data.endTime = some f ∧
      db.dayBreakWindows owner.id data.accountingDate = .ok breaks ∧
      finishInTheDay s (data.hours - overtime) breaks = .ok (some split) ∧
      startAfterBreaks split breaks = .ok resumes ∧
      ordinary = { data with hours := data.hours - overtime, endTime := some split } ∧
      late = { atOvertime data with hours := overtime, startTime := some resumes }) ∨
    ((∀ s f, data.startTime = some s → data.endTime = some f → False) ∧
      ordinary = { data with hours := data.hours - overtime } ∧
      late = { atOvertime data with hours := overtime }) := by
  unfold splitAtOvertime at h
  simp only at h
  split at h
  · rename_i s f hs hf
    simp only [bind_eq_ok] at h
    obtain ⟨breaks, hbreaks, split, hends, h⟩ := h
    rcases split with _ | split
    · cases h
    simp only [bind_eq_ok, pure_eq_ok, Prod.mk.injEq] at h
    obtain ⟨resumes, hresumes, rfl, rfl⟩ := h
    exact .inl ⟨s, f, breaks, split, resumes, hs, hf, hbreaks, hends, hresumes, rfl, rfl⟩
  · rename_i hnot
    obtain ⟨rfl, rfl⟩ := Prod.mk.inj (Except.ok.inj h)
    exact .inr ⟨hnot, rfl, rfl⟩

end Split

end Timesheet

end Docketworks
