import Docketworks.Payroll.LeaveSettled

/-!
# What leave Xero holds once it is reconciled

Record by record, the leave of a reconciled week is what the timesheet asks for.

* `keyIn`, `heldKeys` — the type, dates and units of a record inside the week, and of all of an employee's.
* `Legible` — a record the reconcile can read, which does not span the week's ends.
* `heldKeys_foldl` — the changes leave one record of each key that is asked for.
* `reconciled_leave_is_what_was_asked` — the reconcile, what it leaves alone, and running it again.

**Design.**  A count of the records of one key is a total over the records as their hours are, so the
counts come of the sums of the changes.  A request without positive hours is refused by
`_leave_payload`, after what was changed before it.
-/

namespace Docketworks

open Library Library.Remote

namespace Payroll

/-! ## Keys -/

/-- The key a record is matched by; none where it cannot be read. -/
def DatedLeave.key (week : WeekWindow) (dated : DatedLeave) : Option LeaveKey :=
  dated.leave.leaveTypeId.bind fun leaveTypeId =>
    (unitsWithinWeek dated.leave week).toOption.map fun units =>
      leaveKey leaveTypeId dated.start dated.finish units

/-- A record inside the week, with its dates. -/
def datedIn (week : WeekWindow) (row : EmployeeLeave) : Option DatedLeave :=
  (readDates row).toOption.filter fun dated =>
    0 < sharedDays dated.start dated.finish week.start week.finish && dated.containedIn week

/-- The key of an employee's record inside the week. -/
def keyIn (week : WeekWindow) (employee : ℕ) (row : EmployeeLeave) : Option LeaveKey :=
  if row.employee = employee then (datedIn week row).bind (DatedLeave.key week) else none

/-- The type, dates and units of the leave held of an employee inside the week. -/
def heldKeys (week : WeekWindow) (employee : ℕ) (leave : Register EmployeeLeave.leaveId) :
    List LeaveKey :=
  leave.rows.filterMap (keyIn week employee)

/-- The record's dates can be read, and if it shares a day with the week it is inside it, with a type and
with units in it. -/
def Legible (week : WeekWindow) (row : EmployeeLeave) : Prop :=
  ∃ dated, readDates row = .ok dated ∧
    (0 < sharedDays dated.start dated.finish week.start week.finish →
      dated.containedIn week = true ∧ (dated.key week).isSome)

section Keys

variable {week : WeekWindow} {employee : ℕ} {leave : Register EmployeeLeave.leaveId}
  {row : EmployeeLeave} {leaves : List EmployeeLeave} {held : WeekLeave} {dated : DatedLeave}
  {key : LeaveKey}

lemma key_eq_some : dated.key week = some key ↔ ∃ leaveTypeId units,
    dated.leave.leaveTypeId = some leaveTypeId ∧ unitsWithinWeek dated.leave week = .ok units ∧
      leaveKey leaveTypeId dated.start dated.finish units = key := by
  unfold DatedLeave.key
  rcases dated.leave.leaveTypeId with _ | leaveTypeId
  · simp
  · rcases unitsWithinWeek dated.leave week with e | units <;> simp [Except.toOption]

lemma leave_datedIn (h : datedIn week row = some dated) : dated.leave = row := by
  obtain ⟨hdated, -⟩ := Option.filter_eq_some_iff.mp h
  rcases hread : readDates row with e | read
  · rw [hread] at hdated
    cases hdated
  · rw [hread] at hdated
    exact Option.some.inj hdated ▸ leave_readDates hread

lemma contained_eq (h : sortLeave leaves week = .ok held) :
    held.contained = leaves.filterMap (datedIn week) := by
  unfold sortLeave at h
  obtain ⟨dated, hdated, hheld⟩ := bind_eq_ok.mp h
  rw [← pure_eq_ok.mp hheld]
  have hread := mapM_eq_ok.mp hdated
  clear h hheld hdated
  induction hread with
  | nil => rfl
  | @cons row first rows rest hrow _ ih =>
      have hin : datedIn week row = if 0 < sharedDays first.start first.finish week.start week.finish &&
          first.containedIn week then some first else none := by
        unfold datedIn
        rw [hrow]
        exact Option.filter_some
      simp only [List.filter_cons, List.filterMap_cons, hin] at ih ⊢
      by_cases hshared : 0 < sharedDays first.start first.finish week.start week.finish
      · rcases hcontained : first.containedIn week with _ | _
        · simpa [hshared, hcontained] using ih
        · simpa [hshared, hcontained] using ih
      · simpa [hshared] using ih

lemma filterMap_keyIn (rows : List EmployeeLeave) : rows.filterMap (keyIn week employee) =
    ((rows.filter fun row => row.employee = employee).filterMap (datedIn week)).filterMap
      (DatedLeave.key week) := by
  rw [List.filterMap_filterMap, List.filterMap_filter]
  refine List.filterMap_congr fun row _ => ?_
  unfold keyIn
  simp only [decide_eq_true_eq]

lemma heldKeys_eq (hheld : sortLeave (heldBy employee leave) week = .ok held) :
    heldKeys week employee leave = held.contained.filterMap (DatedLeave.key week) := by
  rw [contained_eq hheld]
  exact filterMap_keyIn leave.rows

lemma sortLeave_of_legible (h : ∀ row ∈ leaves, Legible week row) :
    ∃ held, sortLeave leaves week = .ok held ∧ held.spanning = [] ∧
      ∀ dated ∈ held.contained, (dated.key week).isSome := by
  obtain ⟨dated, hdated, hall⟩ : ∃ dated, leaves.mapM readDates = .ok dated ∧ ∀ one ∈ dated,
      0 < sharedDays one.start one.finish week.start week.finish →
        one.containedIn week = true ∧ (one.key week).isSome := by
    induction leaves with
    | nil => exact ⟨[], rfl, nofun⟩
    | cons row leaves ih =>
        obtain ⟨hfirst, hrest⟩ := List.forall_mem_cons.mp h
        obtain ⟨first, hread, hlegible⟩ := hfirst
        obtain ⟨dated, hdated, hall⟩ := ih hrest
        refine ⟨first :: dated, mapM_eq_ok.mpr (.cons hread (mapM_eq_ok.mp hdated)), ?_⟩
        exact List.forall_mem_cons.mpr ⟨hlegible, hall⟩
  refine ⟨_, bind_eq_ok.mpr ⟨dated, hdated, rfl⟩, ?_, ?_⟩
  · refine List.filter_eq_nil_iff.mpr fun one hone => ?_
    obtain ⟨hmem, hshared⟩ := List.mem_filter.mp hone
    rw [(hall one hmem (of_decide_eq_true hshared)).1]
    decide
  · intro one hone
    obtain ⟨hmem, hshared⟩ := List.mem_filter.mp (List.mem_of_mem_filter hone)
    exact (hall one hmem (of_decide_eq_true hshared)).2

lemma record_of_payload {spec : LeaveRequestSpec} {payload : LeavePayload} {id : ℕ}
    (h : leavePayload spec week = .ok payload) :
    Legible week (payload.record employee id) ∧
      keyIn week employee (payload.record employee id) = some spec.key := by
  obtain ⟨hread, hshared, ⟨hstart, hfinish⟩, htype, hunits⟩ := @read_record week employee spec payload id h
  have hcontained : DatedLeave.containedIn
      ⟨payload.record employee id, spec.startDate, spec.endDate⟩ week = true := by
    simp [DatedLeave.containedIn, hstart, hfinish]
  have hkey : DatedLeave.key week ⟨payload.record employee id, spec.startDate, spec.endDate⟩ =
      some spec.key := by
    refine key_eq_some.mpr ⟨payload.leaveTypeId, quantize spec.totalUnits, rfl, hunits, ?_⟩
    rw [htype]
    exact congr_arg (LeaveKey.mk _ _ _) (quantize_quantize _)
  refine ⟨⟨_, hread, fun _ => ⟨hcontained, hkey ▸ rfl⟩⟩, ?_⟩
  unfold keyIn datedIn
  rw [if_pos (show (payload.record employee id).employee = employee from rfl), hread]
  show (Option.filter _ (some _)).bind _ = _
  rw [Option.filter_some, if_pos (Bool.and_eq_true_iff.mpr ⟨decide_eq_true hshared, hcontained⟩)]
  exact hkey

end Keys

/-! ## Counting the records of a key -/

def ofKey (week : WeekWindow) (employee : ℕ) (key : LeaveKey) (row : EmployeeLeave) : ℤ :=
  if keyIn week employee row = some key then 1 else 0

def asksKey (key : LeaveKey) (spec : LeaveRequestSpec) : ℤ := if spec.key = key then 1 else 0

section Counting

variable {week : WeekWindow} {employee : ℕ} {leave : Register EmployeeLeave.leaveId} {key : LeaveKey}
  {held : WeekLeave} {specs desired : List LeaveRequestSpec} {stale : List DatedLeave}
  {changes : List LeaveChange}

lemma sum_ofKey (rows : List EmployeeLeave) :
    (rows.map (ofKey week employee key)).sum = ((rows.filterMap (keyIn week employee)).count key : ℤ) := by
  induction rows with
  | nil => rfl
  | cons row rows ih =>
      rw [List.map_cons, List.sum_cons, ih, List.filterMap_cons]
      unfold ofKey
      rcases hrow : keyIn week employee row with _ | k
      · simp
      · by_cases hk : k = key
        · subst hk
          simp [List.count_cons_self, add_comm]
        · simp [hk, List.count_cons_of_ne hk]

lemma sum_heldKeys : leave.sum (ofKey week employee key) = ((heldKeys week employee leave).count key : ℤ) :=
  sum_ofKey leave.rows

lemma sum_asksKey (specs : List LeaveRequestSpec) :
    (specs.map (asksKey key)).sum = ((specs.map LeaveRequestSpec.key).count key : ℤ) := by
  induction specs with
  | nil => rfl
  | cons spec specs ih =>
      rw [List.map_cons, List.sum_cons, ih, List.map_cons, List.count_cons]
      unfold asksKey
      by_cases hk : spec.key = key <;> simp [hk, add_comm]

lemma keyIn_contained (hheld : sortLeave (heldBy employee leave) week = .ok held) {dated : DatedLeave}
    (hdated : dated ∈ held.contained) : keyIn week employee dated.leave = dated.key week := by
  rw [contained_eq hheld] at hdated
  obtain ⟨row, hrow, hin⟩ := List.mem_filterMap.mp hdated
  obtain rfl := leave_datedIn hin
  unfold keyIn
  rw [if_pos (mem_heldBy.mp hrow).2, hin]
  rfl

lemma agrees_ofKey (hheld : sortLeave (heldBy employee leave) week = .ok held) :
    ∀ dated ∈ held.contained, Agrees week (asksKey key) (ofKey week employee key) dated := by
  intro dated hdated spec leaveTypeId units htype hunits hkey
  unfold asksKey ofKey
  rw [keyIn_contained hheld hdated, key_eq_some.mpr ⟨leaveTypeId, units, htype, hunits, rfl⟩, hkey]
  simp only [Option.some_inj]

/-- **The changes** that are due leave one record of each key asked for. -/
lemma heldKeys_foldl (hheld : sortLeave (heldBy employee leave) week = .ok held)
    (hmatch : matchHeld week specs held.contained = .ok (desired, stale))
    (habout : ∀ change ∈ changesFor stale desired, change.IsAbout employee leave)
    (hapart : Apart (changesFor stale desired))
    (hpayload : ∀ stage ∈ (changesFor stale desired).flatMap (LeaveChange.stages week employee),
      stage ≠ .check false) :
    (heldKeys week employee
      ((changesFor stale desired).foldl (LeaveChange.after week employee) leave)).Perm
        (specs.map LeaveRequestSpec.key) := by
  refine List.perm_iff_count.mpr fun key => ?_
  have hrecorded : Recorded week employee (asksKey key) (ofKey week employee key) := by
    intro spec payload id hpayload
    unfold ofKey asksKey
    rw [(record_of_payload hpayload).2]
    simp only [Option.some_inj]
  have hsum := sum_foldl hrecorded habout hapart hpayload
  rw [sum_dueChanges (agrees_ofKey hheld) hmatch] at hsum
  have hbefore : leave.sum (ofKey week employee key) =
      (held.contained.map fun dated => ofKey week employee key dated.leave).sum := by
    have hcontained : (held.contained.map fun dated => ofKey week employee key dated.leave).sum =
        (((held.contained.map DatedLeave.leave).filterMap (keyIn week employee)).count key : ℤ) := by
      rw [← sum_ofKey, List.map_map]
      rfl
    rw [sum_heldKeys, hcontained, heldKeys_eq hheld, List.filterMap_map]
    refine congr_arg (fun keys : List LeaveKey => ((keys.count key : ℕ) : ℤ)) ?_
    exact (List.filterMap_congr fun dated hdated => keyIn_contained hheld hdated).symm
  rw [hbefore] at hsum
  have hafter : ((heldKeys week employee
      ((changesFor stale desired).foldl (LeaveChange.after week employee) leave)).count key : ℤ) =
        ((specs.map LeaveRequestSpec.key).count key : ℤ) := by
    rw [← sum_asksKey, ← sum_heldKeys]
    exact hsum.trans (by abel)
  exact_mod_cast hafter

end Counting

/-! ## What is left alone -/

section LeftAlone

variable {week : WeekWindow} {employee : ℕ} {leave : Register EmployeeLeave.leaveId} {key : LeaveKey}
  {row : EmployeeLeave} {held : WeekLeave} {specs desired desired' : List LeaveRequestSpec}
  {stale stale' contained : List DatedLeave} {dated : DatedLeave} {changes : List LeaveChange}
  {leaves : List EmployeeLeave} {lines : List PayLine}

lemma matchOne_key (h : matchOne week (desired, stale) dated = .ok (desired', stale')) :
    ∃ key, dated.key week = some key ∧ desired'.map LeaveRequestSpec.key =
      (desired.map LeaveRequestSpec.key).erase key ∧
        stale' = if key ∈ desired.map LeaveRequestSpec.key then stale else stale ++ [dated] := by
  unfold matchOne at h
  split at h
  · cases h
  rename_i leaveTypeId htype
  obtain ⟨units, hunits, h⟩ := bind_eq_ok.mp h
  refine ⟨_, key_eq_some.mpr ⟨leaveTypeId, units, htype, hunits, rfl⟩, ?_⟩
  simp only at h
  generalize leaveKey leaveTypeId dated.start dated.finish units = key at h ⊢
  have hany : (desired.any fun spec => spec.key = key) = true ↔ key ∈ desired.map LeaveRequestSpec.key := by
    simp [List.mem_map]
  split at h <;> rename_i hasked
  · obtain ⟨rfl, rfl⟩ := Prod.mk.inj (pure_eq_ok.mp h)
    refine ⟨?_, (if_pos (hany.mp hasked)).symm⟩
    rw [List.erase_eq_eraseP, List.eraseP_map]
    refine congr_arg (fun p => (desired.eraseP p).map LeaveRequestSpec.key) (funext fun spec => ?_)
    exact decide_eq_decide.mpr eq_comm
  · obtain ⟨rfl, rfl⟩ := Prod.mk.inj (pure_eq_ok.mp h)
    rw [hany] at hasked
    exact ⟨(List.erase_of_not_mem hasked).symm, (if_neg hasked).symm⟩

lemma foldlM_matchOne_of_perm (hlegible : ∀ dated ∈ contained, (dated.key week).isSome)
    (hkeys : (contained.filterMap (DatedLeave.key week)).Perm (desired.map LeaveRequestSpec.key)) :
    contained.foldlM (matchOne week) (desired, stale) = .ok ([], stale) := by
  induction contained generalizing desired with
  | nil =>
      rw [List.filterMap_nil] at hkeys
      rw [List.map_eq_nil_iff.mp hkeys.symm.eq_nil]
      rfl
  | cons dated contained ih =>
      obtain ⟨hfirst, hrest⟩ := List.forall_mem_cons.mp hlegible
      obtain ⟨key, hkey⟩ := Option.isSome_iff_exists.mp hfirst
      rw [List.filterMap_cons_some hkey] at hkeys
      have hasked : key ∈ desired.map LeaveRequestSpec.key := hkeys.subset List.mem_cons_self
      obtain ⟨leaveTypeId, units, htype, hunits, hmade⟩ := key_eq_some.mp hkey
      have hone : ∃ left, matchOne week (desired, stale) dated = .ok (left, stale) := by
        have hany : (desired.any fun spec => spec.key = key) = true := by
          obtain ⟨spec, hspec, hk⟩ := List.mem_map.mp hasked
          exact List.any_eq_true.mpr ⟨spec, hspec, decide_eq_true hk⟩
        refine ⟨desired.eraseP fun spec => spec.key = key, ?_⟩
        unfold matchOne
        rw [htype]
        simp only [hunits, ok_bind, hmade, hany, if_true]
        rfl
      obtain ⟨left, hone⟩ := hone
      rw [List.foldlM_cons, hone, ok_bind]
      obtain ⟨key', hkey', herase, -⟩ := matchOne_key hone
      obtain rfl := Option.some.inj (hkey'.symm.trans hkey)
      refine ih hrest ?_
      rw [herase]
      exact (List.cons_perm_iff_perm_erase.mp hkeys).2

lemma not_stale_of_first {before after : List DatedLeave}
    (h : (before ++ dated :: after).foldlM (matchOne week) (desired, []) = .ok (desired', stale'))
    (hkey : dated.key week = some key) (hasked : key ∈ desired.map LeaveRequestSpec.key)
    (hfirst : key ∉ before.filterMap (DatedLeave.key week)) (hnodup : (before ++ dated :: after).Nodup) :
    dated ∉ stale' := by
  rw [List.foldlM_append] at h
  obtain ⟨⟨left, now⟩, hbefore, hrest⟩ := bind_eq_ok.mp h
  have hleft : key ∈ left.map LeaveRequestSpec.key := by
    clear h hrest hnodup
    generalize ([] : List DatedLeave) = stale at hbefore
    induction before generalizing desired stale with
    | nil => exact (Prod.mk.inj (pure_eq_ok.mp hbefore)).1 ▸ hasked
    | cons one before ih =>
        rw [List.foldlM_cons] at hbefore
        obtain ⟨⟨next, then'⟩, hone, hrest⟩ := bind_eq_ok.mp hbefore
        obtain ⟨k, hk, herase, -⟩ := matchOne_key hone
        rw [List.filterMap_cons_some hk, List.mem_cons, not_or] at hfirst
        refine ih ?_ hfirst.2 _ hrest
        rw [herase]
        exact (List.mem_erase_of_ne hfirst.1).mpr hasked
  rw [List.foldlM_cons] at hrest
  obtain ⟨⟨next, then'⟩, hone, hafter⟩ := bind_eq_ok.mp hrest
  obtain ⟨k, hk, -, hthen⟩ := matchOne_key hone
  obtain rfl := Option.some.inj (hk.symm.trans hkey)
  rw [if_pos hleft] at hthen
  subst hthen
  obtain ⟨kept, rfl, hkept⟩ := stale_of_foldlM hafter
  obtain ⟨early, hearly, hsub⟩ := stale_of_foldlM hbefore
  rw [List.nil_append] at hearly
  subst hearly
  rw [List.nodup_append'] at hnodup
  obtain ⟨-, hrest, hdisjoint⟩ := hnodup
  intro hmem
  rcases List.mem_append.mp hmem with hin | hin
  · exact hdisjoint (hsub.subset hin) List.mem_cons_self
  · exact (List.nodup_cons.mp hrest).1 (hkept.subset hin)

lemma mem_foldl_after (hrow : row ∈ leave.rows)
    (hne : ∀ change ∈ changes, ∀ target ∈ change.target, target.leaveId ≠ row.leaveId) :
    row ∈ (changes.foldl (LeaveChange.after week employee) leave).rows := by
  induction changes generalizing leave with
  | nil => exact hrow
  | cons change changes ih =>
      obtain ⟨hfirst, hrest⟩ := List.forall_mem_cons.mp hne
      exact ih (mem_after hrow hfirst) hrest

lemma of_mem_foldl_after (hrow : row ∈ (changes.foldl (LeaveChange.after week employee) leave).rows) :
    row ∈ leave.rows ∨ ∃ spec payload whose id, leavePayload spec week = .ok payload ∧
      row = payload.record whose id := by
  induction changes generalizing leave with
  | nil => exact .inl hrow
  | cons change changes ih =>
      obtain hmem | hmade := ih hrow
      · rcases change with ⟨target, spec⟩ | target | spec
        · rcases hspec : leavePayload spec week with e | payload
          · rw [after_update_refused hspec] at hmem
            exact .inl hmem
          · rw [after_update hspec, Register.mem_update (LeavePayload.leaveId_record payload)] at hmem
            obtain ⟨hold, -⟩ | ⟨old, -, -, rfl⟩ := hmem
            exacts [.inl hold, .inr ⟨spec, payload, _, _, hspec, rfl⟩]
        · exact .inl (List.mem_of_mem_filter hmem)
        · rcases hspec : leavePayload spec week with e | payload
          · rw [after_create_refused hspec] at hmem
            exact .inl hmem
          · rw [after_create hspec] at hmem
            obtain hold | hnew := List.mem_append.mp hmem
            exacts [.inl hold, .inr ⟨spec, payload, _, _, hspec, List.mem_singleton.mp hnew⟩]
      · exact .inr hmade

lemma eq_of_leave_eq (hheld : sortLeave leaves week = .ok held) {other : DatedLeave}
    (hdated : dated ∈ held.contained) (hother : other ∈ held.contained) (h : dated.leave = other.leave) :
    dated = other := by
  rw [contained_eq hheld] at hdated hother
  obtain ⟨row, -, hrow⟩ := List.mem_filterMap.mp hdated
  obtain ⟨row', -, hrow'⟩ := List.mem_filterMap.mp hother
  obtain rfl := (leave_datedIn hrow).symm.trans (h.trans (leave_datedIn hrow'))
  exact Option.some.inj (hrow.symm.trans hrow')

end LeftAlone

/-! ## What is asked for can be sent -/

section Sent

variable {week : WeekWindow} {spec : LeaveRequestSpec} {specs desired desired' : List LeaveRequestSpec}
  {lines : List PayLine} {stale stale' contained : List DatedLeave}

lemma mem_contiguousSpans {spanStart spanEnd : ℤ} {days : List ℤ} {span : ℤ × ℤ} {inside : ℤ → Prop}
    (hstart : inside spanStart) (hend : inside spanEnd) (hle : spanStart ≤ spanEnd)
    (hdays : ∀ day ∈ days, inside day) (h : span ∈ contiguousSpans spanStart spanEnd days) :
    inside span.1 ∧ inside span.2 ∧ span.1 ≤ span.2 := by
  induction days generalizing spanStart spanEnd with
  | nil =>
      obtain rfl := List.mem_singleton.mp h
      exact ⟨hstart, hend, hle⟩
  | cons day days ih =>
      obtain ⟨hday, hdays⟩ := List.forall_mem_cons.mp hdays
      unfold contiguousSpans at h
      split at h
      · exact ih hstart hday (by omega) hdays h
      · obtain rfl | h := List.mem_cons.mp h
        · exact ⟨hstart, hend, hle⟩
        · exact ih hday hday le_rfl hdays h

lemma mem_foldl_tally {lines : List ItemLine} {totals : List (ℤ × ℚ)} {day : ℤ}
    (h : day ∈ (lines.foldl (fun totals line =>
      tally line.1.accountingDate line.1.quantity totals) totals).map Prod.fst) :
    day ∈ totals.map Prod.fst ∨ ∃ line ∈ lines, line.1.accountingDate = day := by
  induction lines generalizing totals with
  | nil => exact .inl h
  | cons line lines ih =>
      obtain h | ⟨other, hother, hday⟩ := ih h
      · rw [map_fst_tally] at h
        split at h
        · exact .inl h
        · obtain h | h := List.mem_append.mp h
          exacts [.inl h, .inr ⟨line, List.mem_cons_self, (List.mem_singleton.mp h).symm⟩]
      · exact .inr ⟨other, List.mem_cons_of_mem _ hother, hday⟩

lemma inside_of_mem_requests (hspecs : buildLeaveRequests lines = .ok specs)
    (hdates : ∀ line ∈ lines, week.start ≤ line.accountingDate ∧ line.accountingDate ≤ week.finish)
    (hspec : spec ∈ specs) :
    spec.startDate ≤ spec.endDate ∧ week.start ≤ spec.startDate ∧ spec.endDate ≤ week.finish := by
  unfold buildLeaveRequests at hspecs
  obtain ⟨items, hitems, hmade⟩ := bind_eq_ok.mp hspecs
  rw [← pure_eq_ok.mp hmade] at hspec
  have hinside : ∀ item ∈ items, week.start ≤ item.1.accountingDate ∧
      item.1.accountingDate ≤ week.finish := by
    have hread := mapM_eq_ok.mp hitems
    clear hspec hmade hitems hspecs
    induction hread with
    | nil => exact List.forall_mem_nil _
    | cons hline _ ih =>
        obtain ⟨hfirst, hrest⟩ := List.forall_mem_cons.mp hdates
        obtain ⟨item, -, rfl⟩ := map_eq_ok.mp hline
        exact List.forall_mem_cons.mpr ⟨hfirst, ih hrest⟩
  obtain ⟨name, -, hspec⟩ := List.mem_flatMap.mp hspec
  unfold requestsOf at hspec
  simp only at hspec
  split at hspec
  · cases hspec
  rename_i first days hsorted
  obtain ⟨span, hspan, rfl⟩ := List.mem_map.mp hspec
  have hdays : ∀ day ∈ first :: days, week.start ≤ day ∧ day ≤ week.finish := by
    intro day hday
    rw [← hsorted, (List.perm_insertionSort _ _).mem_iff] at hday
    obtain hnone | ⟨item, hitem, rfl⟩ := mem_foldl_tally hday
    · cases hnone
    · exact hinside item (List.mem_of_mem_filter hitem)
  obtain ⟨hfirst, hrest⟩ := List.forall_mem_cons.mp hdays
  obtain ⟨hstart, hend, hle⟩ := mem_contiguousSpans hfirst hfirst le_rfl hrest hspan
  exact ⟨hle, hstart.1, hend.2⟩

lemma isOk_leavePayload (hinside : spec.startDate ≤ spec.endDate ∧ week.start ≤ spec.startDate ∧
    spec.endDate ≤ week.finish) (hpositive : 0 < spec.totalUnits) :
    (leavePayload spec week).isOk = true := by
  unfold leavePayload
  rw [if_neg (not_lt.mpr hinside.1), if_neg (not_not.mpr hinside.2), if_neg (not_le.mpr hpositive)]
  rfl

lemma mem_of_foldlM (h : contained.foldlM (matchOne week) (desired, stale) = .ok (desired', stale'))
    (hspec : spec ∈ desired') : spec ∈ desired := by
  induction contained generalizing desired stale with
  | nil => exact (Prod.mk.inj (pure_eq_ok.mp h)).1 ▸ hspec
  | cons dated contained ih =>
      rw [List.foldlM_cons] at h
      obtain ⟨⟨left, now⟩, hone, hrest⟩ := bind_eq_ok.mp h
      have hleft : spec ∈ left := ih hrest
      unfold matchOne at hone
      split at hone
      · cases hone
      obtain ⟨units, -, hone⟩ := bind_eq_ok.mp hone
      simp only at hone
      split at hone
      · obtain ⟨rfl, -⟩ := Prod.mk.inj (pure_eq_ok.mp hone)
        exact List.mem_of_mem_eraseP hleft
      · exact (Prod.mk.inj (pure_eq_ok.mp hone)).1 ▸ hleft

lemma stages_changesFor (employee : ℕ) (stale : List DatedLeave)
    (hsent : ∀ spec ∈ desired, (leavePayload spec week).isOk = true) :
    ∀ stage ∈ (changesFor stale desired).flatMap (LeaveChange.stages week employee),
      stage ≠ .check false := by
  induction stale generalizing desired with
  | nil =>
      intro stage hstage
      obtain ⟨change, hchange, hstage⟩ := List.mem_flatMap.mp hstage
      obtain ⟨spec, hspec, rfl⟩ := List.mem_map.mp hchange
      simp only [LeaveChange.stages, hsent spec hspec, List.mem_cons, List.not_mem_nil, or_false] at hstage
      rcases hstage with rfl | rfl <;> simp
  | cons dated stale ih =>
      unfold changesFor
      split
      · rename_i replacement hbest
        rw [List.flatMap_cons]
        refine fun stage hstage => (List.mem_append.mp hstage).elim (fun hstage => ?_)
          (ih (fun spec hspec => hsent spec (List.mem_of_mem_erase hspec)) stage)
        simp only [LeaveChange.stages, hsent _ (bestOverlap_mem hbest), List.mem_cons, List.not_mem_nil,
          or_false] at hstage
        rcases hstage with rfl | rfl <;> simp
      · rw [List.flatMap_cons]
        refine fun stage hstage => (List.mem_append.mp hstage).elim (fun hstage => ?_) (ih hsent stage)
        simp only [LeaveChange.stages, List.mem_singleton] at hstage
        subst hstage
        simp

end Sent

/-! ## The reconcile -/

section Reconciled

variable {net : Call → Fate PayrollError} {s : Posting} {employee : ℕ} {lines : List PayLine}
  {week : WeekWindow} {specs : List LeaveRequestSpec} {changes : List LeaveChange}

lemma run_reconcile_of_due (hnet : ∀ call, net call = .served)
    (hdue : dueChanges week s.xero.leave employee lines = .ok changes)
    (hsent : ∀ stage ∈ changes.flatMap (LeaveChange.stages week employee), stage ≠ .check false) :
    (reconcileLeaveForStaffWeek employee lines week).run net s =
      (.ok (), s.withLeave (changes.foldl (LeaveChange.after week employee) s.xero.leave)) := by
  have htakes : Takes net (reconcileLeaveForStaffWeek employee lines week)
      (s.withLeave s.xero.leave) _ _ := reconcileLeave_takes
  obtain ⟨-, htakes⟩ := htakes
  have hthrough : through net (.ask (.getEmployeeLeaves employee) ::
      changes.flatMap (LeaveChange.stages week employee)) = true := by
    refine List.all_eq_true.mpr fun stage hstage => ?_
    rcases stage with passes | call | call
    · rcases passes with _ | _
      · obtain h | h := List.mem_cons.mp hstage
        · cases h
        · exact absurd rfl (hsent _ h)
      · rfl
    · exact served_iff.mpr (hnet call)
    · exact served_iff.mpr (hnet call)
  rw [hdue] at htakes
  split at htakes
  · rename_i t hrun
    obtain ⟨-, other, hother, rfl⟩ := htakes
    obtain rfl := Except.ok.inj hother
    exact hrun
  · rw [hthrough] at htakes
    cases htakes

lemma exists_foldlM {contained : List DatedLeave} (state : List LeaveRequestSpec × List DatedLeave)
    (hlegible : ∀ dated ∈ contained, (dated.key week).isSome) :
    ∃ matched, contained.foldlM (matchOne week) state = .ok matched := by
  induction contained generalizing state with
  | nil => exact ⟨state, rfl⟩
  | cons dated contained ih =>
      obtain ⟨hfirst, hrest⟩ := List.forall_mem_cons.mp hlegible
      obtain ⟨key, hkey⟩ := Option.isSome_iff_exists.mp hfirst
      obtain ⟨leaveTypeId, units, htype, hunits, -⟩ := key_eq_some.mp hkey
      have hone : ∃ next, matchOne week state dated = .ok next := by
        unfold matchOne
        rw [htype]
        simp only [hunits, ok_bind]
        split <;> exact ⟨_, rfl⟩
      obtain ⟨next, hone⟩ := hone
      rw [List.foldlM_cons, hone]
      exact ih next hrest

lemma due_of_matched {leave : Register EmployeeLeave.leaveId} {held : WeekLeave}
    {desired : List LeaveRequestSpec} {stale : List DatedLeave}
    (hheld : sortLeave (heldBy employee leave) week = .ok held) (hspanning : held.spanning = [])
    (hspecs : buildLeaveRequests lines = .ok specs)
    (hmatch : matchHeld week specs held.contained = .ok (desired, stale)) :
    dueChanges week leave employee lines = .ok (changesFor stale desired) := by
  unfold dueChanges outlook refuseLeaveUnderSpanningApplications
  rw [show sortLeave (leave.rows.filter fun row => row.employee = employee) week = .ok held from hheld,
    ok_bind, hspecs, ok_bind, hspanning]
  have hnone : (specs.any fun spec => ([] : List DatedLeave).any fun dated =>
      decide (0 < sharedDays spec.startDate spec.endDate dated.start dated.finish)) = false := by
    simp
  simp only [hnone, Bool.false_eq_true, if_false, ok_bind, hmatch]
  rfl

/-- **The reconcile.**  With every call served, leave the reconcile can read and requests it can send, Xero
holds one record of each key asked for and no other inside the week; the first record held of a key asked
for is as it was; and running it again leaves everything as it is, down to the count of changes. -/
theorem reconciled_leave_is_what_was_asked (hnet : ∀ call, net call = .served)
    (hlegible : ∀ row ∈ heldBy employee s.xero.leave, Legible week row)
    (hdates : ∀ line ∈ lines, week.start ≤ line.accountingDate ∧ line.accountingDate ≤ week.finish)
    (hspecs : buildLeaveRequests lines = .ok specs) (hpositive : ∀ spec ∈ specs, 0 < spec.totalUnits) :
    ∃ s', (reconcileLeaveForStaffWeek employee lines week).run net s = (.ok (), s') ∧
      (heldKeys week employee s'.xero.leave).Perm (specs.map LeaveRequestSpec.key) ∧
      (∀ row ∈ heldBy employee s'.xero.leave, Legible week row) ∧
      (∀ before row after key, s.xero.leave.rows = before ++ row :: after →
        keyIn week employee row = some key → key ∈ specs.map LeaveRequestSpec.key →
          key ∉ before.filterMap (keyIn week employee) → row ∈ s'.xero.leave.rows) ∧
      (reconcileLeaveForStaffWeek employee lines week).run net s' = (.ok (), s') := by
  have hsent : ∀ spec ∈ specs, (leavePayload spec week).isOk = true := fun spec hspec =>
    isOk_leavePayload (inside_of_mem_requests hspecs hdates hspec) (hpositive spec hspec)
  obtain ⟨held, hheld, hspanning, hkeys⟩ := sortLeave_of_legible hlegible
  obtain ⟨⟨desired, stale⟩, hmatch⟩ := exists_foldlM (specs, []) hkeys
  have hdue := due_of_matched hheld hspanning hspecs hmatch
  have hstages := stages_changesFor employee stale fun spec hspec =>
    hsent spec (mem_of_foldlM hmatch hspec)
  obtain ⟨-, -, -, -, -, -, -, -, habout, hapart⟩ := dueChanges_eq_ok hdue
  have hperm := heldKeys_foldl hheld hmatch habout hapart hstages
  have hafter : ∀ row ∈ heldBy employee
      ((changesFor stale desired).foldl (LeaveChange.after week employee) s.xero.leave),
        Legible week row := by
    intro row hrow
    obtain ⟨hmem, hown⟩ := mem_heldBy.mp hrow
    obtain hold | ⟨spec, payload, whose, id, hpayload, rfl⟩ := of_mem_foldl_after hmem
    · exact hlegible row (mem_heldBy.mpr ⟨hold, hown⟩)
    · exact (record_of_payload hpayload).1
  refine ⟨_, run_reconcile_of_due hnet hdue hstages, hperm, hafter, ?_, ?_⟩
  · intro before row after key hrows hkey hasked hfirst
    have hrow : row ∈ s.xero.leave.rows := hrows ▸ List.mem_append_right _ List.mem_cons_self
    -- the row is the first record held of its key, so it is matched
    obtain ⟨dated, hdated, hkey, hown⟩ : ∃ dated, datedIn week row = some dated ∧
        dated.key week = some key ∧ row.employee = employee := by
      unfold keyIn at hkey
      split at hkey
      · rename_i hown
        obtain ⟨dated, hdated, hkey⟩ := Option.bind_eq_some_iff.mp hkey
        exact ⟨dated, hdated, hkey, hown⟩
      · cases hkey
    have hsplit : held.contained =
        (before.filter fun row => row.employee = employee).filterMap (datedIn week) ++ dated ::
          (after.filter fun row => row.employee = employee).filterMap (datedIn week) := by
      rw [contained_eq hheld]
      unfold heldBy
      rw [hrows, List.filter_append, List.filterMap_append, List.filter_cons_of_pos (by simpa using hown),
        List.filterMap_cons_some hdated]
    have hnodup : held.contained.Nodup := by
      refine List.Nodup.of_map DatedLeave.leave ?_
      exact (List.Nodup.of_map _ s.xero.leave.nodup).sublist
        ((@contained_of_sortLeave _ employee _ _ hheld).1.trans List.filter_sublist)
    have hstale : dated ∉ stale := by
      rw [hsplit] at hmatch hnodup
      refine not_stale_of_first hmatch hkey hasked ?_ hnodup
      rwa [← filterMap_keyIn]
    obtain ⟨kept, hkept, hsub⟩ := stale_of_foldlM hmatch
    rw [List.nil_append] at hkept
    subst hkept
    refine mem_foldl_after hrow fun change hchange target htarget hid => ?_
    have hmem : target ∈ stale.map DatedLeave.leave := by
      rw [← (@sum_changesFor desired stale ℤ _ (fun _ => 0) fun _ => 0).2]
      exact List.mem_filterMap.mpr ⟨change, hchange, htarget⟩
    obtain ⟨other, hother, rfl⟩ := List.mem_map.mp hmem
    have hleave : other.leave = row := Register.eq_of_key_eq (habout change hchange _ htarget).1 hrow hid
    have hin : dated ∈ held.contained := hsplit ▸ List.mem_append_right _ List.mem_cons_self
    exact hstale (eq_of_leave_eq hheld hin (hsub.subset hother)
      ((leave_datedIn hdated).trans hleave.symm) ▸ hother)
  · obtain ⟨held', hheld', hspanning', hkeys'⟩ := sortLeave_of_legible hafter
    rw [heldKeys_eq hheld'] at hperm
    have hmatch' : matchHeld week specs held'.contained = .ok ([], []) :=
      foldlM_matchOne_of_perm hkeys' hperm
    exact run_reconcile_of_due hnet (due_of_matched hheld' hspanning' hspecs hmatch') (List.forall_mem_nil _)

/-- An employee with a record of the right day and another of a day that was not taken. -/
def twoDaysHeld : Posting :=
  let tuesday : LeavePayload := ⟨"annual", "Annual Leave", 1, 1, (0, 6), 8⟩
  let monday : LeavePayload := ⟨"annual", "Annual Leave", 0, 0, (0, 6), 8⟩
  { newOrganisation with xero := { newOrganisation.xero with
      leave := (Register.empty.add fun id => tuesday.record 7 id).add fun id => monday.record 7 id } }

/-- Away on the Monday: its record stays, and the Tuesday's goes. -/
theorem reconciled_leave_is_what_was_asked_monday :
    ∃ s', (reconcileLeaveForStaffWeek 7 [away 1 1] firstWeek).run (fun _ => .served) twoDaysHeld =
        (.ok (), s') ∧
      (reconcileLeaveForStaffWeek 7 [away 1 1] firstWeek).run (fun _ => .served) s' = (.ok (), s') := by
  have hlegible : ∀ row ∈ heldBy 7 twoDaysHeld.xero.leave, Legible firstWeek row := by
    intro row hrow
    have hrows : heldBy 7 twoDaysHeld.xero.leave = twoDaysHeld.xero.leave.rows := by decide +kernel
    rw [hrows] at hrow
    obtain rfl | hrow := List.mem_cons.mp hrow
    · exact ⟨_, rfl, fun _ => by decide +kernel⟩
    · obtain rfl := List.mem_singleton.mp hrow
      exact ⟨_, rfl, fun _ => by decide +kernel⟩
  have hspecs : buildLeaveRequests [away 1 1] = .ok [⟨"annual", 0, 0, 8, "Annual Leave"⟩] := by
    decide +kernel
  obtain ⟨s', hrun, -, -, -, hagain⟩ := reconciled_leave_is_what_was_asked (fun _ => rfl) hlegible
    (by decide +kernel) hspecs (by decide +kernel)
  exact ⟨s', hrun, hagain⟩

/-- A day of leave and its correction ask for no hours; the request is refused, and no record is made. -/
theorem request_without_hours_is_refused :
    let correction : PayLine := { away 2 1 with quantity := -8, quantity_scale := by decide +kernel }
    let after := (reconcileLeaveForStaffWeek 7 [away 1 1, correction] firstWeek).run (fun _ => .served)
      newOrganisation
    after.1.isOk = false ∧ heldKeys firstWeek 7 after.2.xero.leave = [] ∧
      buildLeaveRequests [away 1 1, correction] = .ok [⟨"annual", 0, 0, 0, "Annual Leave"⟩] := by
  decide +kernel

end Reconciled

end Payroll

end Docketworks
