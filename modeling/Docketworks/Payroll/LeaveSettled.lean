import Docketworks.Library.Groups
import Docketworks.Payroll.Preflight

/-!
# What Xero pays for the leave of a week once it is reconciled

The hours of leave Xero pays an employee for a week are a sum over its leave records, and every change of
the reconcile moves the sum by what it adds and takes away.

* `sum_leaveRequests` — the requests of some lines ask for the hours of the lines.
* `weekUnits`, `paidLeave` — what a record, and what the organisation, pays an employee for a week.
* `sum_changesFor`, `sum_foldl` — the changes make up the difference between what is held and what is
  asked for, whatever is added up.
* `paidLeave_leaveAfter` — a person's own reconcile.
* `paidLeave_people` — the reconcile of everybody.
-/

namespace Docketworks

open Library Library.Remote

namespace Payroll

/-! ## Sums over parts -/

section Parts

variable {α κ : Type} [DecidableEq κ]

lemma countP_firsts {keys : List κ} {key : κ} (h : key ∈ keys) :
    (firsts keys).countP (fun first => key = first) = 1 := by
  have hcount := List.count_eq_one_of_mem (nodup_firsts keys) (mem_firsts.mpr h)
  rw [← hcount, List.count]
  refine List.countP_congr fun first _ => ?_
  rw [decide_eq_true_eq, beq_iff_eq]
  exact eq_comm

variable {key : κ} {units : ℚ} {totals : List (κ × ℚ)} {f : α → κ} {g : α → ℚ}

lemma sum_tally : ((tally key units totals).map Prod.snd).sum = (totals.map Prod.snd).sum + units := by
  induction totals with
  | nil => simp [tally]
  | cons total totals ih =>
      unfold tally
      split
      · simp only [List.map_cons, List.sum_cons]
        ring
      · simp only [List.map_cons, List.sum_cons, ih]
        ring

lemma map_fst_tally : (tally key units totals).map Prod.fst =
    if key ∈ totals.map Prod.fst then totals.map Prod.fst else totals.map Prod.fst ++ [key] := by
  induction totals with
  | nil => simp [tally]
  | cons total totals ih =>
      unfold tally
      split
      · rename_i h
        simp [h]
      · rename_i h
        rw [List.map_cons, ih]
        by_cases hkey : key ∈ totals.map Prod.fst <;> simp_all [eq_comm]

lemma nodup_tally (h : (totals.map Prod.fst).Nodup) : ((tally key units totals).map Prod.fst).Nodup := by
  rw [map_fst_tally]
  split
  · exact h
  · rename_i hkey
    exact List.Nodup.append h (List.nodup_singleton _) (List.disjoint_singleton.mpr hkey)

lemma isDecimal_tally (hunits : IsDecimal 3 units) (h : ∀ total ∈ totals, IsDecimal 3 total.2) :
    ∀ total ∈ tally key units totals, IsDecimal 3 total.2 := by
  induction totals with
  | nil => simpa [tally] using hunits
  | cons total totals ih =>
      obtain ⟨hfirst, hrest⟩ := List.forall_mem_cons.mp h
      unfold tally
      split
      · exact List.forall_mem_cons.mpr ⟨hfirst.add hunits, hrest⟩
      · exact List.forall_mem_cons.mpr ⟨hfirst, ih hrest⟩

lemma foldl_tally {l : List α} (hg : ∀ a ∈ l, IsDecimal 3 (g a)) (hnodup : (totals.map Prod.fst).Nodup)
    (hdecimal : ∀ total ∈ totals, IsDecimal 3 total.2) :
    let after := l.foldl (fun totals a => tally (f a) (g a) totals) totals
    (after.map Prod.snd).sum = (totals.map Prod.snd).sum + (l.map g).sum ∧
      (after.map Prod.fst).Nodup ∧ ∀ total ∈ after, IsDecimal 3 total.2 := by
  induction l generalizing totals with
  | nil => exact ⟨by simp, hnodup, hdecimal⟩
  | cons a l ih =>
      obtain ⟨hsum, hrest⟩ := ih (fun b hb => hg b (List.mem_cons_of_mem a hb)) (nodup_tally hnodup)
        (isDecimal_tally (hg a List.mem_cons_self) hdecimal)
      refine ⟨?_, hrest⟩
      rw [List.foldl_cons, hsum, sum_tally, List.map_cons, List.sum_cons, add_assoc]

end Parts

/-! ## What the timesheet asks for -/

section Requests

variable {spanStart spanEnd day : ℤ} {days : List ℤ} {byDate : List (ℤ × ℚ)} {name description : String}
  {lines : List PayLine}

lemma countP_contiguousSpans_before (hle : spanStart ≤ spanEnd) (hdays : ∀ d ∈ days, spanEnd < d)
    (hsorted : days.Pairwise (· < ·)) (hbefore : day < spanStart) :
    (contiguousSpans spanStart spanEnd days).countP
      (fun span => span.1 ≤ day && day ≤ span.2) = 0 := by
  induction days generalizing spanStart spanEnd with
  | nil =>
      simp [contiguousSpans]
      omega
  | cons next days ih =>
      have hnext := hdays next List.mem_cons_self
      obtain ⟨hlater, hsorted⟩ := List.pairwise_cons.mp hsorted
      unfold contiguousSpans
      split
      · exact ih (by omega) hlater hsorted hbefore
      · rw [List.countP_cons_of_neg (by simp; omega)]
        exact ih le_rfl hlater hsorted (by omega)

lemma countP_contiguousSpans (hle : spanStart ≤ spanEnd) (hdays : ∀ d ∈ days, spanEnd < d)
    (hsorted : days.Pairwise (· < ·)) (hday : spanStart ≤ day ∧ day ≤ spanEnd ∨ day ∈ days) :
    (contiguousSpans spanStart spanEnd days).countP
      (fun span => span.1 ≤ day && day ≤ span.2) = 1 := by
  induction days generalizing spanStart spanEnd with
  | nil =>
      have hday : spanStart ≤ day ∧ day ≤ spanEnd := by simpa using hday
      simp [contiguousSpans, hday]
  | cons next days ih =>
      have hnext := hdays next List.mem_cons_self
      obtain ⟨hlater, hsorted⟩ := List.pairwise_cons.mp hsorted
      unfold contiguousSpans
      split
      · -- the next day extends the span
        refine ih (by omega) hlater hsorted ?_
        rcases hday with h | h
        · exact .inl ⟨h.1, by omega⟩
        · rcases List.mem_cons.mp h with rfl | h
          · exact .inl ⟨by omega, le_rfl⟩
          · exact .inr h
      · rcases hday with h | h
        · rw [List.countP_cons_of_pos (by simpa using h),
            countP_contiguousSpans_before le_rfl hlater hsorted (by omega)]
        · have hpast : spanEnd < day := hdays day h
          rw [List.countP_cons_of_neg (by simp; omega)]
          refine ih le_rfl hlater hsorted ?_
          rcases List.mem_cons.mp h with rfl | h
          · exact .inl ⟨le_rfl, le_rfl⟩
          · exact .inr h

lemma quantize_of_isDecimal {units : ℚ} (h : IsDecimal 3 units) : quantize units = units :=
  roundHalfEven_of_isDecimal h

lemma isDecimal_sum {l : List ℚ} (h : ∀ q ∈ l, IsDecimal 3 q) : IsDecimal 3 l.sum := by
  induction l with
  | nil => exact isDecimal_zero
  | cons q l ih =>
      obtain ⟨hq, hl⟩ := List.forall_mem_cons.mp h
      exact hq.add (ih hl)

lemma sum_requestsOf (hnodup : (byDate.map Prod.fst).Nodup)
    (hdecimal : ∀ day ∈ byDate, IsDecimal 3 day.2) :
    ((requestsOf name description byDate).map LeaveRequestSpec.totalUnits).sum =
      (byDate.map Prod.snd).sum := by
  unfold requestsOf
  have hperm := List.perm_insertionSort (· ≤ ·) (byDate.map Prod.fst)
  have hsorted := List.pairwise_insertionSort (· ≤ ·) (byDate.map Prod.fst)
  have hstrict : ((byDate.map Prod.fst).insertionSort (· ≤ ·)).Pairwise (· < ·) :=
    (hsorted.and (hperm.nodup_iff.mpr hnodup)).imp fun h => lt_of_le_of_ne h.1 h.2
  rcases hdays : (byDate.map Prod.fst).insertionSort (· ≤ ·) with _ | ⟨first, days⟩
  · rw [hdays] at hperm
    have hnil : byDate = [] := List.map_eq_nil_iff.mp hperm.symm.eq_nil
    simp [hnil]
  · rw [hdays] at hperm hstrict
    obtain ⟨hlater, hstrict⟩ := List.pairwise_cons.mp hstrict
    rw [List.map_map]
    have hspan : ∀ span : ℤ × ℤ, quantize ((byDate.filter fun day =>
        span.1 ≤ day.1 && day.1 ≤ span.2).map Prod.snd).sum =
          ((byDate.filter fun day => span.1 ≤ day.1 && day.1 ≤ span.2).map Prod.snd).sum := by
      intro span
      refine quantize_of_isDecimal (isDecimal_sum fun q hq => ?_)
      obtain ⟨day, hday, rfl⟩ := List.mem_map.mp hq
      exact hdecimal day (List.mem_of_mem_filter hday)
    refine (congrArg List.sum (List.map_congr_left fun span _ => hspan span)).trans ?_
    refine sum_parts fun day hday => ?_
    refine countP_contiguousSpans le_rfl hlater hstrict ?_
    have hmem : day.1 ∈ first :: days := hperm.mem_iff.mpr (List.mem_map_of_mem hday)
    rcases List.mem_cons.mp hmem with h | h
    · exact .inl ⟨h.ge, h.le⟩
    · exact .inr h

/-- **What is asked for**: the requests of some lines ask for the hours of the lines. -/
lemma sum_leaveRequests (lines : List ItemLine) :
    ((leaveRequests lines).map LeaveRequestSpec.totalUnits).sum =
      (lines.map fun line => line.1.quantity).sum := by
  unfold leaveRequests
  rw [List.map_flatMap, List.flatMap_def, List.sum_flatten, List.map_map]
  have htype : ∀ name : String, ((requestsOf name
      (((lines.filter fun line => line.2.xeroText = name).getLast?.map fun line => line.2.name).getD "")
      ((lines.filter fun line => line.2.xeroText = name).foldl (fun totals line =>
        tally line.1.accountingDate line.1.quantity totals) [])).map
          LeaveRequestSpec.totalUnits).sum =
      ((lines.filter fun line => line.2.xeroText = name).map fun line => line.1.quantity).sum := by
    intro name
    obtain ⟨hsum, hnodup, hdecimal⟩ := @foldl_tally _ _ _ [] (fun line : ItemLine => line.1.accountingDate)
      (fun line => line.1.quantity) (lines.filter fun line => line.2.xeroText = name)
      (fun line _ => line.1.quantity_scale)
      List.nodup_nil (List.forall_mem_nil _)
    rw [sum_requestsOf hnodup hdecimal]
    simpa using hsum
  refine (congrArg List.sum (List.map_congr_left fun name _ => htype name)).trans ?_
  exact sum_parts fun line hline => countP_firsts (List.mem_map_of_mem hline)

lemma quantize_totalUnits {spec : LeaveRequestSpec} {lines : List ItemLine}
    (h : spec ∈ leaveRequests lines) : quantize spec.totalUnits = spec.totalUnits := by
  obtain ⟨name, -, hspec⟩ := List.mem_flatMap.mp h
  unfold requestsOf at hspec
  simp only at hspec
  split at hspec
  · cases hspec
  · obtain ⟨span, -, rfl⟩ := List.mem_map.mp hspec
    exact quantize_quantize _

end Requests

/-! ## What Xero pays -/

/-- What a dated leave record pays inside the week. -/
def pays (week : WeekWindow) (dated : DatedLeave) : ℚ :=
  (unitsWithinWeek dated.leave week).toOption.getD 0

/-- What a leave record pays an employee for the week: nothing where it is anyone else's or shares no day
with the week. -/
def weekUnits (week : WeekWindow) (employee : ℕ) (leave : EmployeeLeave) : ℚ :=
  if leave.employee = employee then
    match readDates leave with
    | .ok dated =>
        if 0 < sharedDays dated.start dated.finish week.start week.finish then pays week dated else 0
    | .error _ => 0
  else 0

/-- An employee's leave. -/
def heldBy (employee : ℕ) (leave : Register EmployeeLeave.leaveId) : List EmployeeLeave :=
  leave.rows.filter fun row => row.employee = employee

/-- What the organisation pays an employee for the week. -/
def paidLeave (week : WeekWindow) (employee : ℕ) (leave : Register EmployeeLeave.leaveId) : ℚ :=
  leave.sum (weekUnits week employee)

section Pays

variable {week : WeekWindow} {employee : ℕ} {leaves : List EmployeeLeave} {held : WeekLeave}
  {leave : Register EmployeeLeave.leaveId} {dated : DatedLeave} {units : ℚ}

lemma leave_readDates {row : EmployeeLeave} (h : readDates row = .ok dated) : dated.leave = row := by
  unfold readDates at h
  split at h
  · rw [← Except.ok.inj h]
  · cases h

lemma pays_eq (h : unitsWithinWeek dated.leave week = .ok units) : pays week dated = units := by
  unfold pays
  rw [h]
  rfl

lemma sum_sortLeave (h : sortLeave leaves week = .ok held)
    (hown : ∀ row ∈ leaves, row.employee = employee) :
    (leaves.map (weekUnits week employee)).sum =
      (held.contained.map (pays week)).sum + (held.spanning.map (pays week)).sum := by
  unfold sortLeave at h
  obtain ⟨dated, hdated, hheld⟩ := bind_eq_ok.mp h
  rw [← pure_eq_ok.mp hheld]
  clear h hheld
  have hread := mapM_eq_ok.mp hdated
  clear hdated
  induction hread with
  | nil => simp
  | @cons row first rows rest hrow _ ih =>
      obtain ⟨hemployee, hown⟩ := List.forall_mem_cons.mp hown
      have ih := ih hown
      have hunits : weekUnits week employee row =
          if 0 < sharedDays first.start first.finish week.start week.finish then pays week first
          else 0 := by
        unfold weekUnits
        rw [if_pos hemployee, hrow]
      rw [List.map_cons, List.sum_cons, hunits, ih]
      by_cases hshared : 0 < sharedDays first.start first.finish week.start week.finish
      · rcases hcontained : first.containedIn week with _ | _
        · simp [hshared, hcontained]
          ring
        · simp [hshared, hcontained]
          ring
      · simp [hshared]

lemma mem_heldBy {row : EmployeeLeave} :
    row ∈ heldBy employee leave ↔ row ∈ leave.rows ∧ row.employee = employee := by
  simp [heldBy]

lemma paidLeave_eq : paidLeave week employee leave =
    ((heldBy employee leave).map (weekUnits week employee)).sum := by
  unfold paidLeave Register.sum heldBy
  generalize leave.rows = rows
  induction rows with
  | nil => rfl
  | cons row rows ih =>
      by_cases hrow : row.employee = employee
      · simp [hrow, ih]
      · have hzero : weekUnits week employee row = 0 := if_neg hrow
        simp [hrow, hzero, ih]

lemma leaveTotal_eq (hheld : sortLeave (heldBy employee leave) week = .ok held)
    (h : leaveTotal held week = .ok units) : units = quantize (paidLeave week employee leave) := by
  unfold leaveTotal at h
  obtain ⟨all, hall, hunits⟩ := bind_eq_ok.mp h
  have hsum : all.sum = ((held.contained ++ held.spanning).map (pays week)).sum := by
    have hread := mapM_eq_ok.mp hall
    clear h hunits hall
    generalize held.contained ++ held.spanning = dated at hread
    induction hread with
    | nil => rfl
    | cons hrow _ ih => rw [List.sum_cons, List.map_cons, List.sum_cons, ih, pays_eq hrow]
  rw [← pure_eq_ok.mp hunits, hsum, List.map_append, List.sum_append,
    ← sum_sortLeave hheld fun row hrow => (mem_heldBy.mp hrow).2, ← paidLeave_eq]

/-- A record of the code's own shape: its dates are its request's, inside the week, and its units are what
was asked for. -/
lemma read_record {spec : LeaveRequestSpec} {payload : LeavePayload} {id : ℕ}
    (h : leavePayload spec week = .ok payload) :
    readDates (payload.record employee id) =
        .ok ⟨payload.record employee id, spec.startDate, spec.endDate⟩ ∧
      0 < sharedDays spec.startDate spec.endDate week.start week.finish ∧
      (week.start ≤ spec.startDate ∧ spec.endDate ≤ week.finish) ∧
      payload.leaveTypeId = spec.leaveTypeId ∧
      unitsWithinWeek (payload.record employee id) week = .ok (quantize spec.totalUnits) := by
  unfold leavePayload at h
  split at h
  · cases h
  split at h
  · cases h
  split at h
  · cases h
  rename_i hright hinside _
  obtain ⟨hstart, hfinish⟩ := not_not.mp hinside
  have hright : spec.startDate ≤ spec.endDate := not_lt.mp hright
  obtain rfl := Except.ok.inj h
  refine ⟨rfl, ?_, ⟨hstart, hfinish⟩, rfl, ?_⟩
  · unfold sharedDays
    omega
  · unfold unitsWithinWeek
    simp [LeavePayload.record, addPeriod, pure, Except.pure, bind, Except.bind]

lemma weekUnits_record {spec : LeaveRequestSpec} {payload : LeavePayload} {id : ℕ}
    (h : leavePayload spec week = .ok payload) :
    weekUnits week employee (payload.record employee id) = quantize spec.totalUnits := by
  obtain ⟨hread, hshared, -, -, hunits⟩ := @read_record week employee spec payload id h
  unfold weekUnits
  rw [if_pos (show (payload.record employee id).employee = employee from rfl), hread]
  exact (if_pos hshared).trans (pays_eq hunits)

end Pays

/-! ## Matching -/

def LeaveRequestSpec.asks (spec : LeaveRequestSpec) : ℚ := quantize spec.totalUnits

/-- The record a change is about. -/
def LeaveChange.target : LeaveChange → Option EmployeeLeave
  | .update leave _ | .delete leave => some leave
  | .create _ => none

def LeaveChange.adds {M : Type} [AddCommGroup M] (asks : LeaveRequestSpec → M)
    (weight : EmployeeLeave → M) : LeaveChange → M
  | .update leave spec => asks spec - weight leave
  | .delete leave => -weight leave
  | .create spec => asks spec

/-- A record weighs what a request weighs that it matches. -/
def Agrees {M : Type} (week : WeekWindow) (asks : LeaveRequestSpec → M) (weight : EmployeeLeave → M)
    (dated : DatedLeave) : Prop :=
  ∀ spec leaveTypeId units, dated.leave.leaveTypeId = some leaveTypeId →
    unitsWithinWeek dated.leave week = .ok units →
      spec.key = leaveKey leaveTypeId dated.start dated.finish units → asks spec = weight dated.leave

section Matching

variable {week : WeekWindow} {employee : ℕ} {desired desired' : List LeaveRequestSpec}
  {stale stale' contained : List DatedLeave} {dated : DatedLeave} {spec : LeaveRequestSpec}
  {M : Type} [AddCommGroup M] {asks : LeaveRequestSpec → M} {weight : EmployeeLeave → M}

lemma quantize_unitsWithinWeek {leave : EmployeeLeave} {units : ℚ}
    (h : unitsWithinWeek leave week = .ok units) : quantize units = units := by
  unfold unitsWithinWeek at h
  split at h
  · cases h
  · obtain ⟨⟨matched, total⟩, -, h⟩ := bind_eq_ok.mp h
    rcases matched with _ | _
    · simp at h
    · simp only [if_true, pure_eq_ok] at h
      rw [← h]
      exact quantize_quantize _

lemma matchOne_eq_ok (hagrees : Agrees week asks weight dated)
    (h : matchOne week (desired, stale) dated = .ok (desired', stale')) :
    (desired.map asks).sum - (stale.map fun dated => weight dated.leave).sum =
      (desired'.map asks).sum - (stale'.map fun dated => weight dated.leave).sum + weight dated.leave ∧
    (stale' = stale ∨ stale' = stale ++ [dated]) := by
  unfold matchOne at h
  split at h
  · cases h
  · rename_i leaveTypeId htype
    obtain ⟨units, hunits, h⟩ := bind_eq_ok.mp h
    simp only at h
    split at h
    · rename_i hany
      obtain ⟨rfl, rfl⟩ := Prod.mk.inj (pure_eq_ok.mp h)
      obtain ⟨spec, hspec, hkey⟩ := List.any_eq_true.mp hany
      obtain ⟨found, before, after, -, hfound, rfl, herase⟩ :=
        List.exists_of_eraseP (p := fun spec => spec.key = leaveKey leaveTypeId dated.start dated.finish
          units) hspec hkey
      have hweight := hagrees found leaveTypeId units htype hunits (of_decide_eq_true hfound)
      refine ⟨?_, .inl rfl⟩
      rw [herase]
      simp only [List.map_append, List.map_cons, List.sum_append, List.sum_cons, hweight]
      abel
    · obtain ⟨rfl, rfl⟩ := Prod.mk.inj (pure_eq_ok.mp h)
      refine ⟨?_, .inr rfl⟩
      simp only [List.map_append, List.map_cons, List.map_nil, List.sum_append, List.sum_cons,
        List.sum_nil]
      abel

lemma foldlM_matchOne (hagrees : ∀ dated ∈ contained, Agrees week asks weight dated)
    (h : contained.foldlM (matchOne week) (desired, stale) = .ok (desired', stale')) :
    (desired.map asks).sum - (stale.map fun dated => weight dated.leave).sum =
      (desired'.map asks).sum - (stale'.map fun dated => weight dated.leave).sum +
        (contained.map fun dated => weight dated.leave).sum := by
  induction contained generalizing desired stale with
  | nil =>
      obtain ⟨rfl, rfl⟩ := Prod.mk.inj (pure_eq_ok.mp h)
      simp
  | cons dated contained ih =>
      rw [List.foldlM_cons] at h
      obtain ⟨⟨left, now⟩, hone, hrest⟩ := bind_eq_ok.mp h
      obtain ⟨hfirst, hlater⟩ := List.forall_mem_cons.mp hagrees
      rw [(matchOne_eq_ok hfirst hone).1, ih hlater hrest, List.map_cons, List.sum_cons]
      abel

lemma stale_of_foldlM (h : contained.foldlM (matchOne week) (desired, stale) = .ok (desired', stale')) :
    ∃ kept, stale' = stale ++ kept ∧ kept.Sublist contained := by
  induction contained generalizing desired stale with
  | nil =>
      obtain ⟨rfl, rfl⟩ := Prod.mk.inj (pure_eq_ok.mp h)
      exact ⟨[], by simp, List.Sublist.refl _⟩
  | cons dated contained ih =>
      rw [List.foldlM_cons] at h
      obtain ⟨⟨left, now⟩, hone, hrest⟩ := bind_eq_ok.mp h
      obtain ⟨kept, hkept, hsub⟩ := ih hrest
      have hstale := (@matchOne_eq_ok _ _ _ _ _ _ ℤ _ (fun _ => 0) (fun _ => 0)
        (fun _ _ _ _ _ _ => rfl) hone).2
      rcases hstale with rfl | rfl
      · exact ⟨kept, hkept, hsub.cons dated⟩
      · refine ⟨dated :: kept, ?_, hsub.cons_cons dated⟩
        rw [hkept, List.append_assoc, List.singleton_append]

lemma bestOverlap_mem {leaveTypeId : String} {start finish : ℤ}
    (h : bestOverlap leaveTypeId start finish desired = some spec) : spec ∈ desired := by
  have hkept : ∀ spec ∈ bestOverlap leaveTypeId start finish desired, spec ∈ desired := by
    unfold bestOverlap
    refine List.foldlRecOn (motive := fun best => ∀ spec ∈ best, spec ∈ desired) desired _ (by simp)
      fun best hbest next hnext spec hspec => ?_
    split at hspec
    · exact hbest spec hspec
    · split at hspec
      · obtain rfl := Option.some.inj hspec
        exact hnext
      · split at hspec
        · obtain rfl := Option.some.inj hspec
          exact hnext
        · exact hbest spec hspec
  exact hkept spec h

/-- **The changes** make up the difference between what is left to ask for and what is stale, and are
about the stale records, each once. -/
lemma sum_changesFor :
    ((changesFor stale desired).map (LeaveChange.adds asks weight)).sum =
      (desired.map asks).sum - (stale.map fun dated => weight dated.leave).sum ∧
    (changesFor stale desired).filterMap LeaveChange.target = stale.map DatedLeave.leave := by
  induction stale generalizing desired with
  | nil =>
      refine ⟨?_, ?_⟩
      · simp only [changesFor, List.map_map, List.map_nil, List.sum_nil, sub_zero]
        rfl
      · simp [changesFor, LeaveChange.target, List.filterMap_map, Function.comp_def]
  | cons dated stale ih =>
      unfold changesFor
      split
      · rename_i replacement hbest
        obtain ⟨hsum, htargets⟩ := @ih (desired.erase replacement)
        have hperm := (List.perm_cons_erase (bestOverlap_mem hbest)).map asks
        refine ⟨?_, ?_⟩
        · rw [List.map_cons, List.sum_cons, hsum, hperm.sum_eq]
          simp only [LeaveChange.adds, List.map_cons, List.sum_cons]
          abel
        · simp only [List.filterMap_cons, LeaveChange.target, htargets, List.map_cons]
      · obtain ⟨hsum, htargets⟩ := @ih desired
        refine ⟨?_, ?_⟩
        · rw [List.map_cons, List.sum_cons, hsum]
          simp only [LeaveChange.adds, List.map_cons, List.sum_cons]
          abel
        · simp only [List.filterMap_cons, LeaveChange.target, htargets, List.map_cons]

end Matching

/-! ## Changing -/

section Changing

variable {week : WeekWindow} {employee other : ℕ} {leave : Register EmployeeLeave.leaveId}
  {change : LeaveChange} {changes : List LeaveChange} {row : EmployeeLeave}
  {M : Type} [AddCommGroup M] {asks : LeaveRequestSpec → M} {weight : EmployeeLeave → M}

def LeaveChange.IsAbout (employee : ℕ) (leave : Register EmployeeLeave.leaveId) (change : LeaveChange) :
    Prop :=
  ∀ row ∈ change.target, row ∈ leave.rows ∧ row.employee = employee

lemma mem_after (hrow : row ∈ leave.rows) (hne : ∀ target ∈ change.target, target.leaveId ≠ row.leaveId) :
    row ∈ (change.after week employee leave).rows := by
  rcases change with ⟨target, spec⟩ | target | spec
  · rcases hspec : leavePayload spec week with e | payload
    · rwa [after_update_refused hspec]
    · rw [after_update hspec]
      exact (Register.mem_update (LeavePayload.leaveId_record payload)).mpr
        (.inl ⟨hrow, (hne target rfl).symm⟩)
  · exact List.mem_filter.mpr ⟨hrow, by simpa using (hne target rfl).symm⟩
  · rcases hspec : leavePayload spec week with e | payload
    · rwa [after_create_refused hspec]
    · rw [after_create hspec]
      exact List.mem_append_left _ hrow

lemma heldBy_after (habout : change.IsAbout employee leave) (hne : employee ≠ other) :
    heldBy other (change.after week employee leave) = heldBy other leave := by
  have hothers : ∀ target ∈ change.target, ∀ row ∈ leave.rows, row.leaveId = target.leaveId →
      (decide (row.employee = other)) = false := by
    intro target htarget row hrow hid
    obtain ⟨hmem, hemployee⟩ := habout target htarget
    rw [Register.eq_of_key_eq hrow hmem hid, hemployee]
    simpa using hne
  unfold heldBy
  rcases change with ⟨target, spec⟩ | target | spec
  · rcases hspec : leavePayload spec week with e | payload
    · rw [after_update_refused hspec]
    · rw [after_update hspec]
      exact Register.filter_update (LeavePayload.leaveId_record payload) (hothers target rfl)
        (hothers target rfl)
  · exact Register.filter_remove (hothers target rfl)
  · rcases hspec : leavePayload spec week with e | payload
    · rw [after_create_refused hspec]
    · rw [after_create hspec]
      show (leave.rows ++ [payload.record employee leave.next]).filter _ = _
      rw [List.filter_append]
      simp [LeavePayload.record, hne]

/-- A record made or written over weighs what its request does. -/
def Recorded (week : WeekWindow) (employee : ℕ) (asks : LeaveRequestSpec → M)
    (weight : EmployeeLeave → M) : Prop :=
  ∀ spec payload id, leavePayload spec week = .ok payload →
    weight (payload.record employee id) = asks spec

lemma sum_after (hrecorded : Recorded week employee asks weight) (habout : change.IsAbout employee leave)
    (hpayload : ∀ stage ∈ change.stages week employee, stage ≠ .check false) :
    (change.after week employee leave).sum weight = leave.sum weight + change.adds asks weight := by
  have hsome : ∀ spec, Stage.check (leavePayload spec week).isOk ≠ (.check false : Stage Call) →
      ∃ payload, leavePayload spec week = .ok payload := by
    intro spec h
    rcases hspec : leavePayload spec week with e | payload
    · rw [hspec] at h
      exact absurd rfl h
    · exact ⟨payload, rfl⟩
  rcases change with ⟨target, spec⟩ | target | spec
  · obtain ⟨payload, hpayload⟩ := hsome spec (hpayload _ List.mem_cons_self)
    obtain ⟨hmem, hemployee⟩ := habout target rfl
    rw [after_update hpayload, Register.sum_update (LeavePayload.leaveId_record payload) hmem,
      hemployee, hrecorded spec payload target.leaveId hpayload]
    simp only [LeaveChange.adds]
    abel
  · obtain ⟨hmem, -⟩ := habout target rfl
    show (leave.remove target.leaveId).sum _ = _
    rw [Register.sum_remove hmem]
    simp only [LeaveChange.adds]
    abel
  · obtain ⟨payload, hpayload⟩ := hsome spec (hpayload _ List.mem_cons_self)
    rw [after_create hpayload]
    refine Register.sum_add.trans ?_
    rw [hrecorded spec payload leave.next hpayload]
    rfl

lemma isAbout_after (habout : ∀ change ∈ changes, change.IsAbout employee leave)
    (hapart : ∀ target ∈ change.target, ∀ later ∈ changes, ∀ row ∈ later.target,
      target.leaveId ≠ row.leaveId) :
    ∀ later ∈ changes, later.IsAbout employee (change.after week employee leave) :=
  fun later hlater row hrow => ⟨mem_after (habout later hlater row hrow).1 fun target htarget =>
    hapart target htarget later hlater row hrow, (habout later hlater row hrow).2⟩

/-- No two changes are about one record. -/
def Apart (changes : List LeaveChange) : Prop :=
  ((changes.filterMap LeaveChange.target).map EmployeeLeave.leaveId).Nodup

lemma Apart.of_cons (h : Apart (change :: changes)) : Apart changes ∧
    ∀ target ∈ change.target, ∀ later ∈ changes, ∀ row ∈ later.target,
      target.leaveId ≠ row.leaveId := by
  unfold Apart at h
  rcases htarget : change.target with _ | target
  · rw [List.filterMap_cons_none htarget] at h
    exact ⟨h, by simp⟩
  · rw [List.filterMap_cons_some htarget, List.map_cons, List.nodup_cons] at h
    refine ⟨h.2, ?_⟩
    rintro _ ⟨⟩ later hlater row hrow heq
    exact h.1 (heq ▸ List.mem_map_of_mem (List.mem_filterMap.mpr ⟨later, hlater, hrow⟩))

lemma heldBy_foldl (habout : ∀ change ∈ changes, change.IsAbout employee leave) (hapart : Apart changes)
    (hne : employee ≠ other) :
    heldBy other (changes.foldl (LeaveChange.after week employee) leave) = heldBy other leave := by
  induction changes generalizing leave with
  | nil => rfl
  | cons change changes ih =>
      obtain ⟨hfirst, hrest⟩ := List.forall_mem_cons.mp habout
      obtain ⟨hlater, hnone⟩ := hapart.of_cons
      rw [List.foldl_cons, ih (isAbout_after hrest hnone) hlater, heldBy_after hfirst hne]

/-- **The changes** add up. -/
lemma sum_foldl (hrecorded : Recorded week employee asks weight)
    (habout : ∀ change ∈ changes, change.IsAbout employee leave) (hapart : Apart changes)
    (hpayload : ∀ stage ∈ changes.flatMap (LeaveChange.stages week employee), stage ≠ .check false) :
    (changes.foldl (LeaveChange.after week employee) leave).sum weight =
      leave.sum weight + (changes.map (LeaveChange.adds asks weight)).sum := by
  induction changes generalizing leave with
  | nil => simp
  | cons change changes ih =>
      obtain ⟨hfirst, hrest⟩ := List.forall_mem_cons.mp habout
      obtain ⟨hlater, hnone⟩ := hapart.of_cons
      rw [List.flatMap_cons] at hpayload
      have hone := sum_after hrecorded hfirst fun stage hstage =>
        hpayload stage (List.mem_append_left _ hstage)
      rw [List.foldl_cons, ih (isAbout_after hrest hnone) hlater fun stage hstage =>
        hpayload stage (List.mem_append_right _ hstage), hone, List.map_cons, List.sum_cons, add_assoc]

end Changing

/-! ## Reconciling -/

section Reconciling

variable {week : WeekWindow} {employee other : ℕ} {leave : Register EmployeeLeave.leaveId}
  {lines : List PayLine} {changes : List LeaveChange} {held : WeekLeave} {leaves : List EmployeeLeave}
  {linesOf : ℕ → List PayLine} {catalogue : LeaveCatalogue} {staff : Staff}

lemma contained_of_sortLeave (h : sortLeave leaves week = .ok held) :
    (held.contained.map DatedLeave.leave).Sublist leaves ∧
      ∀ dated ∈ held.contained, dated.leave.employee = employee →
        weekUnits week employee dated.leave = pays week dated := by
  unfold sortLeave at h
  obtain ⟨dated, hdated, hheld⟩ := bind_eq_ok.mp h
  rw [← pure_eq_ok.mp hheld]
  have hread := mapM_eq_ok.mp hdated
  have hleaves : dated.map DatedLeave.leave = leaves := by
    clear h hheld hdated
    induction hread with
    | nil => rfl
    | cons hrow _ ih => rw [List.map_cons, ih, leave_readDates hrow]
  refine ⟨?_, fun one hone hemployee => ?_⟩
  · rw [← hleaves]
    exact (List.filter_sublist.trans List.filter_sublist).map _
  · obtain ⟨hmem, hshared⟩ := List.mem_filter.mp (List.mem_of_mem_filter hone)
    obtain ⟨row, -, hrow⟩ : ∃ row ∈ leaves, readDates row = .ok one := by
      clear h hheld hdated hleaves hone
      induction hread with
      | nil => cases hmem
      | @cons row first _ _ hrow _ ih =>
          rcases List.mem_cons.mp hmem with rfl | hmem
          · exact ⟨row, List.mem_cons_self, hrow⟩
          · obtain ⟨row, hmem, hrow⟩ := ih hmem
            exact ⟨row, List.mem_cons_of_mem _ hmem, hrow⟩
    unfold weekUnits
    rw [if_pos hemployee, leave_readDates hrow, hrow]
    exact if_pos (of_decide_eq_true hshared)

lemma sum_buildLeaveRequests {specs : List LeaveRequestSpec} (h : buildLeaveRequests lines = .ok specs) :
    (specs.map LeaveRequestSpec.asks).sum = quantities lines := by
  unfold buildLeaveRequests at h
  obtain ⟨items, hitems, hspecs⟩ := bind_eq_ok.mp h
  rw [← pure_eq_ok.mp hspecs]
  have hasks : (leaveRequests items).map LeaveRequestSpec.asks =
      (leaveRequests items).map LeaveRequestSpec.totalUnits :=
    List.map_congr_left fun spec hspec => quantize_totalUnits hspec
  rw [hasks, sum_leaveRequests]
  have hread := mapM_eq_ok.mp hitems
  unfold quantities
  clear h hspecs hasks hitems
  induction hread with
  | nil => rfl
  | cons hline _ ih =>
      obtain ⟨item, -, rfl⟩ := map_eq_ok.mp hline
      rw [List.map_cons, List.map_cons, List.sum_cons, List.sum_cons, ih]

/-- **What is due**: what is held, what is asked for, and changes of the employee's own leave, no two of one
record. -/
lemma dueChanges_eq_ok (h : dueChanges week leave employee lines = .ok changes) :
    ∃ held specs desired stale, sortLeave (heldBy employee leave) week = .ok held ∧
      buildLeaveRequests lines = .ok specs ∧ matchHeld week specs held.contained = .ok (desired, stale) ∧
      changes = changesFor stale desired ∧
      (∀ change ∈ changes, change.IsAbout employee leave) ∧ Apart changes := by
  unfold dueChanges outlook at h
  simp only [bind_eq_ok, pure_eq_ok] at h
  obtain ⟨held, hheld, specs, hspecs, _, -, ⟨desired, stale⟩, hmatch, rfl⟩ := h
  have hheld : sortLeave (heldBy employee leave) week = .ok held := hheld
  obtain ⟨kept, hkept, hsub⟩ := stale_of_foldlM hmatch
  rw [List.nil_append] at hkept
  subst hkept
  obtain ⟨hrows, -⟩ := @contained_of_sortLeave _ employee _ _ hheld
  have htargets := (@sum_changesFor desired stale ℤ _ (fun _ => 0) fun _ => 0).2
  refine ⟨held, specs, desired, stale, hheld, hspecs, hmatch, rfl, fun change hchange row hrow => ?_, ?_⟩
  · have hmem : row ∈ stale.map DatedLeave.leave :=
      htargets ▸ List.mem_filterMap.mpr ⟨change, hchange, hrow⟩
    obtain ⟨dated, hdated, rfl⟩ := List.mem_map.mp hmem
    exact mem_heldBy.mp (hrows.subset (List.mem_map_of_mem (hsub.subset hdated)))
  · unfold Apart
    rw [htargets]
    exact leave.nodup.sublist (((hsub.map _).trans (hrows.trans List.filter_sublist)).map _)

lemma sum_dueChanges {specs desired : List LeaveRequestSpec} {stale : List DatedLeave}
    {M : Type} [AddCommGroup M] {asks : LeaveRequestSpec → M} {weight : EmployeeLeave → M}
    (hagrees : ∀ dated ∈ held.contained, Agrees week asks weight dated)
    (hmatch : matchHeld week specs held.contained = .ok (desired, stale)) :
    ((changesFor stale desired).map (LeaveChange.adds asks weight)).sum =
      (specs.map asks).sum - (held.contained.map fun dated => weight dated.leave).sum := by
  have hsums := foldlM_matchOne hagrees hmatch
  simp only [List.map_nil, List.sum_nil, sub_zero] at hsums
  rw [sum_changesFor.1, hsums]
  abel

lemma agrees_weekUnits (hheld : sortLeave (heldBy employee leave) week = .ok held) :
    ∀ dated ∈ held.contained, weekUnits week employee dated.leave = pays week dated ∧
      Agrees week LeaveRequestSpec.asks (weekUnits week employee) dated := by
  intro dated hdated
  obtain ⟨hrows, hunits⟩ := @contained_of_sortLeave _ employee _ _ hheld
  have hown := (mem_heldBy.mp (hrows.subset (List.mem_map_of_mem hdated))).2
  refine ⟨hunits dated hdated hown, fun spec leaveTypeId units _ hwithin hkey => ?_⟩
  rw [hunits dated hdated hown, pays_eq hwithin, ← quantize_unitsWithinWeek hwithin]
  exact congrArg LeaveKey.units hkey

lemma heldBy_leaveAfter (hother : ∀ whose lines,
    leaveOf week linesOf catalogue staff = .ok (some (whose, lines)) → whose ≠ other) :
    heldBy other (leaveAfter week linesOf catalogue leave staff) = heldBy other leave := by
  unfold leaveAfter
  split
  · rename_i whose lines hwhose
    split
    · rename_i changes hchanges
      obtain ⟨-, -, -, -, -, -, -, -, habout, hapart⟩ := dueChanges_eq_ok hchanges
      exact heldBy_foldl habout hapart (hother whose lines hwhose)
    · rfl
  · rfl

/-- **A person's own reconcile**, gone through, pays her the hours of her lines beside what spans the
week's ends. -/
lemma paidLeave_leaveAfter (hwhose : leaveOf week linesOf catalogue staff = .ok (some (employee, lines)))
    (hpasses : ∀ stage ∈ leaveStages week linesOf catalogue leave staff, stage ≠ .check false) :
    ∃ held, sortLeave (heldBy employee leave) week = .ok held ∧
      paidLeave week employee (leaveAfter week linesOf catalogue leave staff) =
        quantities lines + (held.spanning.map (pays week)).sum := by
  unfold leaveStages at hpasses
  simp only [hwhose] at hpasses
  rcases hchanges : dueChanges week leave employee lines with e | changes
  · rw [hchanges] at hpasses
    exact absurd rfl (hpasses (.check false) (by simp))
  · rw [hchanges] at hpasses
    obtain ⟨held, specs, desired, stale, hheld, hspecs, hmatch, rfl, habout, hapart⟩ :=
      dueChanges_eq_ok hchanges
    have hagrees := agrees_weekUnits hheld
    have hrecorded : Recorded week employee LeaveRequestSpec.asks (weekUnits week employee) :=
      fun _ _ _ => weekUnits_record
    have hpaid := sum_foldl hrecorded habout hapart fun stage hstage =>
      hpasses stage (List.mem_cons_of_mem _ hstage)
    have hcontained : (held.contained.map fun dated => weekUnits week employee dated.leave) =
        held.contained.map (pays week) :=
      List.map_congr_left fun dated hdated => (hagrees dated hdated).1
    refine ⟨held, hheld, ?_⟩
    unfold leaveAfter
    simp only [hwhose, hchanges]
    refine hpaid.trans ?_
    rw [sum_dueChanges (fun dated hdated => (hagrees dated hdated).2) hmatch, hcontained,
      show leave.sum (weekUnits week employee) = paidLeave week employee leave from rfl, paidLeave_eq,
      sum_sortLeave hheld fun row hrow => (mem_heldBy.mp hrow).2, ← sum_buildLeaveRequests hspecs]
    ring

/-- **Everybody's reconcile**, gone through, pays a person whose employee is nobody else's the hours of
her lines beside what spans the week's ends. -/
lemma paidLeave_people {net : Call → Fate PayrollError} {people : List Staff}
    (hthrough : through net (leaveCourse week linesOf catalogue leave people) = true)
    (hnodup : people.Nodup) (hstaff : staff ∈ people)
    (hwhose : leaveOf week linesOf catalogue staff = .ok (some (employee, lines)))
    (hothers : ∀ person ∈ people, person ≠ staff → ∀ whose lines,
      leaveOf week linesOf catalogue person = .ok (some (whose, lines)) → whose ≠ employee) :
    ∃ held, sortLeave (heldBy employee leave) week = .ok held ∧
      paidLeave week employee (people.foldl (leaveAfter week linesOf catalogue) leave) =
        quantities lines + (held.spanning.map (pays week)).sum := by
  induction people generalizing leave with
  | nil => cases hstaff
  | cons person people ih =>
      unfold leaveCourse turns at hthrough
      rw [through_append, Bool.and_eq_true_iff] at hthrough
      obtain ⟨hfirst, hrest⟩ := hthrough
      rw [List.nodup_cons] at hnodup
      have hlater := fun other hother => hothers other (List.mem_cons_of_mem person hother)
      by_cases hself : person = staff
      · subst hself
        have hpasses : ∀ stage ∈ leaveStages week linesOf catalogue leave person,
            stage ≠ .check false := by
          rintro stage hstage rfl
          simpa [Stage.passes] using List.all_eq_true.mp hfirst _ hstage
        obtain ⟨held, hheld, hpaid⟩ := paidLeave_leaveAfter hwhose hpasses
        refine ⟨held, hheld, ?_⟩
        have hkept : ∀ (people : List Staff) (leave : Register EmployeeLeave.leaveId),
            (∀ other ∈ people, ∀ whose lines,
              leaveOf week linesOf catalogue other = .ok (some (whose, lines)) → whose ≠ employee) →
            heldBy employee (people.foldl (leaveAfter week linesOf catalogue) leave) =
              heldBy employee leave := by
          intro people
          induction people with
          | nil => exact fun _ _ => rfl
          | cons other people ihp =>
              intro leave hnone
              obtain ⟨hone, hnone⟩ := List.forall_mem_cons.mp hnone
              rw [List.foldl_cons, ihp _ hnone, heldBy_leaveAfter hone]
        rw [List.foldl_cons, paidLeave_eq, hkept people _ fun other hother =>
          hlater other hother fun heq => hnodup.1 (heq ▸ hother), ← paidLeave_eq, hpaid]
      · have hmem : staff ∈ people := (List.mem_cons.mp hstaff).resolve_left fun h => hself h.symm
        obtain ⟨held, hheld, hpaid⟩ := ih hrest hnodup.2 hmem hlater
        refine ⟨held, ?_, hpaid⟩
        rwa [heldBy_leaveAfter (hothers person List.mem_cons_self hself)] at hheld

end Reconciling

end Payroll

end Docketworks
