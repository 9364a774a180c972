import Docketworks.Timesheet.DayLocks

/-!
# The day's writers do not deadlock

Everyone takes the person first, then the jobs in id order, and the rest under one of the two.  Two
things stand outside this order: a clock-in inserts the day's row before it takes its person, and at
its commit an operation looks up the person who made it.

* `Allowed operation held r` — the order: what an operation may ask for beside what it holds.
* `waits_above` — what a waiting operation holds ranks below what it waits for.
* `no_circular_wait` — no run of compatible operations reaches a circular wait.
* `clock_in_deadlocks` — a clock-in and a change of the same day's times do.
-/

namespace Docketworks

open Library Library.Locks

namespace Timesheet

namespace DayLocks

/-! ## The order -/

/-- People by id, then jobs by id; nothing else is waited for but the row of a day. -/
def Row.rank : Row → ℕ ×ₗ ℕ
  | .staff id => toLex (1, id)
  | .job id => toLex (2, id)
  | _ => toLex (0, 0)

/-- Everything held ranks below the row. -/
def BelowAll (held : LockProgram) (row : Row) : Prop := ∀ t ∈ held, t.resource.rank < row.rank

variable {shop : ShopJobs} {operation : Operation shop} {held : LockProgram} {costSets : ℕ → List ℕ}
  {owner : ℕ} {day : ℤ}

/-- What an operation may ask for beside what it holds. -/
def Allowed (operation : Operation shop) (held : LockProgram) : Request Row → Prop
  | ⟨.staff id, .exclusive⟩ => id ∈ operation.people ∧ BelowAll held (.staff id)
  | ⟨.staff id, .shared⟩ =>
      (operation.actor = id ∧ id ∉ operation.people) ∨ BelowAll held (.staff id)
  | ⟨.job id, .exclusive⟩ => BelowAll held (.job id)
  | ⟨.attendance owner day, .exclusive⟩ => (owner, day) ∈ operation.days ∧
      if operation.isClockIn then held = [] else forUpdate (.staff owner) ∈ held
  | ⟨.costSet job _, .exclusive⟩ => forUpdate (.job job) ∈ held
  | ⟨.line owner _, .exclusive⟩ => forUpdate (.staff owner) ∈ held
  | _ => False

/-- What is known of a lock once it is held. -/
def Known (operation : Operation shop) (held : LockProgram) : Request Row → Prop
  | ⟨.staff id, .exclusive⟩ => id ∈ operation.people
  | ⟨.attendance owner day, _⟩ => (owner, day) ∈ operation.days ∧
      (operation.isClockIn = true ∨ forUpdate (.staff owner) ∈ held)
  | ⟨.costSet job _, _⟩ => forUpdate (.job job) ∈ held
  | ⟨.line owner _, _⟩ => forUpdate (.staff owner) ∈ held
  | _ => True

lemma covers_self (r : Request Row) : r.Covers r := by
  refine ⟨rfl, ?_⟩
  cases r.mode
  · exact .inl rfl
  · exact .inr rfl

lemma known_of_follows {xs : LockProgram} (h : Follows (Allowed operation) [] xs) :
    ∀ t ∈ xs.reverse, Known operation xs.reverse t := by
  have hknown := h.taken (P := Known operation) ?_ ?_ ?_ (by simp)
  · simpa using hknown
  · rintro held r ⟨row, mode⟩ hknown
    cases row <;> cases mode <;> simp only [Known, List.mem_cons] at hknown ⊢ <;> tauto
  · rintro held ⟨row, mode⟩ ⟨row', mode'⟩ ⟨hrow, hmode⟩ hknown
    simp only at hrow hmode
    subst hrow
    cases row <;> cases mode <;> cases mode' <;> simp_all [Known]
  · rintro held ⟨row, mode⟩ hallowed
    cases row <;> cases mode <;> simp only [Known, Allowed, List.mem_cons] at hallowed ⊢ <;>
      try tauto
    -- the row of a day: a clock-in takes it first, everyone else under the person's lock
    obtain ⟨hday, horder⟩ := hallowed
    split at horder
    · exact ⟨hday, .inl ‹_›⟩
    · exact ⟨hday, .inr (.inr horder)⟩

/-! ## Taking rows in order -/

lemma follows_ascending {rows : List Row}
    (hsorted : rows.Pairwise fun a b => a.rank < b.rank)
    (hbelow : ∀ row ∈ rows, BelowAll held row)
    (hallowed : ∀ row ∈ rows, ∀ held, BelowAll held row → Allowed operation held (forUpdate row)) :
    Follows (Allowed operation) held (rows.map forUpdate) := by
  induction rows generalizing held with
  | nil => trivial
  | cons row rows ih =>
      obtain ⟨hlt, hsorted⟩ := List.pairwise_cons.mp hsorted
      refine ⟨.inr (hallowed row List.mem_cons_self held (hbelow row List.mem_cons_self)), ?_⟩
      refine ih hsorted (fun r hr t ht => ?_)
        fun r hr => hallowed r (List.mem_cons_of_mem row hr)
      rcases List.mem_cons.mp ht with rfl | ht
      · exact hlt r hr
      · exact hbelow r (List.mem_cons_of_mem row hr) t ht

lemma strictly_ascending (ids : List ℕ) :
    (ids.dedup.insertionSort (· ≤ ·)).Pairwise (· < ·) := by
  have hsorted : (ids.dedup.insertionSort (· ≤ ·)).Pairwise (· ≤ ·) :=
    List.pairwise_insertionSort (· ≤ ·) ids.dedup
  have hnodup : (ids.dedup.insertionSort (· ≤ ·)).Nodup :=
    (List.perm_insertionSort (· ≤ ·) ids.dedup).nodup_iff.mpr ids.nodup_dedup
  exact (List.pairwise_and_iff.mpr ⟨hsorted, hnodup⟩).imp fun h => lt_of_le_of_ne h.1 h.2

/-- The jobs are all held, or no job is. -/
def AllOrNone (held : LockProgram) (jobIds : List ℕ) : Prop :=
  (∀ job ∈ jobIds, forUpdate (.job job) ∈ held) ∨ ∀ t ∈ held, ∀ job, t.resource ≠ .job job

lemma AllOrNone.cons {jobIds : List ℕ} {row : Row} (h : AllOrNone held jobIds)
    (hrow : ∀ job, row ≠ .job job) : AllOrNone (forUpdate row :: held) jobIds := by
  rcases h with hall | hnone
  · exact .inl fun job hjob => List.mem_cons_of_mem _ (hall job hjob)
  · refine .inr fun t ht job => ?_
    rcases List.mem_cons.mp ht with rfl | ht
    · exact hrow job
    · exact hnone t ht job

lemma belowAll_job {job : ℕ} (h : ∀ t ∈ held, ∀ job, t.resource ≠ .job job) :
    BelowAll held (.job job) := by
  intro t ht
  have hne := h t ht
  cases hrow : t.resource with
  | staff id => exact Prod.Lex.toLex_lt_toLex.mpr (.inl Nat.one_lt_two)
  | attendance owner day => exact Prod.Lex.toLex_lt_toLex.mpr (.inl Nat.two_pos)
  | job id => exact absurd hrow (hne id)
  | costSet job id | line owner id => exact Prod.Lex.toLex_lt_toLex.mpr (.inl Nat.two_pos)

/-! ## The parts of a program

Each takes its person and its jobs if they are not held yet, and what was held before, `rs`, stays
held. -/

variable {rs : LockProgram} {jobIds : List ℕ}

/-- The person is held or may still be taken, and so may the jobs. -/
def Ready (owner : ℕ) (jobIds : List ℕ) (rs held : LockProgram) : Prop :=
  rs ⊆ held ∧ (forUpdate (.staff owner) ∈ held ∨ BelowAll held (.staff owner)) ∧
    AllOrNone held jobIds

/-- The person and the jobs. -/
def locked (owner : ℕ) (jobIds : List ℕ) : LockProgram :=
  forUpdate (.staff owner) :: jobIds.map fun job => forUpdate (.job job)

lemma ready_of_locked (h : locked owner jobIds ++ rs ⊆ held) : Ready owner jobIds rs held := by
  have hperson : forUpdate (.staff owner) ∈ held := h (by simp [locked])
  refine ⟨fun r hr => h (List.mem_append_right _ hr), .inl hperson, .inl fun job hjob => ?_⟩
  refine h (List.mem_append_left _ (List.mem_cons_of_mem _ ?_))
  exact List.mem_map_of_mem hjob

lemma subset_cons_of_subset {r : Request Row} (h : rs ⊆ held) : rs ⊆ r :: held :=
  fun _ hx => List.mem_cons_of_mem r (h hx)

lemma takes_person (howner : owner ∈ operation.people) :
    Takes (Allowed operation) (Ready owner jobIds rs) [forUpdate (.staff owner)]
      fun held => forUpdate (.staff owner) :: rs ⊆ held ∧ AllOrNone held jobIds := by
  refine Takes.request (fun held h => ?_)
    fun held h => ⟨List.cons_subset_cons _ h.1, h.2.2.cons (by simp)⟩
  rcases h.2.1 with hheld | hbelow
  · exact .inl ⟨_, hheld, covers_self _⟩
  · exact .inr ⟨howner, hbelow⟩

lemma takes_lockCostingJobs :
    Takes (Allowed operation) (fun held => rs ⊆ held ∧ AllOrNone held jobIds)
      (lockCostingJobs costSets jobIds)
      fun held => (jobIds.map fun job => forUpdate (.job job)) ++ rs ⊆ held := by
  have hmem : ∀ job, job ∈ jobIds.dedup.insertionSort (· ≤ ·) ↔ job ∈ jobIds := by
    intro job
    rw [List.mem_insertionSort, List.mem_dedup]
  have hjobs : Takes (Allowed operation) (fun held => rs ⊆ held ∧ AllOrNone held jobIds)
      ((jobIds.dedup.insertionSort (· ≤ ·)).map fun job => forUpdate (.job job))
      fun held => (jobIds.map fun job => forUpdate (.job job)) ++ rs ⊆ held := by
    rintro held ⟨hrs, horder⟩
    constructor
    · rcases horder with hall | hnone
      · refine follows_of_covered fun r hr => ?_
        obtain ⟨job, hjob, rfl⟩ := List.mem_map.mp hr
        exact ⟨_, hall job ((hmem job).mp hjob), covers_self _⟩
      · have hrows : Follows (Allowed operation) held
            (((jobIds.dedup.insertionSort (· ≤ ·)).map Row.job).map forUpdate) := by
          refine follows_ascending ?_ (fun row hrow => ?_) fun row hrow held' hbelow => ?_
          · refine List.pairwise_map.mpr ((strictly_ascending jobIds).imp fun h => ?_)
            exact Prod.Lex.toLex_lt_toLex.mpr (.inr ⟨rfl, h⟩)
          · obtain ⟨job, -, rfl⟩ := List.mem_map.mp hrow
            exact belowAll_job hnone
          · obtain ⟨job, -, rfl⟩ := List.mem_map.mp hrow
            exact hbelow
        rwa [List.map_map] at hrows
    · intro r hr
      rcases List.mem_append.mp hr with hr | hr
      · obtain ⟨job, hjob, rfl⟩ := List.mem_map.mp hr
        refine List.mem_append_left _ (List.mem_reverse.mpr (List.mem_map_of_mem ?_))
        exact (hmem job).mpr hjob
      · exact List.mem_append_right _ (hrs hr)
  refine hjobs.append (Takes.map fun pair hpair => ?_)
  obtain ⟨job, id⟩ := pair
  rw [List.mem_insertionSort, List.mem_flatMap] at hpair
  obtain ⟨job', hjob', hpair⟩ := hpair
  obtain ⟨id', -, hpair⟩ := List.mem_map.mp hpair
  obtain ⟨rfl, rfl⟩ := Prod.mk.injEq _ _ _ _ |>.mp hpair
  refine Takes.request (fun held h => .inr ?_) fun held h => subset_cons_of_subset h
  exact h (List.mem_append_left _ (List.mem_map_of_mem (List.mem_dedup.mp hjob')))

lemma takes_locked (howner : owner ∈ operation.people) :
    Takes (Allowed operation) (Ready owner jobIds rs)
      (forUpdate (.staff owner) :: lockCostingJobs costSets jobIds)
      fun held => locked owner jobIds ++ rs ⊆ held := by
  have hjobs : Takes (Allowed operation)
      (fun held => forUpdate (.staff owner) :: rs ⊆ held ∧ AllOrNone held jobIds)
      (lockCostingJobs costSets jobIds) fun held => locked owner jobIds ++ rs ⊆ held := by
    refine takes_lockCostingJobs.conseq (fun _ h => h) fun held h r hr => h ?_
    simp only [locked, List.cons_append, List.mem_cons, List.mem_append] at hr ⊢
    tauto
  exact (takes_person howner).append hjobs

lemma takes_line {id : ℕ} (hperson : forUpdate (.staff owner) ∈ rs) :
    Takes (Allowed operation) (fun held => rs ⊆ held) [forUpdate (.line owner id)]
      fun held => rs ⊆ held :=
  Takes.request (fun _ h => .inr (h hperson)) fun _ h => subset_cons_of_subset h

lemma takes_attendance (hday : (owner, day) ∈ operation.days) (hkind : operation.isClockIn = false)
    (hperson : forUpdate (.staff owner) ∈ rs) :
    Takes (Allowed operation) (fun held => rs ⊆ held) [forUpdate (.attendance owner day)]
      fun held => forUpdate (.attendance owner day) :: rs ⊆ held := by
  refine Takes.request (fun held h => .inr ⟨hday, ?_⟩) fun held h => List.cons_subset_cons _ h
  rw [hkind]
  exact h hperson

lemma takes_saveEntry {job : ℕ} (howner : owner ∈ operation.people) :
    Takes (Allowed operation) (Ready owner (withGeneralWork shop [job]) rs)
      (saveEntry shop costSets owner job)
      fun held => locked owner (withGeneralWork shop [job]) ++ rs ⊆ held :=
  takes_locked howner

lemma takes_refillGeneralWork {refill : Option Refill} (howner : owner ∈ operation.people)
    (hperson : forUpdate (.staff owner) ∈ rs) :
    Takes (Allowed operation) (fun held => rs ⊆ held ∧ AllOrNone held shop.generalWork.toList)
      (refillGeneralWork shop costSets owner refill) fun held => rs ⊆ held := by
  unfold refillGeneralWork
  split
  · rename_i generalWork found hwork
    rw [hwork]
    -- the job once taken, the loop over the windows asks for nothing new
    set rs' : LockProgram := ([generalWork].map fun job => forUpdate (.job job)) ++ rs
    have hperson' : forUpdate (.staff owner) ∈ rs' := List.mem_append_right _ hperson
    have hlines : Takes (Allowed operation) (fun held => rs' ⊆ held)
        (found.filled.map fun id => forUpdate (.line owner id)) fun held => rs' ⊆ held :=
      Takes.map fun id _ => takes_line hperson'
    have hready : ∀ held, rs' ⊆ held → Ready owner (withGeneralWork shop [generalWork]) rs' held := by
      refine fun held h => ⟨h, .inl (h hperson'), .inl fun job hjob => h ?_⟩
      have hjob : job = generalWork := by simpa [withGeneralWork, hwork] using hjob
      simp [rs', hjob]
    have hwindows : Takes (Allowed operation) (fun held => rs' ⊆ held)
        ((List.range found.windows).flatMap fun _ => saveEntry shop costSets owner generalWork)
        fun held => rs' ⊆ held :=
      Takes.flatMap fun _ _ => (takes_saveEntry howner).conseq hready fun held h =>
        (List.append_subset.mp h).2
    have hlock : Takes (Allowed operation)
        (fun held => rs ⊆ held ∧ AllOrNone held (some generalWork).toList)
        (lockCostingJobs costSets [generalWork]) fun held => rs' ⊆ held := takes_lockCostingJobs
    exact ((hlock.append hlines).append hwindows).conseq (fun _ h => h)
      fun held h => (List.append_subset.mp h).2
  · exact Takes.nil.conseq (fun _ h => h.1) fun _ h => h

lemma allOrNone_of_subset {jobIds' : List ℕ} (h : AllOrNone held jobIds) (hsub : jobIds' ⊆ jobIds) :
    AllOrNone held jobIds' :=
  h.imp (fun hall job hjob => hall job (hsub hjob)) id

lemma allOrNone_generalWork (h : locked owner (withGeneralWork shop jobIds) ++ rs ⊆ held) :
    AllOrNone held shop.generalWork.toList :=
  allOrNone_of_subset (ready_of_locked h).2.2 (List.subset_append_right _ _)

lemma takes_refill_locked {refill : Option Refill} (howner : owner ∈ operation.people) :
    Takes (Allowed operation)
      (fun held => locked owner (withGeneralWork shop jobIds) ++ rs ⊆ held)
      (refillGeneralWork shop costSets owner refill)
      fun held => locked owner (withGeneralWork shop jobIds) ++ rs ⊆ held :=
  (takes_refillGeneralWork howner (by simp [locked])).conseq
    (fun _ h => ⟨h, allOrNone_generalWork h⟩) fun _ h => h

lemma takes_createEntry {job : ℕ} {refill : Option Refill} (howner : owner ∈ operation.people) :
    Takes (Allowed operation) (Ready owner (withGeneralWork shop [job]) rs)
      (createEntry shop costSets owner job refill)
      fun held => locked owner (withGeneralWork shop [job]) ++ rs ⊆ held :=
  (takes_saveEntry howner).append (takes_refill_locked howner)

lemma takes_lines {ids : List ℕ} (hperson : forUpdate (.staff owner) ∈ rs) :
    Takes (Allowed operation) (fun held => rs ⊆ held)
      (ids.map fun id => forUpdate (.line owner id)) fun held => rs ⊆ held :=
  Takes.map fun _ _ => takes_line hperson

lemma takes_updateEntry {job id : ℕ} {newJob : Option ℕ} {refills : List (Option Refill)}
    (howner : owner ∈ operation.people) :
    Takes (Allowed operation) (Ready owner (withGeneralWork shop (job :: newJob.toList)) rs)
      (updateEntry shop costSets owner job newJob id refills)
      fun held => locked owner (withGeneralWork shop (job :: newJob.toList)) ++ rs ⊆ held := by
  set rs' : LockProgram := locked owner (withGeneralWork shop (job :: newJob.toList)) ++ rs
  have hline : Takes (Allowed operation) (fun held => rs' ⊆ held) [forUpdate (.line owner id)]
      fun held => rs' ⊆ held := takes_line (by simp [rs', locked])
  have hrefills : Takes (Allowed operation) (fun held => rs' ⊆ held)
      (refills.flatMap (refillGeneralWork shop costSets owner)) fun held => rs' ⊆ held :=
    Takes.flatMap fun _ _ => takes_refill_locked howner
  exact ((takes_locked howner).append hline).append hrefills

lemma takes_deleteEntry {job id : ℕ} {after : AfterDelete} (howner : owner ∈ operation.people)
    (hafter : ∀ filled, after = .generalWorkOff filled →
      (owner, day) ∈ operation.days ∧ operation.isClockIn = false) :
    Takes (Allowed operation) (Ready owner (withGeneralWork shop [job]) rs)
      (deleteEntry shop costSets owner day job id after)
      fun held => locked owner (withGeneralWork shop [job]) ++ rs ⊆ held := by
  set rs' : LockProgram := locked owner (withGeneralWork shop [job]) ++ rs
  have hperson : forUpdate (.staff owner) ∈ rs' := by simp [rs', locked]
  have hline : Takes (Allowed operation) (fun held => rs' ⊆ held) [forUpdate (.line owner id)]
      fun held => rs' ⊆ held := takes_line hperson
  have hlocked : Takes (Allowed operation) (Ready owner (withGeneralWork shop [job]) rs)
      (forUpdate (.staff owner) :: lockCostingJobs costSets (withGeneralWork shop [job]) ++
        [forUpdate (.line owner id)]) fun held => rs' ⊆ held := (takes_locked howner).append hline
  cases after with
  | refilled refill => exact hlocked.append (takes_refill_locked howner)
  | generalWorkOff filled =>
      obtain ⟨hday, hkind⟩ := hafter filled rfl
      have hrow : Takes (Allowed operation) (fun held => rs' ⊆ held)
          [forUpdate (.attendance owner day)] fun held => rs' ⊆ held :=
        (takes_attendance hday hkind hperson).conseq (fun _ h => h)
          fun _ h => List.subset_of_cons_subset h
      have hlines : Takes (Allowed operation) (fun held => rs' ⊆ held)
          (filled.map fun id => forUpdate (.line owner id)) fun held => rs' ⊆ held :=
        takes_lines hperson
      exact hlocked.append (hrow.append hlines)

lemma takes_approveDay {lines : List ℕ} (howner : owner ∈ operation.people) :
    Takes (Allowed operation) (Ready owner jobIds rs) (approveDay costSets owner jobIds lines)
      fun held => locked owner jobIds ++ rs ⊆ held :=
  (takes_locked howner).append (takes_lines (by simp [locked]))

/-! ## The breaks of a day -/

def breakJobs (shop : ShopJobs) : List ℕ := withGeneralWork shop shop.breakJob.toList

lemma takes_generateDefaultBreaks {generated : Option (List (Option Refill))}
    (howner : owner ∈ operation.people) (hrow : forUpdate (.attendance owner day) ∈ rs) :
    Takes (Allowed operation) (Ready owner (breakJobs shop) rs)
      (generateDefaultBreaks shop costSets owner day generated)
      (Ready owner (breakJobs shop) rs) := by
  unfold generateDefaultBreaks breakJobs
  cases generated with
  | none => exact Takes.nil
  | some refills =>
      refine Takes.append (Takes.flatMap fun breakJob hjob => Takes.flatMap fun refill _ => ?_) ?_
      · rw [Option.mem_toList] at hjob
        rw [hjob]
        exact (takes_createEntry howner).conseq (fun _ h => h) fun _ h => ready_of_locked h
      · -- the row is held, so saving it takes nothing
        refine Takes.request (fun held h => .inl ⟨_, h.1 hrow, covers_self _⟩) fun held h => ?_
        refine ⟨subset_cons_of_subset h.1, ?_, h.2.2.cons (by simp)⟩
        refine h.2.1.imp (fun hheld => List.mem_cons_of_mem _ hheld) fun hbelow t ht => ?_
        rcases List.mem_cons.mp ht with rfl | ht
        · exact Prod.Lex.toLex_lt_toLex.mpr (.inl Nat.one_pos)
        · exact hbelow t ht

lemma takes_dropBreaksAfterFinish {dropped : List (ℕ × Option Refill)}
    (howner : owner ∈ operation.people) :
    Takes (Allowed operation) (Ready owner (breakJobs shop) rs)
      (dropBreaksAfterFinish shop costSets owner day dropped)
      (Ready owner (breakJobs shop) rs) := by
  unfold dropBreaksAfterFinish breakJobs
  refine Takes.flatMap fun breakJob hjob => Takes.flatMap fun line _ => ?_
  rw [Option.mem_toList] at hjob
  rw [hjob]
  refine (takes_deleteEntry howner ?_).conseq (fun _ h => h) fun _ h => ready_of_locked h
  rintro filled ⟨⟩

lemma takes_settleBreaks {change : ClockChange} (howner : owner ∈ operation.people)
    (hperson : forUpdate (.staff owner) ∈ rs) (hrow : forUpdate (.attendance owner day) ∈ rs) :
    Takes (Allowed operation) (Ready owner (breakJobs shop) rs)
      (settleBreaks shop costSets owner day change) fun held => rs ⊆ held := by
  have hrefill : Takes (Allowed operation) (Ready owner (breakJobs shop) rs)
      (refillGeneralWork shop costSets owner change.refill) fun held => rs ⊆ held :=
    (takes_refillGeneralWork howner hperson).conseq
      (fun _ h => ⟨h.1, allOrNone_of_subset h.2.2 (List.subset_append_right _ _)⟩) fun _ h => h
  exact ((takes_generateDefaultBreaks howner hrow).append
    (takes_dropBreaksAfterFinish howner)).append hrefill

lemma takes_setClockTimes {change : ClockChange} (howner : owner ∈ operation.people)
    (hday : (owner, day) ∈ operation.days) (hkind : operation.isClockIn = false) :
    Takes (Allowed operation) (Ready owner (breakJobs shop) rs)
      (setClockTimes shop costSets owner day change)
      fun held => forUpdate (.staff owner) :: rs ⊆ held := by
  set rs' : LockProgram := forUpdate (.attendance owner day) :: forUpdate (.staff owner) :: rs
  have hrow : Takes (Allowed operation)
      (fun held => forUpdate (.staff owner) :: rs ⊆ held ∧ AllOrNone held (breakJobs shop))
      [forUpdate (.attendance owner day)] (Ready owner (breakJobs shop) rs') := by
    refine Takes.request (fun held h => .inr ⟨hday, ?_⟩)
      fun held h => ⟨List.cons_subset_cons _ h.1, .inl ?_, h.2.cons (by simp)⟩
    · rw [hkind]
      exact h.1 List.mem_cons_self
    · exact List.mem_cons_of_mem _ (h.1 List.mem_cons_self)
  have hsettle : Takes (Allowed operation) (Ready owner (breakJobs shop) rs')
      (settleBreaks shop costSets owner day change) fun held => rs' ⊆ held :=
    takes_settleBreaks howner (by simp [rs']) (by simp [rs'])
  refine Takes.conseq (((takes_person howner).append hrow).append hsettle) (fun _ h => h) ?_
  exact fun _ h => List.subset_of_cons_subset h

/-! ## The operations -/

/-- Every person whose day it is is held, or may still be taken. -/
def PeopleReady (operation : Operation shop) (held : LockProgram) : Prop :=
  ∀ id ∈ operation.people, forUpdate (.staff id) ∈ held ∨ BelowAll held (.staff id)

lemma ready_nil : Ready owner jobIds [] [] :=
  ⟨List.nil_subset _, .inr (by simp [BelowAll]), .inr (by simp)⟩

lemma takes_of_owner {xs : LockProgram} (hpeople : operation.people = [owner])
    (h : Takes (Allowed operation) (Ready owner jobIds []) xs
      fun held => forUpdate (.staff owner) ∈ held) :
    Takes (Allowed operation) (· = []) xs (PeopleReady operation) := by
  refine h.conseq (fun held hnil => ?_) fun held hperson id hid => ?_
  · rw [hnil]
    exact ready_nil
  rw [hpeople, List.mem_singleton] at hid
  exact .inl (hid ▸ hperson)

lemma person_of_locked (h : locked owner jobIds ++ rs ⊆ held) : forUpdate (.staff owner) ∈ held :=
  h (by simp [locked])

lemma takes_clockIn {generated : Option (List (Option Refill))}
    (hpeople : operation.people = [owner]) (hday : (owner, day) ∈ operation.days)
    (hkind : operation.isClockIn = true) :
    Takes (Allowed operation) (· = []) (clockIn shop costSets owner day generated)
      (PeopleReady operation) := by
  have hrow : Takes (Allowed operation) (· = []) [forUpdate (.attendance owner day)]
      (Ready owner (breakJobs shop) [forUpdate (.attendance owner day)]) := by
    refine Takes.request (fun held hnil => .inr ⟨hday, ?_⟩) fun held hnil => ?_
    · rw [hkind]
      exact hnil
    · rw [hnil]
      refine ⟨List.Subset.refl _, .inr fun t ht => ?_, .inr fun t ht job => ?_⟩
      · rw [List.mem_singleton.mp ht]
        exact Prod.Lex.toLex_lt_toLex.mpr (.inl Nat.one_pos)
      · rw [List.mem_singleton.mp ht]
        simp [forUpdate]
  have hbreaks : Takes (Allowed operation)
      (Ready owner (breakJobs shop) [forUpdate (.attendance owner day)])
      (generateDefaultBreaks shop costSets owner day generated)
      (Ready owner (breakJobs shop) [forUpdate (.attendance owner day)]) :=
    takes_generateDefaultBreaks (by simp [hpeople]) (by simp)
  refine (hrow.append hbreaks).conseq (fun _ h => h) fun held h id hid => ?_
  rw [hpeople, List.mem_singleton] at hid
  exact hid ▸ h.2.1

lemma takes_sweepDay {swept : SweptDay} (howner : swept.person ∈ operation.people)
    (hday : (swept.person, swept.day) ∈ operation.days) (hkind : operation.isClockIn = false)
    (hperson : forUpdate (.staff swept.person) ∈ rs)
    (hbreaks : ∀ job ∈ breakJobs shop, forUpdate (.job job) ∈ rs)
    (hjobs : ∀ job ∈ swept.jobIds, forUpdate (.job job) ∈ rs) :
    Takes (Allowed operation) (fun held => rs ⊆ held) (sweepDay shop costSets swept)
      fun held => rs ⊆ held := by
  have hfill : Takes (Allowed operation) (fun held => rs ⊆ held)
      (setClockTimes shop costSets swept.person swept.day swept.fill) fun held => rs ⊆ held :=
    (takes_setClockTimes howner hday hkind).conseq
      (fun _ h => ⟨h, .inl (h hperson), .inl fun job hjob => h (hbreaks job hjob)⟩)
      fun _ h => List.subset_of_cons_subset h
  have happrove : Takes (Allowed operation) (fun held => rs ⊆ held)
      (approveDay costSets swept.person swept.jobIds swept.lines) fun held => rs ⊆ held :=
    (takes_approveDay howner).conseq
      (fun _ h => ⟨h, .inl (h hperson), .inl fun job hjob => h (hjobs job hjob)⟩)
      fun _ h => (List.append_subset.mp h).2
  have hsend : Takes (Allowed operation) (fun held => rs ⊆ held)
      [forUpdate (.attendance swept.person swept.day)] fun held => rs ⊆ held :=
    (takes_attendance hday hkind hperson).conseq (fun _ h => h)
      fun _ h => List.subset_of_cons_subset h
  exact (hfill.append happrove).append hsend

lemma takes_sweep {found : SweepFound shop} (hpeople : operation.people = found.people)
    (hdays : operation.days = found.days.map fun swept => (swept.person, swept.day))
    (hkind : operation.isClockIn = false) :
    Takes (Allowed operation) (· = []) (sweep shop costSets found) (PeopleReady operation) := by
  unfold sweep
  split
  · refine Takes.nil.conseq (fun _ h => h) fun held hnil id hid => .inr ?_
    rw [hnil]
    simp [BelowAll]
  · set people : LockProgram := found.people.map fun person => forUpdate (.staff person)
    set jobs : List ℕ := shop.generalWork.toList ++ shop.breakJob.toList ++ found.waiting
    set rs' : LockProgram := (jobs.map fun job => forUpdate (.job job)) ++ people
    have hstaff : Takes (Allowed operation) (· = [])
        ((found.people.dedup.insertionSort (· ≤ ·)).map fun person => forUpdate (.staff person))
        fun held => people ⊆ held ∧ AllOrNone held jobs := by
      intro held hnil
      rw [hnil]
      constructor
      · have hrows : Follows (Allowed operation) []
            (((found.people.dedup.insertionSort (· ≤ ·)).map Row.staff).map forUpdate) := by
          refine follows_ascending ?_ (by simp [BelowAll]) fun row hrow held' hbelow => ?_
          · refine List.pairwise_map.mpr ((strictly_ascending found.people).imp fun h => ?_)
            exact Prod.Lex.toLex_lt_toLex.mpr (.inr ⟨rfl, h⟩)
          · obtain ⟨person, hperson, rfl⟩ := List.mem_map.mp hrow
            rw [List.mem_insertionSort, List.mem_dedup] at hperson
            exact ⟨hpeople ▸ hperson, hbelow⟩
        rwa [List.map_map] at hrows
      · refine ⟨fun r hr => ?_, .inr fun t ht job => ?_⟩
        · obtain ⟨person, hperson, rfl⟩ := List.mem_map.mp hr
          refine List.mem_append_left _ (List.mem_reverse.mpr (List.mem_map_of_mem ?_))
          rwa [List.mem_insertionSort, List.mem_dedup]
        · rw [List.append_nil, List.mem_reverse] at ht
          obtain ⟨person, -, rfl⟩ := List.mem_map.mp ht
          simp [forUpdate]
    have hjobs : Takes (Allowed operation) (fun held => people ⊆ held ∧ AllOrNone held jobs)
        (lockCostingJobs costSets jobs) fun held => rs' ⊆ held := takes_lockCostingJobs
    have hheld : ∀ job ∈ jobs, forUpdate (.job job) ∈ rs' := fun job hjob =>
      List.mem_append_left _ (List.mem_map_of_mem hjob)
    have hdays : Takes (Allowed operation) (fun held => rs' ⊆ held)
        (found.days.flatMap (sweepDay shop costSets)) fun held => rs' ⊆ held := by
      refine Takes.flatMap fun swept hswept => ?_
      have hperson := found.person_mem swept hswept
      refine takes_sweepDay (hpeople ▸ hperson) (hdays ▸ List.mem_map_of_mem hswept) hkind ?_ ?_ ?_
      · exact List.mem_append_right _ (List.mem_map_of_mem hperson)
      · refine fun job hjob => hheld job ?_
        simp only [breakJobs, withGeneralWork, List.mem_append] at hjob
        simp only [jobs, List.mem_append]
        tauto
      · exact fun job hjob => hheld job (found.jobIds_mem swept hswept job hjob)
    refine ((hstaff.append hjobs).append hdays).conseq (fun _ h => h) fun held h id hid => .inl ?_
    rw [hpeople] at hid
    exact h (List.mem_append_right _ (List.mem_map_of_mem hid))

theorem Operation.takes_body (operation : Operation shop) :
    Takes (Allowed operation) (· = []) operation.body (PeopleReady operation) := by
  obtain ⟨actor, costSets, call⟩ := operation
  cases call with
  | clockIn day generated => exact takes_clockIn rfl (by simp [Operation.days]) rfl
  | setClockTimes owner day change =>
      refine takes_of_owner rfl ((takes_setClockTimes (by simp [Operation.people])
        (by simp [Operation.days]) rfl).conseq (fun _ h => h) fun _ h => h List.mem_cons_self)
  | createEntry owner job refill =>
      exact takes_of_owner rfl ((takes_createEntry (by simp [Operation.people])).conseq
        (fun _ h => h) fun _ h => person_of_locked h)
  | updateEntry owner job newJob id refills =>
      exact takes_of_owner rfl ((takes_updateEntry (by simp [Operation.people])).conseq
        (fun _ h => h) fun _ h => person_of_locked h)
  | deleteEntry owner day job id after =>
      refine takes_of_owner rfl ((takes_deleteEntry (by simp [Operation.people]) ?_).conseq
        (fun _ h => h) fun _ h => person_of_locked h)
      rintro filled rfl
      exact ⟨by simp [Operation.days], rfl⟩
  | approveDay worker jobIds lines =>
      exact takes_of_owner rfl ((takes_approveDay (by simp [Operation.people])).conseq
        (fun _ h => h) fun _ h => person_of_locked h)
  | sweep found => exact takes_sweep rfl rfl rfl

theorem Operation.follows_program (operation : Operation shop) :
    Follows (Allowed operation) [] operation.program := by
  have hcommit : Takes (Allowed operation) (PeopleReady operation)
      (if operation.records then [forKeyShare (.staff operation.actor)] else []) fun _ => True := by
    split
    · refine Takes.request (fun held hready => ?_) fun _ _ => trivial
      by_cases hself : operation.actor ∈ operation.people
      · rcases hready _ hself with hheld | hbelow
        · exact .inl ⟨_, hheld, rfl, .inl rfl⟩
        · exact .inr (.inr hbelow)
      · exact .inr (.inl ⟨rfl, hself⟩)
    · exact Takes.nil.conseq (fun _ h => h) fun _ _ => trivial
  exact (operation.takes_body.append hcommit [] rfl).1

/-! ## Waiting -/

variable {s s' : Parties (Operation shop) Row} {p q : Party (Operation shop) Row}

lemma known_of_sound (hs : Sound Operation.program s) (hp : p ∈ s.rows) :
    ∀ t ∈ p.taken, Known p.operation p.taken t := by
  have hfollows := p.operation.follows_program
  rw [← hs.prefixes p hp, follows_append] at hfollows
  simpa using known_of_follows hfollows.1

/-- **Waiting.**  What a waiting operation holds ranks below what it waits for. -/
theorem waits_above (hs : Sound Operation.program s) (hC : InFlight Operation.Compatible s)
    (hp : p ∈ s.rows) (hq : q ∈ s.rows) (hne : p.number ≠ q.number) {r t : Request Row}
    {rest : LockProgram} (hleft : p.left = r :: rest) (ht : t ∈ q.taken) (hconflict : r.Conflicts t) :
    BelowAll p.taken r.resource := by
  have hknown := known_of_sound hs hq t ht
  have hcompatible := hC p hp q hq hne
  -- a lock both of them would hold alone
  have hapart : ∀ row, forUpdate row ∈ p.taken → forUpdate row ∈ q.taken → False :=
    fun row hrow hrow' => hs.apart p hp q hq hne _ hrow _ hrow' ⟨rfl, .inl rfl⟩
  rcases hs.next hp hleft p.operation.follows_program with hcovered | hallowed
  · exact absurd hconflict (hs.not_conflicts_of_covered hp hq hne hcovered t ht)
  obtain ⟨row, mode⟩ := r
  obtain ⟨row', mode'⟩ := t
  obtain ⟨hrow, hmode⟩ := hconflict
  simp only at hrow hmode
  subst hrow
  cases row with
  | staff id =>
      cases mode with
      | exclusive => exact hallowed.2
      | shared =>
          rcases hallowed with ⟨hactor, hother⟩ | hbelow
          · -- the commit check: nobody under way holds the author of another's events
            have hmode : mode' = .exclusive := by simpa using hmode
            subst hmode
            exact absurd (hactor ▸ hcompatible.1 (hactor ▸ hknown)) hother
          · exact hbelow
  | job id =>
      cases mode with
      | exclusive => exact hallowed
      | shared => exact hallowed.elim
  | attendance owner day =>
      cases mode with
      | exclusive =>
          obtain ⟨hday, horder⟩ := hallowed
          split at horder
          · -- a clock-in asks for it first and holds nothing yet
            rw [horder]
            simp [BelowAll]
          · rename_i hkind
            rcases hcompatible.2.2 with heq | hdisjoint
            · rcases hknown.2 with hkind' | hperson
              · exact absurd (heq.trans hkind') hkind
              · exact (hapart _ horder hperson).elim
            · exact absurd hknown.1 (hdisjoint _ hday)
      | shared => exact hallowed.elim
  | costSet job id | line owner id =>
      cases mode with
      | exclusive => exact (hapart _ hallowed hknown).elim
      | shared => exact hallowed.elim

/-- The rank of what a party waits for. -/
def nextRank (s : Parties (Operation shop) Row) (number : ℕ) : ℕ ×ₗ ℕ :=
  match s.find? number with
  | some p => (p.left.head?.map fun r => r.resource.rank).getD (toLex (0, 0))
  | none => toLex (0, 0)

/-- **No deadlock.**  A run in which every operation begins beside compatible ones reaches no
circular wait. -/
theorem no_circular_wait {acts : List (Act (Operation shop))}
    (hcompatible :
      (step Operation.program).AllMeet (BeginsBeside Operation.Compatible) (atRest shop) acts)
    (hrun : (step Operation.program).run (atRest shop) acts = some s) : ¬ CircularWait s := by
  have hkept : Sound Operation.program s ∧ InFlight Operation.Compatible s := by
    refine Machine.run_keeps_of_meet (I := fun s : Parties (Operation shop) Row =>
      Sound Operation.program s ∧ InFlight Operation.Compatible s)
      (fun _ _ _ h hC hstep => ⟨h.1.step hstep, h.2.step hC hstep⟩)
      ⟨sound_empty, fun _ h => by simp at h⟩ hcompatible hrun
  obtain ⟨hs, hC⟩ := hkept
  refine not_circularWait_of_rank (nextRank s) ?_
  rintro i j k ⟨p, hp, q, hq, rfl, rfl, hij, r, hr, t, ht, hconflict⟩
    ⟨q', hq', u, hu, hqq', rfl, hjk, r', hr', t', ht', hconflict'⟩
  obtain rfl : q' = q := Table.eq_of_key_eq hq' hq hqq'
  obtain ⟨rest, hleft⟩ := List.head?_eq_some_iff.mp hr
  obtain ⟨rest', hleft'⟩ := List.head?_eq_some_iff.mp hr'
  have hbelow := waits_above hs hC hq' hu hjk hleft' ht' hconflict' t ht
  have hrank : nextRank s p.number = t.resource.rank := by
    rw [nextRank, Table.find?_of_mem hp, ← hconflict.1]
    simp [hleft]
  have hrank' : nextRank s q'.number = r'.resource.rank := by
    rw [nextRank, Table.find?_of_mem hq']
    simp [hleft']
  rw [hrank, hrank']
  exact hbelow

/-! ### A workshop -/

/-- General work is job 1 and breaks are on job 2. -/
def workshop : ShopJobs := ⟨some 1, some 2⟩

/-- A call made when no job has a cost set yet. -/
def called (actor : ℕ) (call : Call workshop) : Operation workshop := ⟨actor, fun _ => [], call⟩

/-- One man clocks in while another enters time on job 3; the office approves the first one's day
once he is done. -/
def quietMorning : List (Act (Operation workshop)) :=
  [.start 1 (called 5 (.clockIn 100 (some [none, none]))),
    .start 2 (called 6 (.createEntry 6 3 none)), .take 1, .take 2, .take 1, .take 2, .take 2,
    .finish 2, .take 1, .take 1, .finish 1,
    .start 3 (called 7 (.approveDay 5 [2] [20, 21])), .take 3, .take 3]

theorem no_circular_wait_on_a_quiet_morning :
    ∃ s, (step Operation.program).run (atRest workshop) quietMorning = some s ∧
      ¬ CircularWait s := by
  have hruns : ((step Operation.program).run (atRest workshop) quietMorning).isSome = true := by
    decide +kernel
  obtain ⟨s, hrun⟩ := Option.isSome_iff_exists.mp hruns
  have hcompatible : (step Operation.program).AllMeet (BeginsBeside Operation.Compatible)
      (atRest workshop) quietMorning := by
    decide +kernel
  exact ⟨s, hrun, no_circular_wait hcompatible hrun⟩

/-- A man clocks in while his times for the day are being set: the clock-in has inserted the day's
row and goes for his lock, the other has his lock and goes for the row. -/
def clockInBesideSetTimes : List (Act (Operation workshop)) :=
  [.start 1 (called 5 (.clockIn 100 (some [none]))),
    .start 2 (called 7 (.setClockTimes 5 100 ⟨some [none], [], none⟩)), .take 1, .take 2]

/-- The office man 5 approves the day of 6 while his own entry on the same job is being saved: the
approval has the job and looks up its author at its commit, the entry has him and goes for the
job. -/
def approvalBesideOwnEntry : List (Act (Operation workshop)) :=
  [.start 1 (called 5 (.approveDay 6 [3] [20])), .start 2 (called 5 (.createEntry 5 3 none)),
    .take 1, .take 1, .take 1, .take 2, .take 2]

lemma circularWait_of_pair {s : Parties (Operation workshop) Row}
    (h : decide (WaitsFor s 1 2 ∧ WaitsFor s 2 1) = true) : CircularWait s := by
  obtain ⟨hone, htwo⟩ := of_decide_eq_true h
  exact ⟨1, .trans (.single hone) (.single htwo)⟩

/-- **Deadlocks.**  Both runs end with each of the two operations waiting for the other. -/
theorem clock_in_deadlocks :
    (∃ s, (step Operation.program).run (atRest workshop) clockInBesideSetTimes = some s ∧
      CircularWait s) ∧
    ∃ s, (step Operation.program).run (atRest workshop) approvalBesideOwnEntry = some s ∧
      CircularWait s := by
  constructor
  · have hwaits : ((step Operation.program).run (atRest workshop) clockInBesideSetTimes).any
        (fun s => decide (WaitsFor s 1 2 ∧ WaitsFor s 2 1)) = true := by
      decide +kernel
    obtain ⟨s, hrun, hpair⟩ := (Option.any_eq_true _ _).mp hwaits
    exact ⟨s, hrun, circularWait_of_pair hpair⟩
  · have hwaits : ((step Operation.program).run (atRest workshop) approvalBesideOwnEntry).any
        (fun s => decide (WaitsFor s 1 2 ∧ WaitsFor s 2 1)) = true := by
      decide +kernel
    obtain ⟨s, hrun, hpair⟩ := (Option.any_eq_true _ _).mp hwaits
    exact ⟨s, hrun, circularWait_of_pair hpair⟩

end DayLocks

end Timesheet

end Docketworks
