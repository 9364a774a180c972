import Docketworks.Job.JobWork

/-!
# The events of a job tell its status

Replaying the events of a job gives the status its row had, at every instant of every run of the
operations (`_replay_status_as_of` of `apps/accounting/services/sales_pipeline_service.py` over the events
of `apps/job/models/job.py`).

* `replay_save` — a save records its status where the replay looks for it, or leaves it.
* `Follows` — what an operation adds: events of its own instant, and as true a history.
* `events_replay_to_the_status` — every instant of a run in which `create_job` creates the jobs.
* `special_job_has_no_history` — a job of `create_special_job` has a status and no events.
-/

namespace Docketworks

open Library Kanban

namespace JobRecord

open Accounting

/-! ## One save -/

section Save

variable {original self : JobRow} {updateFields : Option (List JobField)} {enrichment : Enrichment}
  {changed : List JobField} {top : ℚ} {now : ℤ}

lemma cellValue?_map_cell {row : JobRow} {field : JobField} {fields : List JobField} :
    cellValue? field (fields.map row.cell) = if field ∈ fields then some (row.value field) else none := by
  induction fields with
  | nil => rfl
  | cons other fields ih =>
      by_cases h : other = field
      · subst h
        simp [cellValue?, JobRow.cell]
      · have h' : ¬field = other := fun heq => h heq.symm
        simp [cellValue?, JobRow.cell, h, h', ih]

lemma recordChangeEvent_status {event : JobEvent}
    (h : recordChangeEvent original self changed enrichment now = some event) :
    event.job = self.id ∧ event.timestamp = now ∧ event.reported.status =
      if JobField.status ∈ changed then some (some (JobStatus.key (self.value .status))) else none := by
  unfold recordChangeEvent at h
  dsimp only at h
  split at h
  · cases h
  · obtain rfl := Option.some.inj h
    refine ⟨rfl, rfl, ?_⟩
    unfold JobEvent.reported
    dsimp only
    rw [cellValue?_map_cell]
    split <;> rfl

/-- **A changed status** is recorded under a type the replay reads. -/
lemma recordChangeEvent_of_status (hstatus : JobField.status ∈ changed)
    (henrichment : enrichment.eventTypeOverride = none ∨
      enrichment.eventTypeOverride = some .quoteAccepted) :
    ∃ event, recordChangeEvent original self changed enrichment now = some event ∧
      (event.eventType = .statusChanged ∨ event.eventType = .quoteAccepted ∨
        event.eventType = .jobRejected) := by
  have htypes : (eventTypes original self changed).contains .statusChanged = true := by
    rw [List.contains_iff_mem]
    exact List.mem_filterMap.mpr ⟨.status, hstatus, rfl⟩
  have htype : enrichment.eventTypeOverride.getD
      (inferEventType (eventTypes original self changed) changed self) = .statusChanged ∨
      enrichment.eventTypeOverride.getD
        (inferEventType (eventTypes original self changed) changed self) = .quoteAccepted ∨
      enrichment.eventTypeOverride.getD
        (inferEventType (eventTypes original self changed) changed self) = .jobRejected := by
    rcases henrichment with hnone | haccepted
    · rw [hnone, Option.getD_none]
      unfold inferEventType
      rw [htypes]
      split
      · exact .inr (.inr rfl)
      · exact .inl rfl
    · rw [haccepted]
      exact .inr (.inl rfl)
  unfold recordChangeEvent
  dsimp only
  generalize enrichment.eventTypeOverride.getD
    (inferEventType (eventTypes original self changed) changed self) = type at htype
  have hpriority : type ≠ .priorityChanged := by
    rcases htype with rfl | rfl | rfl <;> decide
  simp only [hpriority, decide_false, Bool.false_and, Bool.false_eq_true, if_false]
  exact ⟨_, rfl, htype⟩

lemma event_of_save {event : JobEvent}
    (h : (self.save original updateFields enrichment top now).event = some event) :
    event.job = self.id ∧ event.timestamp = now := by
  simp only [JobRow.save] at h
  split at h
  · cases h
  · obtain ⟨hjob, htime, -⟩ := recordChangeEvent_status h
    exact ⟨hjob, htime⟩

/-- **A save** brings the replay of its job from the status before it to the status after it. -/
lemma replay_save (henrichment : enrichment.eventTypeOverride = none ∨
      enrichment.eventTypeOverride = some .quoteAccepted) :
    ((self.save original updateFields enrichment top now).event.toList.map JobEvent.reported).foldl
        replayEvent (true, some (JobStatus.key (original.value .status))) =
      (true, some (JobStatus.key
        (((self.save original updateFields enrichment top now).over original).value .status))) := by
  have hover := @value_over original self updateFields enrichment top now original .status
    (by decide) nofun nofun
  have hmem := @mem_detectFieldChanges original self (updateFields.map withUpdatedAt)
    enrichment.priorityPosition.isSome .status (by decide) (by decide)
  rw [all_contains_withUpdatedAt (by decide)] at hmem
  rw [hover]
  by_cases hstatus : JobField.status ∈ detectFieldChanges original self (updateFields.map withUpdatedAt)
      enrichment.priorityPosition.isSome
  · -- the event carries the new status
    obtain ⟨event, hevent, htype⟩ := @recordChangeEvent_of_status original self _ _ now hstatus henrichment
    obtain ⟨-, -, hrecorded⟩ := recordChangeEvent_status hevent
    rw [if_pos hstatus] at hrecorded
    have hsaved : (self.save original updateFields enrichment top now).event = some event := by
      simp only [JobRow.save]
      rw [if_neg (List.ne_nil_of_mem hstatus), hevent]
    rw [hsaved, if_pos (hmem.mp hstatus).1]
    simp only [Option.toList_some, List.map_cons, List.map_nil, List.foldl_cons, List.foldl_nil]
    have htype' : event.reported.eventType = event.eventType := rfl
    unfold replayEvent
    rw [htype', hrecorded]
    rcases htype with htype | htype | htype <;> rw [htype]
  · -- an event there may be carries no status, and the status stays
    have hsame : (if updateFields.all fun fields => fields.contains .status then self.value .status
        else original.value .status) = original.value .status := by
      split
      · rename_i hall
        exact (not_not.mp fun hne => hstatus (hmem.mpr ⟨hall, hne⟩)).symm
      · rfl
    rw [hsame]
    cases hevent : (self.save original updateFields enrichment top now).event with
    | none => rfl
    | some event =>
        have hrecorded : event.reported.status = none := by
          simp only [JobRow.save] at hevent
          split at hevent
          · cases hevent
          · rw [(recordChangeEvent_status hevent).2.2, if_neg hstatus]
        simp only [Option.toList_some, List.map_cons, List.map_nil, List.foldl_cons, List.foldl_nil]
        unfold replayEvent
        rw [hrecorded]
        split <;> simp_all

end Save

/-! ## What an operation adds -/

section Steps

variable {desk desk' desk'' : JobDesk} {now : ℤ} {job : ℕ}

def JobDesk.recorded (desk : JobDesk) (job : ℕ) : List PipelineEvent :=
  (desk.events.filter fun event => event.job = job).map JobEvent.reported

/-- The replay of every job ends at its status, and there are no events of a job that is not there. -/
def JobDesk.Replayed (desk : JobDesk) : Prop :=
  ∀ job, (desk.recorded job).foldl replayEvent (false, none) =
    ((desk.jobs.find? job).isSome, desk.statusOf job)

/-- What an operation adds: events of its own instant, and as true a history. -/
structure Follows (now : ℤ) (desk desk' : JobDesk) : Prop where
  events : ∃ added, desk'.events = desk.events ++ added ∧ ∀ event ∈ added, event.timestamp = now
  replayed : desk.Replayed → desk'.Replayed

lemma Follows.refl : Follows now desk desk :=
  ⟨⟨[], (List.append_nil _).symm, fun _ h => absurd h List.not_mem_nil⟩, id⟩

lemma Follows.trans (h : Follows now desk desk') (h' : Follows now desk' desk'') :
    Follows now desk desk'' := by
  obtain ⟨added, hadded, htime⟩ := h.events
  obtain ⟨added', hadded', htime'⟩ := h'.events
  refine ⟨⟨added ++ added', by rw [hadded', hadded, List.append_assoc], fun event hevent => ?_⟩,
    fun hreplayed => h'.replayed (h.replayed hreplayed)⟩
  rcases List.mem_append.mp hevent with hold | hnew
  · exact htime event hold
  · exact htime' event hnew

lemma recorded_append {events : List JobEvent} (h : desk'.events = desk.events ++ events)
    (howner : ∀ event ∈ events, event.job = job) (other : ℕ) :
    desk'.recorded other =
      desk.recorded other ++ if job = other then events.map JobEvent.reported else [] := by
  unfold JobDesk.recorded
  rw [h, List.filter_append, List.map_append]
  congr 1
  split
  · rename_i heq
    rw [List.filter_eq_self.mpr fun event hevent => decide_eq_true ((howner event hevent).trans heq)]
  · rename_i hne
    rw [List.filter_eq_nil_iff.mpr fun event hevent hown =>
      hne ((howner event hevent).symm.trans (of_decide_eq_true hown)), List.map_nil]

lemma follows_saveJob {self : JobRow} {updateFields : Option (List JobField)} {enrichment : Enrichment}
    (henrichment : enrichment.eventTypeOverride = none ∨
      enrichment.eventTypeOverride = some .quoteAccepted)
    (h : desk.saveJob now self updateFields enrichment = some desk') : Follows now desk desk' := by
  obtain ⟨original, horiginal, rfl⟩ := Option.map_eq_some_iff.mp h
  have howner : ∀ event ∈ (self.save original updateFields enrichment
      (desk.maxPriority fun _ => true) now).event.toList, event.job = self.id ∧ event.timestamp = now :=
    fun event hevent => event_of_save (Option.mem_toList.mp hevent)
  have hkey : original.id = self.id := Table.key_of_find? horiginal
  refine ⟨⟨_, rfl, fun event hevent => (howner event hevent).2⟩, fun hreplayed job => ?_⟩
  rw [@recorded_append desk _ _ _ rfl (fun event hevent => (howner event hevent).1) job,
    List.foldl_append, hreplayed job]
  by_cases hjob : self.id = job
  · obtain rfl := hjob
    rw [if_pos rfl]
    have hput : (desk.jobs.put ((self.save original updateFields enrichment
        (desk.maxPriority fun _ => true) now).over original)).find? self.id =
        some ((self.save original updateFields enrichment
          (desk.maxPriority fun _ => true) now).over original) := by
      have hfound : desk.jobs.find? ((self.save original updateFields enrichment
          (desk.maxPriority fun _ => true) now).over original).id = some original :=
        (congrArg desk.jobs.find? hkey).trans horiginal
      have hself := Table.find?_put_self hfound
      rwa [show ((self.save original updateFields enrichment
        (desk.maxPriority fun _ => true) now).over original).id = self.id from hkey] at hself
    unfold JobDesk.statusOf
    dsimp only
    rw [hput, horiginal]
    exact replay_save henrichment
  · rw [if_neg hjob, List.foldl_nil]
    unfold JobDesk.statusOf
    dsimp only
    have hne : job ≠ ((self.save original updateFields enrichment
        (desk.maxPriority fun _ => true) now).over original).id :=
      fun heq => hjob (hkey.symm.trans heq.symm)
    rw [Table.find?_put_of_ne hne]

lemma follows_createJob {row : JobRow} (h : desk.createJob now row = some desk') :
    Follows now desk desk' := by
  obtain ⟨inserted, hinserted, rfl⟩ := Option.map_eq_some_iff.mp h
  obtain ⟨jobs, hjobs, rfl⟩ := Option.map_eq_some_iff.mp hinserted
  refine ⟨⟨_, rfl, fun event hevent => ?_⟩, fun hreplayed job => ?_⟩
  · rw [List.mem_singleton.mp hevent]
    rfl
  rw [@recorded_append desk _ row.id _ rfl (fun event hevent => by
      rw [List.mem_singleton.mp hevent]; rfl) job, List.foldl_append, hreplayed job]
  by_cases hjob : row.id = job
  · obtain rfl := hjob
    have hnone := Table.find?_of_insert? hjobs
    have hself := Table.find?_insert?_self hjobs
    simp only [id_set] at hnone hself
    unfold JobDesk.statusOf
    rw [if_pos rfl, hself]
    have hstatus : ((row.set ⟨.status, .draft⟩).set ⟨.priority, desk.nextPriority .draft⟩).value .status =
        .draft := (value_set_of_ne (fun h => JobField.noConfusion h)).trans value_set_self
    simp only [Option.map_some, hstatus]
    rfl
  · unfold JobDesk.statusOf
    rw [if_neg hjob, List.foldl_nil]
    dsimp only
    rw [Table.find?_insert?_of_ne hjobs (fun heq => hjob heq.symm)]

lemma follows_saveAll {write : JobRow → JobRow} {rows : List JobRow}
    (h : desk.saveAll now write rows = some desk') : Follows now desk desk' := by
  induction rows generalizing desk with
  | nil => exact Option.some.inj h ▸ .refl
  | cons row rows ih =>
      obtain ⟨saved, hsaved, hrest⟩ := Option.bind_eq_some_iff.mp h
      exact (follows_saveJob (.inl rfl) hsaved).trans (ih hrest)

lemma follows_updateJob {delta : JobDesk.JobDelta} (h : desk.updateJob now job delta = some desk') :
    Follows now desk desk' := by
  obtain ⟨row, -, h⟩ := Option.bind_eq_some_iff.mp h
  obtain ⟨-, -, h⟩ := Option.bind_eq_some_iff.mp h
  obtain ⟨self, -, h⟩ := Option.bind_eq_some_iff.mp h
  obtain ⟨saved, hsaved, h⟩ := Option.bind_eq_some_iff.mp h
  have hfollows := follows_saveJob (.inl rfl) hsaved
  split at h
  · exact hfollows.trans (follows_saveJob (.inl rfl) h)
  · exact Option.some.inj h ▸ hfollows

/-- **An operation** other than the creation of a special job. -/
lemma follows_perform {operation : JobOperation} (hcreated : ∀ row, operation ≠ .specialJobCreated row)
    (h : desk.perform now operation = some desk') : Follows now desk desk' := by
  cases operation with
  | jobCreated row => exact follows_createJob h
  | specialJobCreated row => exact absurd rfl (hcreated row)
  | jobUpdated job delta => exact follows_updateJob h
  | changeUndone job changeId undoChangeId =>
      obtain ⟨event, -, h⟩ := Option.bind_eq_some_iff.mp h
      obtain ⟨-, -, h⟩ := Option.bind_eq_some_iff.mp h
      obtain ⟨before, -, h⟩ := Option.bind_eq_some_iff.mp h
      exact follows_updateJob h
  | statusUpdated job status =>
      obtain ⟨row, -, h⟩ := Option.bind_eq_some_iff.mp h
      exact follows_saveJob (.inl rfl) h
  | reordered job status priority position =>
      obtain ⟨row, -, h⟩ := Option.bind_eq_some_iff.mp h
      cases status with
      | none => exact follows_saveJob (.inl rfl) h
      | some status =>
          dsimp only at h
          split at h
          · exact follows_saveJob (.inl rfl) h
          · exact follows_saveJob (.inl rfl) h
  | quoteAccepted job =>
      obtain ⟨row, -, h⟩ := Option.bind_eq_some_iff.mp h
      obtain ⟨-, -, h⟩ := Option.bind_eq_some_iff.mp h
      exact follows_saveJob (.inr rfl) h
  | autoArchived threshold => exact follows_saveAll h
  | paidFlagsUpdated settled => exact follows_saveAll h
  | columnsSaved job cells updateFields =>
      obtain ⟨row, -, h⟩ := Option.bind_eq_some_iff.mp h
      exact follows_saveJob (.inl rfl) h

end Steps

/-! ## Runs -/

def JobDesk.opened (clock : ℤ) : JobDesk := ⟨.empty, [], clock⟩

/-- The operation does not create a job without an event. -/
def TimedOperation.isRecorded (timed : TimedOperation) : Bool :=
  match timed.operation with
  | .specialJobCreated _ => false
  | _ => true

section Runs

variable {s s' u : JobDesk} {timed : TimedOperation} {operations : List TimedOperation}

lemma jobWork_eq_some (hrecorded : timed.isRecorded = true) (h : jobWork s timed = some s') :
    s.clock < timed.instant ∧ s'.clock = timed.instant ∧ Follows timed.instant s s' := by
  unfold jobWork at h
  split at h
  · rename_i hlater
    obtain ⟨desk, hdesk, rfl⟩ := Option.map_eq_some_iff.mp h
    have hcreated : ∀ row, timed.operation ≠ .specialJobCreated row := by
      rintro row hrow
      simp [TimedOperation.isRecorded, hrow] at hrecorded
    obtain ⟨hevents, hreplayed⟩ := follows_perform hcreated hdesk
    exact ⟨hlater, rfl, hevents, hreplayed⟩
  · cases h

lemma clock_lt_instant (hrun : jobWork.run s operations = some u) :
    ∀ timed ∈ operations, s.clock < timed.instant := by
  induction operations generalizing s with
  | nil => simp
  | cons first operations ih =>
      obtain ⟨s', hstep, hrest⟩ := Machine.run_cons_eq_some.mp hrun
      unfold jobWork at hstep
      split at hstep
      · rename_i hlater
        obtain ⟨desk, -, rfl⟩ := Option.map_eq_some_iff.mp hstep
        intro timed htimed
        rcases List.mem_cons.mp htimed with rfl | htail
        · exact hlater
        · exact hlater.trans (ih hrest timed htail)
      · cases hstep

/-- **A run** adds the events of its instants, in their order, and keeps the history true. -/
lemma run_adds (hrecorded : ∀ timed ∈ operations, timed.isRecorded = true) (hs : s.Replayed)
    (hrun : jobWork.run s operations = some u) :
    u.Replayed ∧ ∃ added, u.events = s.events ++ added ∧
      added.Pairwise (fun a b => a.timestamp ≤ b.timestamp) ∧
      ∀ event ∈ added, ∃ timed ∈ operations, event.timestamp = timed.instant := by
  induction operations generalizing s with
  | nil =>
      obtain rfl := Option.some.inj hrun
      exact ⟨hs, [], (List.append_nil _).symm, .nil, fun _ h => absurd h List.not_mem_nil⟩
  | cons first operations ih =>
      obtain ⟨s', hstep, hrest⟩ := Machine.run_cons_eq_some.mp hrun
      obtain ⟨-, hclock, hfollows⟩ := jobWork_eq_some (hrecorded first List.mem_cons_self) hstep
      obtain ⟨added, hadded, hnow⟩ := hfollows.events
      obtain ⟨hu, later, hlater, hordered, htimes⟩ :=
        ih (fun timed h => hrecorded timed (List.mem_cons_of_mem first h)) (hfollows.replayed hs) hrest
      have hafter := clock_lt_instant hrest
      refine ⟨hu, added ++ later, by rw [hlater, hadded, List.append_assoc], ?_, fun event hevent => ?_⟩
      · refine List.pairwise_append.mpr ⟨?_, hordered, fun a ha b hb => ?_⟩
        · exact List.Pairwise.imp_of_mem (R := fun _ _ => True)
            (fun ha hb _ => ((hnow _ ha).trans (hnow _ hb).symm).le) (List.pairwise_of_forall fun _ _ => trivial)
        · obtain ⟨timed, htimed, hb'⟩ := htimes b hb
          rw [hnow a ha, hb', ← hclock]
          exact (hafter timed htimed).le
      · rcases List.mem_append.mp hevent with hfirst | hrest'
        · exact ⟨first, List.mem_cons_self, hnow event hfirst⟩
        · obtain ⟨timed, htimed, heq⟩ := htimes event hrest'
          exact ⟨timed, List.mem_cons_of_mem first htimed, heq⟩

lemma replayed_opened {clock : ℤ} : (JobDesk.opened clock).Replayed := fun _ => rfl

lemma eventsOf_eq_recorded (h : u.events.Pairwise fun a b => a.timestamp ≤ b.timestamp) (job : ℕ) :
    u.eventsOf job = u.recorded job :=
  List.Pairwise.insertionSort_eq (List.pairwise_map.mpr (h.filter _))

/-- **The events tell the status.**  In every run in which jobs are created by `create_job`, replaying the
events of a job up to an instant gives the status its row had at that instant: after the operations up to
it. -/
theorem events_replay_to_the_status {start : ℤ}
    (hrecorded : ∀ timed ∈ operations, timed.isRecorded = true)
    (hrun : jobWork.run (.opened start) operations = some u) (instant : ℤ) :
    ∃ s, jobWork.run (.opened start) (operations.takeWhile fun timed => timed.instant ≤ instant) = some s ∧
      ∀ job, replayStatusAsOf (u.eventsOf job) instant = s.statusOf job := by
  have hsplit := List.takeWhile_append_dropWhile (p := fun timed => decide (timed.instant ≤ instant))
    (l := operations)
  rw [← hsplit] at hrun hrecorded
  obtain ⟨s, hbefore, hafter⟩ := Machine.run_append_eq_some.mp hrun
  refine ⟨s, hbefore, fun job => ?_⟩
  obtain ⟨hs, events, hevents, hordered, htimes⟩ := run_adds
    (fun timed h => hrecorded timed (List.mem_append_left _ h)) replayed_opened hbefore
  obtain ⟨-, later, hlater, hordered', htimes'⟩ := run_adds
    (fun timed h => hrecorded timed (List.mem_append_right _ h)) hs hafter
  rw [show (JobDesk.opened start).events = [] from rfl, List.nil_append] at hevents
  -- the events up to the instant are those of the first part
  have hpast : ∀ event ∈ s.events, event.timestamp ≤ instant := by
    intro event hevent
    obtain ⟨timed, htimed, heq⟩ := htimes event (hevents ▸ hevent)
    rw [heq]
    exact of_decide_eq_true (List.all_eq_true.mp List.all_takeWhile timed htimed)
  have hfuture : ∀ event ∈ later, instant < event.timestamp := by
    intro event hevent
    obtain ⟨timed, htimed, heq⟩ := htimes' event hevent
    rw [heq]
    cases hrest : operations.dropWhile fun timed => decide (timed.instant ≤ instant) with
    | nil => rw [hrest] at htimed; cases htimed
    | cons first rest =>
        have hfirst : instant < first.instant := by
          have hnot := List.head?_dropWhile_not (fun timed : TimedOperation =>
            decide (timed.instant ≤ instant)) operations
          simpa [hrest] using hnot
        rw [hrest] at htimed hafter
        obtain ⟨s', hstep, hrest'⟩ := Machine.run_cons_eq_some.mp hafter
        have hclock : s'.clock = first.instant := by
          unfold jobWork at hstep
          split at hstep
          · obtain ⟨desk, -, rfl⟩ := Option.map_eq_some_iff.mp hstep
            rfl
          · cases hstep
        rcases List.mem_cons.mp htimed with rfl | htail
        · exact hfirst
        · exact hfirst.trans (hclock ▸ clock_lt_instant hrest' timed htail)
  have hall : u.events.Pairwise fun a b => a.timestamp ≤ b.timestamp := by
    rw [hlater]
    exact List.pairwise_append.mpr ⟨hevents ▸ hordered, hordered', fun a ha b hb =>
      (hpast a ha).trans (hfuture b hb).le⟩
  have hrecorded' : u.recorded job = s.recorded job ++
      (later.filter fun event => event.job = job).map JobEvent.reported := by
    unfold JobDesk.recorded
    rw [hlater, List.filter_append, List.map_append]
  have htake : (u.recorded job).takeWhile (fun event => event.timestamp ≤ instant) = s.recorded job := by
    rw [hrecorded', List.takeWhile_append_of_pos]
    · cases hlate : (later.filter fun event => event.job = job).map JobEvent.reported with
      | nil => simp
      | cons event events =>
          have hmem : event ∈ (later.filter fun event => event.job = job).map JobEvent.reported := by
            rw [hlate]
            exact List.mem_cons_self
          obtain ⟨late, hlate', rfl⟩ := List.mem_map.mp hmem
          have hlate'' := hfuture late (List.mem_filter.mp hlate').1
          have hnot : decide (late.reported.timestamp ≤ instant) = false :=
            decide_eq_false (not_le.mpr hlate'')
          simp [hnot]
    · intro event hevent
      obtain ⟨past, hpast', rfl⟩ := List.mem_map.mp hevent
      exact decide_eq_true (hpast past (List.mem_filter.mp hpast').1)
  rw [eventsOf_eq_recorded hall]
  unfold replayStatusAsOf
  dsimp only
  rw [htake, hs job]
  unfold JobDesk.statusOf
  cases s.jobs.find? job <;> rfl

end Runs

/-! ## A job without a beginning -/

section Examples

/-- A job quoted, accepted and rejected. -/
def plainRun : List TimedOperation :=
  [⟨10, .jobCreated (plainJob 7)⟩, ⟨20, .jobUpdated 7 ⟨some 1, [.status], [⟨.status, .awaitingApproval⟩]⟩⟩,
    ⟨30, .changeUndone 7 1 2⟩, ⟨40, .quoteAccepted 7⟩,
    ⟨50, .jobUpdated 7 ⟨some 3, [.status, .rejectedFlag], [⟨.status, .archived⟩, ⟨.rejectedFlag, true⟩]⟩⟩]

/-- The events of that job tell its status before the quote is accepted. -/
theorem events_replay_to_the_status_plain :
    ∃ u, jobWork.run (.opened 0) plainRun = some u ∧
      ∃ s, jobWork.run (.opened 0) (plainRun.takeWhile fun timed => timed.instant ≤ 35) = some s ∧
        ∀ job, replayStatusAsOf (u.eventsOf job) 35 = s.statusOf job := by
  obtain ⟨u, hu⟩ := Option.isSome_iff_exists.mp
    (show (jobWork.run (.opened 0) plainRun).isSome = true by decide +kernel)
  exact ⟨u, hu, events_replay_to_the_status (by decide +kernel) hu 35⟩

/-- A job of `create_special_job` has no event to replay. -/
theorem special_job_has_no_history :
    ∃ u, jobWork.run (.opened 0) [⟨10, .specialJobCreated (plainJob 7)⟩] = some u ∧
      u.statusOf 7 = some "special" ∧ replayStatusAsOf (u.eventsOf 7) 10 = none := by
  obtain ⟨u, hu, hstatus⟩ := Option.any_eq_true _ _ |>.mp
    (show ((jobWork.run (.opened 0) [⟨10, .specialJobCreated (plainJob 7)⟩]).any fun u =>
      decide (u.statusOf 7 = some "special" ∧ replayStatusAsOf (u.eventsOf 7) 10 = none)) = true by
      decide +kernel)
  exact ⟨u, hu, of_decide_eq_true hstatus⟩

end Examples

end JobRecord

end Docketworks
