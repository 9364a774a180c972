import Mathlib.Data.Finset.Max
import Mathlib.Data.List.TakeWhile
import Docketworks.Accounting.SalesPipeline

/-!
# The narrowed fetch of the sales pipeline report

When the sections computed from the fetched events are those computed from every event of every job
(`apps/accounting/services/sales_pipeline_service.py`).

* `IgnoresOthers` — what is computed from the events of a job does not read those of other types.
* `QuietSince` — a job without a relevant event since the fetch start adds nothing but to the snapshot and the
  hours in the pipeline.
* `LatestEventCarriesStage` — the latest event of a quiet job in the pipeline says so.
* `narrowed_report_exact_iff` — the report is that of every event, and every job in the pipeline is fetched,
  exactly where it does.
* `silent_rejection_hides_a_job` — a rejection without a status is the last event of a waiting job.
-/

namespace Docketworks.Accounting

open Library JobRecord

/-! ## Events of other types -/

section Filters

variable {l : List PipelineEvent} {p q : PipelineEvent → Bool}

lemma takeWhile_eq_filter (h : l.Pairwise fun a b => q b = true → q a = true) :
    l.takeWhile q = l.filter q := by
  induction l with
  | nil => rfl
  | cons a l ih =>
      obtain ⟨hhead, htail⟩ := List.pairwise_cons.mp h
      cases hq : q a with
      | true => rw [List.takeWhile_cons_of_pos hq, List.filter_cons_of_pos hq, ih htail]
      | false =>
          have hnot : ¬q a = true := by simp [hq]
          rw [List.takeWhile_cons_of_neg hnot, List.filter_cons_of_neg hnot]
          refine (List.filter_eq_nil_iff.mpr fun b hb hqb => ?_).symm
          exact hnot (hhead b hb hqb)

lemma takeWhile_filter (h : l.Pairwise fun a b => q b = true → q a = true) :
    (l.filter p).takeWhile q = (l.takeWhile q).filter p := by
  rw [takeWhile_eq_filter (h.filter p), takeWhile_eq_filter h, List.filter_filter, List.filter_filter]
  exact List.filter_congr fun a _ => Bool.and_comm _ _

lemma find?_filter_of_imp (h : ∀ a, q a = true → p a = true) : (l.filter p).find? q = l.find? q := by
  rw [List.find?_filter]
  refine congrArg (fun test => l.find? test) (funext fun a => ?_)
  cases hq : q a with
  | true => simp [h a hq]
  | false => simp

lemma any_filter_of_imp (h : ∀ a, q a = true → p a = true) : (l.filter p).any q = l.any q := by
  rw [List.any_filter]
  refine congrArg (fun test => l.any test) (funext fun a => ?_)
  cases hq : q a with
  | true => simp [h a hq]
  | false => simp

lemma filter_filter_of_imp (h : ∀ a, q a = true → p a = true) : (l.filter p).filter q = l.filter q := by
  rw [List.filter_filter]
  refine List.filter_congr fun a _ => ?_
  cases hq : q a with
  | true => simp [h a hq]
  | false => simp

end Filters

section Events

variable {events : List PipelineEvent} {event : PipelineEvent} {status : String} {instant start finish : ℤ}

lemma isRelevant_of_approves (h : approves event = true) : isRelevant event = true := by
  simp only [approves, Bool.or_eq_true, Bool.and_eq_true, decide_eq_true_eq] at h
  rcases h with h | h
  · simp [isRelevant, isRelevantType, h]
  · simp [isRelevant, isRelevantType, h.1]

lemma isRelevant_of_changesTo (h : changesTo status event = true) : isRelevant event = true := by
  simp only [changesTo, Bool.and_eq_true, decide_eq_true_eq] at h
  simp [isRelevant, isRelevantType, h.1]

lemma isRelevant_of_type {type : JobEventType} (htype : isRelevantType type = true)
    (h : decide (event.eventType = type) = true) : isRelevant event = true := by
  rw [isRelevant, of_decide_eq_true h]
  exact htype

lemma pairwise_le (h : events.Pairwise fun a b => a.timestamp ≤ b.timestamp) :
    events.Pairwise fun a b => decide (b.timestamp ≤ instant) = true → decide (a.timestamp ≤ instant) = true :=
  h.imp fun hab hb => decide_eq_true (hab.trans (of_decide_eq_true hb))

/-- The reading of a job's events passes over those of other types. -/
structure IgnoresOthers (events : List PipelineEvent) : Prop where
  qualifying : ∀ start finish, qualifyingApprovalEvent (events.filter isRelevant) start finish =
    qualifyingApprovalEvent events start finish
  change : ∀ status, earliestStatusChangeTo (events.filter isRelevant) status =
    earliestStatusChangeTo events status
  ofType : ∀ type, isRelevantType type = true →
    earliestEventOfType (events.filter isRelevant) type = earliestEventOfType events type
  before : ∀ p instant, (∀ event, p event = true → isRelevant event = true) →
    hadEventBefore (events.filter isRelevant) p instant = hadEventBefore events p instant
  last : ∀ status instant, lastStatusChangeInto (events.filter isRelevant) status instant =
    lastStatusChangeInto events status instant
  replay : ∀ instant, replayStatusAsOf (events.filter isRelevant) instant = replayStatusAsOf events instant

lemma replayEvent_of_other {replayed : Bool × Option String} (h : isRelevant event = false) :
    replayEvent replayed event = replayed := by
  unfold replayEvent
  split
  all_goals first
    | rfl
    | rename_i htype _
      rw [isRelevant, htype] at h
      cases h

lemma foldl_replay_filter {replayed : Bool × Option String} :
    (events.filter isRelevant).foldl replayEvent replayed = events.foldl replayEvent replayed := by
  induction events generalizing replayed with
  | nil => rfl
  | cons event events ih =>
      cases h : isRelevant event with
      | true => rw [List.filter_cons_of_pos h, List.foldl_cons, ih, List.foldl_cons]
      | false => rw [List.filter_cons_of_neg (by simp [h]), ih, List.foldl_cons, replayEvent_of_other h]

/-- **Events of other types** are passed over. -/
lemma ignoresOthers (h : events.Pairwise fun a b => a.timestamp ≤ b.timestamp) : IgnoresOthers events where
  qualifying start finish := by
    unfold qualifyingApprovalEvent
    rw [takeWhile_filter (h.imp fun {a b} hab hb => ?_), find?_filter_of_imp fun event hevent => ?_]
    · exact isRelevant_of_approves (Bool.and_eq_true_iff.mp hevent).2
    · simp only [Bool.or_eq_true, decide_eq_true_eq] at hb ⊢
      exact hb.imp hab.trans_lt hab.trans
  change status := find?_filter_of_imp fun _ => isRelevant_of_changesTo
  ofType type htype := find?_filter_of_imp fun _ => isRelevant_of_type htype
  before p instant hp := by
    unfold hadEventBefore
    rw [takeWhile_filter (h.imp fun hab hb => decide_eq_true (hab.trans_lt (of_decide_eq_true hb))),
      any_filter_of_imp hp]
  last status instant := by
    unfold lastStatusChangeInto
    rw [takeWhile_filter (pairwise_le h), filter_filter_of_imp fun _ => isRelevant_of_changesTo]
  replay instant := by
    unfold replayStatusAsOf
    rw [takeWhile_filter (pairwise_le h), foldl_replay_filter]

end Events

/-! ## Quiet jobs -/

section Quiet

variable {events : List PipelineEvent} {event : PipelineEvent} {start finish bound instant : ℤ}

lemma mem_of_earlier {a b : Option PipelineEvent} (h : earlier a b = some event) :
    a = some event ∨ b = some event := by
  cases a with
  | none => exact .inr (by simpa only [earlier] using h)
  | some a =>
      cases b with
      | none => exact .inl h
      | some b =>
          simp only [earlier, Option.some.injEq] at h
          split at h
          · exact .inr (congrArg some h)
          · exact .inl (congrArg some h)

lemma lt_of_resolution {a b c : Option PipelineEvent} {q : PipelineEvent → Bool}
    (ha : ∀ e, a = some e → e.timestamp < bound) (hb : ∀ e, b = some e → e.timestamp < bound)
    (hc : ∀ e, c = some e → e.timestamp < bound)
    (hevent : earlier (earlier (a.filter q) (b.filter q)) (c.filter q) = some event) :
    event.timestamp < bound := by
  rcases mem_of_earlier hevent with hevent | hevent
  · rcases mem_of_earlier hevent with hevent | hevent
    · exact ha event (Option.filter_eq_some_iff.mp hevent).1
    · exact hb event (Option.filter_eq_some_iff.mp hevent).1
  · exact hc event (Option.filter_eq_some_iff.mp hevent).1

lemma within_eq_false (hevent : event.timestamp < bound) (hstart : bound ≤ start) :
    within start finish event = false := by
  simp [within, hevent.trans_le hstart]

/-- Nothing happened to the job since the instant. -/
def QuietSince (bound : ℤ) (events : List PipelineEvent) : Prop :=
  ∀ event ∈ events, event.timestamp < bound

namespace QuietSince

variable (h : QuietSince bound events) (hstart : bound ≤ start)

include h

lemma change {status : String} (hevent : earliestStatusChangeTo events status = some event) :
    event.timestamp < bound :=
  h event (List.mem_of_find?_eq_some hevent)

lemma ofType {type : JobEventType} (hevent : earliestEventOfType events type = some event) :
    event.timestamp < bound :=
  h event (List.mem_of_find?_eq_some hevent)

lemma replay (hinstant : bound ≤ instant) :
    replayStatusAsOf events instant =
      if (events.foldl replayEvent (false, none)).1 then (events.foldl replayEvent (false, none)).2
      else none := by
  have hall : (events.takeWhile fun event => event.timestamp ≤ instant) = events :=
    List.takeWhile_eq_self_iff.mpr fun event hevent =>
      decide_eq_true ((h event hevent).le.trans hinstant)
  simp only [replayStatusAsOf, hall]

include hstart

lemma qualifying : qualifyingApprovalEvent events start finish = none := by
  refine List.find?_eq_none.mpr fun event hevent => ?_
  have hlt := (h event ((List.takeWhile_sublist _).subset hevent)).trans_le hstart
  simp [hlt]

lemma created {time : LocalTime} : createdToApproved time events start finish = none := by
  unfold createdToApproved
  split
  · rename_i creation approval _ happroval
    rw [if_neg]
    have hbefore : approval.timestamp < bound := by
      cases mem_of_earlier happroval with
      | inl hchange => exact h.change hchange
      | inr haccepted => exact h.ofType haccepted
    simp [within_eq_false hbefore hstart]
  · rfl

end QuietSince

end Quiet

/-! ## What a job adds -/

section Additions

variable {time : LocalTime} {period : PipelinePeriod} {jobs : Table PipelineJob.id}
  {events : List PipelineEvent} {id : ℕ}

namespace IgnoresOthers

variable (h : IgnoresOthers events)

include h

lemma scoreboard : scoreboardJob time period jobs (events.filter isRelevant) id =
    scoreboardJob time period jobs events id := by
  have hawaiting (instant : ℤ) := h.before (changesTo "awaiting_approval") instant fun _ => isRelevant_of_changesTo
  have haccepted (instant : ℤ) := h.before (fun event => event.eventType = .quoteAccepted) instant
    fun _ => isRelevant_of_type rfl
  simp only [scoreboardJob, h.qualifying, h.ofType .jobCreated rfl, hawaiting, haccepted]

lemma snapshot : snapshotJob time period jobs (events.filter isRelevant) id =
    snapshotJob time period jobs events id := by
  simp only [snapshotJob, h.ofType .jobCreated rfl, h.replay, h.last]

lemma created {start finish : ℤ} : createdToApproved time (events.filter isRelevant) start finish =
    createdToApproved time events start finish := by
  simp only [createdToApproved, h.ofType .jobCreated rfl, h.ofType .quoteAccepted rfl, h.change]

lemma velocity : velocityJob time period (events.filter isRelevant) = velocityJob time period events := by
  simp only [velocityJob, h.ofType .jobCreated rfl, h.ofType .quoteAccepted rfl, h.ofType .jobRejected rfl,
    h.change, h.created]

lemma funnel : (funnelJob time period jobs (events.filter isRelevant) id).toMultiset =
    (funnelJob time period jobs events id).toMultiset := by
  have hany (type : JobEventType) (htype : isRelevantType type = true) (q : PipelineEvent → Bool) :
      ((events.filter isRelevant).any fun event => decide (event.eventType = type) && q event) =
        events.any fun event => decide (event.eventType = type) && q event :=
    any_filter_of_imp fun event hevent => isRelevant_of_type htype (Bool.and_eq_true_iff.mp hevent).1
  have hchanges (status : String) (q : PipelineEvent → Bool) :
      ((events.filter isRelevant).any fun event => changesTo status event && q event) =
        events.any fun event => changesTo status event && q event :=
    any_filter_of_imp fun event hevent => isRelevant_of_changesTo (Bool.and_eq_true_iff.mp hevent).1
  simp only [funnelJob, h.ofType .jobCreated rfl, h.replay, hchanges, Bool.and_assoc,
    hany .quoteAccepted rfl, hany .jobRejected rfl, hany .statusChanged rfl]
  split
  · split <;> split <;> rfl
  · rfl

lemma trend {weekStart weekEnd : ℤ} : trendJob time jobs (events.filter isRelevant) id weekStart weekEnd =
    trendJob time jobs events id weekStart weekEnd := by
  have hany (q : PipelineEvent → Bool) :
      ((events.filter isRelevant).any fun event => decide (event.eventType = .jobRejected) && q event) =
        events.any fun event => decide (event.eventType = .jobRejected) && q event :=
    any_filter_of_imp fun event hevent => isRelevant_of_type rfl (Bool.and_eq_true_iff.mp hevent).1
  simp only [trendJob, h.qualifying, h.created, h.ofType .jobCreated rfl, h.replay, hany]

end IgnoresOthers

/-! ## Quiet jobs add nothing -/

lemma snapshot_of_not_staged (hstage : isPipelineStatus (replayStatusAsOf events (cutoff time period)) = false) :
    (snapshotJob time period jobs events id).toMultiset = 0 := by
  simp only [snapshotJob, hstage]
  split
  · rfl
  · split <;> rfl

namespace QuietSince

variable {bound : ℤ} (h : QuietSince bound events)

include h

lemma scoreboard (hstart : bound ≤ time.startOfDay period.startDate) :
    (scoreboardJob time period jobs events id).toMultiset = 0 := by
  simp only [scoreboardJob, h.qualifying hstart]
  rfl

lemma funnel (hstart : bound ≤ time.startOfDay period.startDate) :
    (funnelJob time period jobs events id).toMultiset = 0 := by
  simp only [funnelJob]
  split
  · split <;> rfl
  · rename_i creation hcreation
    obtain ⟨hcreation, -⟩ := Option.filter_eq_some_iff.mp hcreation
    simp only [within_eq_false (h.ofType hcreation) hstart]
    rfl

lemma velocity {column : VelocitySamples → Option ℤ}
    (hcolumn : column ⟨none, none, none⟩ = none) (hstart : bound ≤ time.startOfDay period.startDate) :
    velocitySamples time period column events = 0 := by
  have hnone {event : Option PipelineEvent} (hevent : ∀ e, event = some e → e.timestamp < bound) :
      event.any (within (time.startOfDay period.startDate) (time.endOfDay period.endDate)) = false := by
    cases event with
    | none => rfl
    | some event => exact within_eq_false (hevent event rfl) hstart
  simp only [velocitySamples, velocityJob, List.any_cons, List.any_nil, hnone fun _ => h.change,
    hnone fun _ => h.ofType, Bool.or_false, Bool.false_and, Bool.false_eq_true, if_false, h.created hstart]
  cases hawaiting : earliestStatusChangeTo events "awaiting_approval" with
  | none => simp [hcolumn]
  | some awaiting =>
      -- no sample: the draft was quoted, and the quote resolved, before the period
      have hquoted : within (time.startOfDay period.startDate) (time.endOfDay period.endDate) awaiting = false :=
        within_eq_false (h.change hawaiting) hstart
      have hresolved : (earlier (earlier ((earliestStatusChangeTo events "approved").filter fun event =>
          decide (awaiting.timestamp < event.timestamp)) ((earliestEventOfType events .quoteAccepted).filter
            fun event => decide (awaiting.timestamp < event.timestamp)))
          ((earliestEventOfType events .jobRejected).filter fun event =>
            decide (awaiting.timestamp < event.timestamp))).bind (fun resolution =>
          if within (time.startOfDay period.startDate) (time.endOfDay period.endDate) resolution then
            some (daysBetween time awaiting resolution) else none) = none := by
        refine Option.bind_eq_none_iff.mpr fun event hevent => if_neg ?_
        have hlt := lt_of_resolution (fun _ => h.change) (fun _ => h.ofType) (fun _ => h.ofType) hevent
        simp [within_eq_false hlt hstart]
      cases hcreation : earliestEventOfType events .jobCreated with
      | none => simp [hresolved, hcolumn]
      | some creation => simp [hquoted, hresolved, hcolumn]

lemma trend {weekStart weekEnd : ℤ} (hstart : bound ≤ time.startOfDay weekStart)
    (hstage : isPipelineStatus (replayStatusAsOf events (time.endOfDay weekEnd)) = false) :
    trendJob time jobs events id weekStart weekEnd = ⟨0, 0, none, 0⟩ := by
  have hrejected : (events.any fun event => decide (event.eventType = .jobRejected) &&
      within (time.startOfDay weekStart) (time.endOfDay weekEnd) event) = false := by
    refine List.any_eq_false.mpr fun event hevent => ?_
    simp [within_eq_false (h event hevent) hstart]
  simp [trendJob, h.qualifying hstart, h.created hstart, hrejected, hstage]

end QuietSince

end Additions

/-! ## Fetched and unfetched jobs -/

section Fetch

variable {time : LocalTime} {log : EventLog} {period : PipelinePeriod} {latest : LatestChoice} {id : ℕ}

lemma weekStart_le (day : ℤ) : weekStart day ≤ day := by
  unfold weekStart
  omega

lemma fetchStart_le_start : computeFetchStart time period ≤ time.startOfDay period.startDate :=
  time.start_mono (min_le_left _ _)

lemma fetchStart_le_week (i : ℕ) :
    computeFetchStart time period ≤ time.startOfDay (trendWeekStart period i) := by
  refine time.start_mono ((min_le_right _ _).trans ?_)
  unfold trendWeekStart
  omega

lemma fetchStart_le_weekEnd {i : ℕ} (hi : i < period.trendWeeks) :
    computeFetchStart time period ≤
      time.endOfDay (min (trendWeekStart period i + 6) period.endDate) := by
  have hstart : trendWeekStart period i ≤ min (trendWeekStart period i + 6) period.endDate := by
    have hend := weekStart_le period.endDate
    unfold trendWeekStart
    omega
  calc computeFetchStart time period
      ≤ time.startOfDay (trendWeekStart period i) := fetchStart_le_week i
    _ ≤ time.endOfDay (trendWeekStart period i) := time.start_le_end _
    _ ≤ _ := time.end_mono hstart

lemma weekEnd_le_cutoff (i : ℕ) :
    time.endOfDay (min (trendWeekStart period i + 6) period.endDate) ≤ cutoff time period :=
  time.end_mono (min_le_right _ _)

lemma ordered_eventsOfJob {p : PipelineEvent → Bool} :
    (eventsOfJob time log period p id).Pairwise fun a b => a.timestamp ≤ b.timestamp :=
  log.ordered.filter _

lemma eventsOfJob_eq_filter : eventsOfJob time log period isRelevant id =
    (eventsOfJob time log period (fun _ => true) id).filter isRelevant := by
  simp only [eventsOfJob, List.filter_filter, Bool.true_and, Bool.and_assoc]

lemma mem_ids_of_event {event : PipelineEvent} {p : PipelineEvent → Bool}
    (h : event ∈ eventsOfJob time log period p id) : id ∈ (everyEvent time log period).ids := by
  obtain ⟨hrow, htest⟩ := List.mem_filter.mp h
  simp only [Bool.and_eq_true, decide_eq_true_eq] at htest
  refine List.mem_toFinset.mpr (List.mem_filterMap.mpr ⟨event, List.mem_filter.mpr ⟨hrow, ?_⟩, htest.1.2⟩)
  exact decide_eq_true htest.2

lemma exists_event (h : (isInWindow time log period id || isPipelineStageJob time log period latest id) = true) :
    ∃ event, event ∈ eventsOfJob time log period isRelevant id := by
  cases Bool.or_eq_true_iff.mp h with
  | inl hwindow =>
      obtain ⟨event, hevent, -⟩ := List.any_eq_true.mp hwindow
      exact ⟨event, hevent⟩
  | inr hstage =>
      obtain ⟨event, hevent, -⟩ := (Option.any_eq_true _ _).mp hstage
      exact ⟨event, latest.mem_pick _ _ hevent⟩

lemma mem_fetched_iff : id ∈ (fetchEvents time log period latest).ids ↔
    (isInWindow time log period id || isPipelineStageJob time log period latest id) = true := by
  refine ⟨fun h => (Finset.mem_filter.mp h).2, fun h => Finset.mem_filter.mpr ⟨?_, h⟩⟩
  obtain ⟨event, hevent⟩ := exists_event h
  obtain ⟨hrow, htest⟩ := List.mem_filter.mp hevent
  simp only [Bool.and_eq_true, decide_eq_true_eq] at htest
  exact List.mem_toFinset.mpr (List.mem_filterMap.mpr ⟨event, hrow, htest.1.2⟩)

lemma fetched_subset : (fetchEvents time log period latest).ids ⊆ (everyEvent time log period).ids := by
  intro id hid
  obtain ⟨event, hevent⟩ := exists_event (mem_fetched_iff.mp hid)
  exact mem_ids_of_event hevent

lemma quiet_of_not_inWindow (h : isInWindow time log period id = false) :
    QuietSince (computeFetchStart time period) (eventsOfJob time log period isRelevant id) := by
  intro event hevent
  have hnot := List.any_eq_false.mp h event hevent
  simpa using hnot

lemma quiet_of_not_fetched (h : id ∉ (fetchEvents time log period latest).ids) :
    QuietSince (computeFetchStart time period) (eventsOfJob time log period isRelevant id) := by
  refine quiet_of_not_inWindow (Bool.eq_false_iff.mpr fun hwindow => h (mem_fetched_iff.mpr ?_))
  rw [hwindow, Bool.true_or]

/-- What is summed over the fetched jobs is what is summed over all of them, where other types are ignored
and unfetched jobs add nothing. -/
lemma sum_fetched {M : Type} [AddCommMonoid M] {f : List PipelineEvent → ℕ → M}
    (hignore : ∀ events id, IgnoresOthers events → f (events.filter isRelevant) id = f events id)
    (hquiet : ∀ id, id ∉ (fetchEvents time log period latest).ids →
      f (eventsOfJob time log period isRelevant id) id = 0) :
    ∑ id ∈ (fetchEvents time log period latest).ids, f ((fetchEvents time log period latest).events id) id =
      ∑ id ∈ (everyEvent time log period).ids, f ((everyEvent time log period).events id) id := by
  have hsame (id : ℕ) : f ((everyEvent time log period).events id) id =
      f ((fetchEvents time log period latest).events id) id := by
    change _ = f (eventsOfJob time log period isRelevant id) id
    rw [eventsOfJob_eq_filter]
    exact (hignore _ id (ignoresOthers ordered_eventsOfJob)).symm
  rw [Finset.sum_congr rfl fun id _ => hsame id]
  exact Finset.sum_subset fetched_subset fun id _ hid => hquiet id hid

/-- **What the narrowed fetch asks for.**  A quiet job in the pipeline has a latest event that says so. -/
def LatestEventCarriesStage (time : LocalTime) (log : EventLog) (period : PipelinePeriod)
    (latest : LatestChoice) : Prop :=
  ∀ id, isPipelineStatus (replayStatusAsOf (eventsOfJob time log period isRelevant id) (cutoff time period)) = true →
    QuietSince (computeFetchStart time period) (eventsOfJob time log period isRelevant id) →
    ∃ event, latest.pick (eventsOfJob time log period isRelevant id) = some event ∧
      isPipelineStatus event.statusAfter = true

def PipelineFetched (time : LocalTime) (log : EventLog) (period : PipelinePeriod) (latest : LatestChoice) :
    Prop :=
  ∀ id, isPipelineStatus (replayStatusAsOf ((everyEvent time log period).events id) (cutoff time period)) = true →
    id ∈ (fetchEvents time log period latest).ids

lemma replay_everyEvent : replayStatusAsOf ((everyEvent time log period).events id) (cutoff time period) =
    replayStatusAsOf (eventsOfJob time log period isRelevant id) (cutoff time period) := by
  rw [eventsOfJob_eq_filter]
  exact ((ignoresOthers ordered_eventsOfJob).replay _).symm

lemma pipelineFetched_iff :
    PipelineFetched time log period latest ↔ LatestEventCarriesStage time log period latest := by
  refine forall_congr' fun id => ?_
  rw [replay_everyEvent, mem_fetched_iff, Bool.or_eq_true]
  refine imp_congr_right fun _ => ?_
  have hstage : isPipelineStageJob time log period latest id = true ↔
      ∃ event, latest.pick (eventsOfJob time log period isRelevant id) = some event ∧
        isPipelineStatus event.statusAfter = true := Option.any_eq_true _ _
  rw [← hstage]
  constructor
  · intro h hquiet
    refine h.resolve_left fun hwindow => ?_
    obtain ⟨event, hevent, hlate⟩ := List.any_eq_true.mp hwindow
    exact absurd (of_decide_eq_true hlate) (not_le.mpr (hquiet event hevent))
  · intro h
    cases hwindow : isInWindow time log period id with
    | true => exact .inl rfl
    | false => exact .inr (h (quiet_of_not_inWindow hwindow))

section Unfetched

variable (hfetched : PipelineFetched time log period latest)
  (hid : id ∉ (fetchEvents time log period latest).ids)

include hfetched hid

lemma not_staged : isPipelineStatus (replayStatusAsOf (eventsOfJob time log period isRelevant id)
    (cutoff time period)) = false := by
  refine Bool.eq_false_iff.mpr fun hstage => hid (hfetched id ?_)
  rw [replay_everyEvent]
  exact hstage

lemma not_staged_at {i : ℕ} (hi : i < period.trendWeeks) :
    isPipelineStatus (replayStatusAsOf (eventsOfJob time log period isRelevant id)
      (time.endOfDay (min (trendWeekStart period i + 6) period.endDate))) = false := by
  have hquiet := quiet_of_not_fetched hid
  have hcut := not_staged hfetched hid
  rw [hquiet.replay ((fetchStart_le_weekEnd hi).trans (weekEnd_le_cutoff i))] at hcut
  rw [hquiet.replay (fetchStart_le_weekEnd hi)]
  exact hcut

end Unfetched

/-! ## The sections -/

section Report

variable {jobs : Table PipelineJob.id} {isHoliday : ℤ → Bool} {target : ℚ}

lemma scoreboard_fetched :
    additions (fetchEvents time log period latest) (scoreboardJob time period jobs) =
      additions (everyEvent time log period) (scoreboardJob time period jobs) := by
  refine sum_fetched (f := fun events id => (scoreboardJob time period jobs events id).toMultiset)
    (fun events id h => ?_) fun id hid => ?_
  · rw [h.scoreboard]
  · exact (quiet_of_not_fetched hid).scoreboard fetchStart_le_start

lemma funnel_fetched :
    additions (fetchEvents time log period latest) (funnelJob time period jobs) =
      additions (everyEvent time log period) (funnelJob time period jobs) := by
  refine sum_fetched (f := fun events id => (funnelJob time period jobs events id).toMultiset)
    (fun events id h => h.funnel) fun id hid => ?_
  exact (quiet_of_not_fetched hid).funnel fetchStart_le_start

lemma velocity_fetched {g : VelocitySamples → Option ℤ} (hcolumn : g ⟨none, none, none⟩ = none) :
    (∑ id ∈ (fetchEvents time log period latest).ids,
      velocitySamples time period g ((fetchEvents time log period latest).events id)) =
      ∑ id ∈ (everyEvent time log period).ids,
        velocitySamples time period g ((everyEvent time log period).events id) := by
  refine sum_fetched (f := fun events _ => velocitySamples time period g events)
    (fun events id h => ?_) fun id hid => ?_
  · simp only [velocitySamples, h.velocity]
  · exact (quiet_of_not_fetched hid).velocity hcolumn fetchStart_le_start

variable (hfetched : PipelineFetched time log period latest)

include hfetched

lemma snapshot_fetched :
    additions (fetchEvents time log period latest) (snapshotJob time period jobs) =
      additions (everyEvent time log period) (snapshotJob time period jobs) := by
  refine sum_fetched (f := fun events id => (snapshotJob time period jobs events id).toMultiset)
    (fun events id h => ?_) fun id hid => ?_
  · rw [h.snapshot]
  · exact snapshot_of_not_staged (not_staged hfetched hid)

variable (jobs) in
lemma trend_fetched {M : Type} [AddCommMonoid M] {g : TrendSamples → M}
    (hcolumn : g ⟨0, 0, none, 0⟩ = 0) {i : ℕ} (hi : i < period.trendWeeks) :
    (∑ id ∈ (fetchEvents time log period latest).ids, g (trendJob time jobs
      ((fetchEvents time log period latest).events id) id (trendWeekStart period i)
        (min (trendWeekStart period i + 6) period.endDate))) =
      ∑ id ∈ (everyEvent time log period).ids, g (trendJob time jobs
        ((everyEvent time log period).events id) id (trendWeekStart period i)
          (min (trendWeekStart period i + 6) period.endDate)) := by
  refine sum_fetched (f := fun events id => g (trendJob time jobs events id (trendWeekStart period i)
    (min (trendWeekStart period i + 6) period.endDate))) (fun events id h => ?_) fun id hid => ?_
  · rw [h.trend]
  · rw [(quiet_of_not_fetched hid).trend (fetchStart_le_week i) (not_staged_at hfetched hid hi), hcolumn]

lemma trendWeek_fetched {i : ℕ} (hi : i < period.trendWeeks) :
    buildTrendWeek time isHoliday jobs (fetchEvents time log period latest) (trendWeekStart period i)
        (min (trendWeekStart period i + 6) period.endDate) =
      buildTrendWeek time isHoliday jobs (everyEvent time log period) (trendWeekStart period i)
        (min (trendWeekStart period i + 6) period.endDate) := by
  have happroved := trend_fetched jobs hfetched (g := TrendSamples.approvedHours) rfl hi
  have hrejected := trend_fetched jobs hfetched (g := TrendSamples.rejectedHours) rfl hi
  have hpipeline := trend_fetched jobs hfetched (g := TrendSamples.pipelineHours) rfl hi
  have hvelocity := trend_fetched jobs hfetched
    (g := fun samples => samples.velocity.elim 0 fun days => ({days} : Multiset ℤ)) rfl hi
  simp only [buildTrendWeek, happroved, hrejected, hpipeline, hvelocity]

lemma getReport_fetched :
    getReport time isHoliday target period jobs (fetchEvents time log period latest) =
      getReport time isHoliday target period jobs (everyEvent time log period) := by
  have hweeks : (List.range period.trendWeeks).map (fun i =>
      buildTrendWeek time isHoliday jobs (fetchEvents time log period latest) (trendWeekStart period i)
        (min (trendWeekStart period i + 6) period.endDate)) =
      (List.range period.trendWeeks).map fun i =>
        buildTrendWeek time isHoliday jobs (everyEvent time log period) (trendWeekStart period i)
          (min (trendWeekStart period i + 6) period.endDate) :=
    List.map_congr_left fun i hi => trendWeek_fetched hfetched (List.mem_range.mp hi)
  simp only [getReport, buildScoreboard, buildSnapshot, buildVelocity, buildFunnel, buildTrend,
    scoreboard_fetched, funnel_fetched, snapshot_fetched hfetched, hweeks,
    velocity_fetched (g := VelocitySamples.draftToQuote) rfl,
    velocity_fetched (g := VelocitySamples.quoteToResolved) rfl,
    velocity_fetched (g := VelocitySamples.createdToApproved) rfl]

end Report
/-- **The narrowed fetch is exact exactly where the latest event of a quiet job in the pipeline says so.** -/
theorem narrowed_report_exact_iff (time : LocalTime) (isHoliday : ℤ → Bool) (target : ℚ)
    (period : PipelinePeriod) (jobs : Table PipelineJob.id) (log : EventLog) (latest : LatestChoice) :
    getReport time isHoliday target period jobs (fetchEvents time log period latest) =
        getReport time isHoliday target period jobs (everyEvent time log period) ∧
      PipelineFetched time log period latest ↔
    LatestEventCarriesStage time log period latest := by
  rw [← pipelineFetched_iff]
  exact ⟨fun h => h.2, fun h => ⟨getReport_fetched h, h⟩⟩

end Fetch

/-! ## A rejection without a status -/

def universalDays : LocalTime where
  startOfDay day := 86400000000 * day
  endOfDay day := 86400000000 * day + 86399999999
  dateOf instant := instant / 86400000000
  start_mono a b h := by simpa using h
  end_mono a b h := by simpa using h
  start_le_end day := by simp

def firstLatest : LatestChoice where
  pick events := events.find? fun event => events.all fun other => other.timestamp ≤ event.timestamp
  isSome_pick events := by
    cases h : events with
    | nil => rfl
    | cons event rest =>
        obtain ⟨latest, hlatest, hall⟩ := (event :: rest).toFinset.exists_max_image PipelineEvent.timestamp
          ⟨event, by simp⟩
        rw [List.isEmpty_cons, Bool.not_false]
        refine List.find?_isSome.mpr
          ⟨latest, List.mem_toFinset.mp hlatest, List.all_eq_true.mpr fun other hother => ?_⟩
        exact decide_eq_true (hall other (List.mem_toFinset.mpr hother))
  mem_pick _ _ h := List.mem_of_find?_eq_some h
  le_pick events event h other hother := by
    have hall := List.find?_some h
    exact of_decide_eq_true (List.all_eq_true.mp hall other hother)

/-- A quoted job, rejected while its status stays. -/
def silentRejection : EventLog where
  rows := [
    ⟨some 1, 86400000000 * 19000, .jobCreated, some (some "draft")⟩,
    ⟨some 1, 86400000000 * 19001, .statusChanged, some (some "awaiting_approval")⟩,
    ⟨some 1, 86400000000 * 19002, .jobRejected, none⟩]
  ordered := by decide

def quotedJob : Table PipelineJob.id where
  rows := [⟨1, 96001, "Gate", "Acme", some ⟨some 12, some 1500⟩, none⟩]
  nodup := by decide

def weekYearsLater : PipelinePeriod := ⟨20001, 20007, 4, 4⟩

/-- **A rejection that records no status hides a waiting job.** -/
theorem silent_rejection_hides_a_job :
    replayStatusAsOf ((everyEvent universalDays silentRejection weekYearsLater).events 1)
        (cutoff universalDays weekYearsLater) = some "awaiting_approval" ∧
      1 ∉ (fetchEvents universalDays silentRejection weekYearsLater firstLatest).ids ∧
      (getReport universalDays (fun _ => false) 45 weekYearsLater quotedJob (fetchEvents universalDays
        silentRejection weekYearsLater firstLatest)).pipelineSnapshot.awaitingApproval.count = 0 ∧
      (getReport universalDays (fun _ => false) 45 weekYearsLater quotedJob (everyEvent universalDays
        silentRejection weekYearsLater)).pipelineSnapshot.awaitingApproval.count = 1 := by
  decide +kernel

end Docketworks.Accounting
