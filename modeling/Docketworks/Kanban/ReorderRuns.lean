import Docketworks.Kanban.Reorder

/-!
# What a reorder keeps

A reorder gives one job a new priority and leaves the rest alone.  Where the new priority falls
strictly between the anchor's and its neighbour's, the job is shown next to its anchor, the other
jobs of every column keep their order, and no two jobs of a column come to share a priority.  A
double falls strictly between two others only while there is one to fall on: enough moves into one
gap use it up, and the moved job then takes its neighbour's priority.

* `HasRoom jobs request` — there is a double for the request to fall on.
* `reorder_places` — what one reorder does.
* `reorders_place` — the same at every reorder of every run.
* `gap_runs_out` — the run that makes two priorities equal.
-/

namespace Docketworks

open Library Library.Transaction

namespace Kanban

/-! ## Room for a priority -/

/-- A double lies strictly between the two, and their sum does not overflow. -/
def RoomBetween (low high : Float64) : Prop :=
  high.SumInRange low ∧ ∃ x : Finite64, low < .finite x ∧ .finite x < high

/-- A double lies less than two increments above. -/
def RoomAbove (low : Float64) : Prop :=
  ∃ v x : Finite64, low = .finite v ∧ v.value < x.value ∧ x.value < v.value + 400

/-- A double lies less than two increments below. -/
def RoomBelow (high : Float64) : Prop :=
  ∃ v x : Finite64, high = .finite v ∧ x.value < v.value ∧ v.value - 400 < x.value

/-- There is a double for the request to fall on: between the anchor's priority and the next one's
on its side, or within two increments of the anchor's where there is no next one, or of the
highest where there is no anchor. -/
def HasRoom (jobs : Jobs) (request : JobReorderRequest) : Prop :=
  ∀ job, jobs.find? request.jobId = some job →
    match request.anchorJobId with
    | none => RoomAbove (maxPriority (otherJobs jobs (request.target job) request.jobId))
    | some anchorId => ∀ anchor, jobs.find? anchorId = some anchor →
        if request.placement = some "above" then
          match higherPriority jobs (request.target job) request.jobId anchor with
          | some higher => RoomBetween anchor.priority higher
          | none => RoomAbove anchor.priority
        else
          match lowerPriority jobs (request.target job) request.jobId anchor with
          | some lower => RoomBetween lower anchor.priority
          | none => RoomBelow anchor.priority

lemma priorityIncrement_eq :
    ∃ d : Finite64, priorityIncrement = .finite d ∧ d.value = 200 ∧ 4 * d.value ≤ 2 ^ (971 : ℤ) := by
  obtain ⟨d, hd, hvalue⟩ := Float64.ofRat_intCast (n := 200) (by norm_num)
  have hvalue : d.value = 200 := by rw [hvalue]; norm_num
  have hunit : (2 : ℚ) ^ (10 : ℤ) ≤ 2 ^ (971 : ℤ) := zpow_le_zpow_right₀ (by norm_num) (by norm_num)
  refine ⟨d, by rw [← hd]; norm_num [priorityIncrement], hvalue, le_trans ?_ hunit⟩
  rw [hvalue]
  norm_num

lemma lt_add_increment {low : Float64} (h : RoomAbove low) : low < low.add priorityIncrement := by
  obtain ⟨v, x, rfl, hlow, hhigh⟩ := h
  obtain ⟨d, hd, hvalue, hsmall⟩ := priorityIncrement_eq
  rw [hd]
  exact Float64.lt_add (by rw [hvalue]; norm_num) hsmall hlow (by rw [hvalue]; linarith)

lemma sub_increment_lt {high : Float64} (h : RoomBelow high) :
    high.add priorityIncrement.neg < high := by
  obtain ⟨v, x, rfl, hlow, hhigh⟩ := h
  obtain ⟨d, hd, hvalue, hsmall⟩ := priorityIncrement_eq
  rw [hd]
  exact Float64.add_neg_lt (by rw [hvalue]; norm_num) hsmall hlow (by rw [hvalue]; linarith)

lemma midpoint_of_room {low high : Float64} (h : RoomBetween low high) :
    low < high.midpoint low ∧ high.midpoint low < high := by
  obtain ⟨hrange, x, hlow, hhigh⟩ := h
  cases high with
  | finite b =>
      cases low with
      | finite a =>
          rw [Float64.finite_lt_finite] at hlow hhigh
          rw [Float64.midpoint_comm]
          exact Float64.midpoint_between hlow hhigh (Float64.sumInRange_comm.mp hrange)
      | negInf => exact hrange.elim
      | posInf => exact hrange.elim
      | nan => exact hrange.elim
  | negInf => exact hrange.elim
  | posInf => exact hrange.elim
  | nan => exact hrange.elim

/-! ## The column without the moved job -/

variable {jobs jobs' : Jobs} {request : JobReorderRequest} {status : JobStatus} {a b job : Job}

lemma mem_column : a ∈ column jobs status ↔ a ∈ jobs.rows ∧ a.status = status := by
  unfold column
  rw [List.mem_insertionSort]
  simp

lemma descending_column (h : DistinctPriorities jobs) :
    Descending Job.priority (column jobs status) := by
  have htotal : Std.Total ShownBefore := ⟨fun a b => by
    unfold ShownBefore
    rcases lt_trichotomy a.priority b.priority with hlt | heq | hgt
    · exact .inr (.inl hlt)
    · rcases le_total b.createdAt a.createdAt with hle | hle
      · exact .inl (.inr ⟨heq, hle⟩)
      · exact .inr (.inr ⟨heq.symm, hle⟩)
    · exact .inl (.inl hgt)⟩
  have htrans : IsTrans Job ShownBefore := ⟨fun a b c hab hbc => by
    unfold ShownBefore at *
    rcases hab with hab | ⟨hab, hab'⟩ <;> rcases hbc with hbc | ⟨hbc, hbc'⟩
    · exact .inl (hbc.trans hab)
    · exact .inl (hbc ▸ hab)
    · exact .inl (hab ▸ hbc)
    · exact .inr ⟨hab.trans hbc, hbc'.trans hab'⟩⟩
  have hsorted := List.pairwise_insertionSort ShownBefore
    (jobs.rows.filter fun job => job.status = status)
  have hnodup : (column jobs status).Nodup := by
    refine (List.perm_insertionSort ShownBefore _).nodup_iff.mpr ?_
    exact (List.Nodup.of_map _ jobs.nodup).filter _
  refine List.Pairwise.imp_of_mem ?_ (List.pairwise_and_iff.mpr ⟨hsorted, hnodup⟩)
  rintro a b ha hb ⟨hbefore, hne⟩
  obtain ⟨ha, hastatus⟩ := mem_column.mp ha
  obtain ⟨hb, hbstatus⟩ := mem_column.mp hb
  rcases hbefore with hlt | ⟨heq, -⟩
  · exact hlt
  · exact absurd (Table.eq_of_key_eq ha hb (h a ha b hb (hastatus.trans hbstatus.symm) heq)) hne

/-! ## Where the moved job is put -/

variable {moved : Job} {pre post : List Job}

def shownOthers (jobs : Jobs) (status : JobStatus) (jobId : ℕ) : List Job :=
  (column jobs status).filter (·.id ≠ jobId)

lemma mem_shownOthers {jobId : ℕ} :
    a ∈ shownOthers jobs status jobId ↔ (a ∈ jobs.rows ∧ a.status = status) ∧ a.id ≠ jobId := by
  simp [shownOthers, mem_column]

lemma mem_column_put (hfound : (jobs.find? moved.id).isSome) :
    a ∈ column (jobs.put moved) status ↔
      a ∈ shownOthers jobs status moved.id ∨ (a = moved ∧ moved.status = status) := by
  rw [mem_column, Table.mem_put, mem_shownOthers]
  constructor
  · rintro ⟨⟨ha, hne⟩ | ⟨rfl, -⟩, hstatus⟩
    · exact .inl ⟨⟨ha, hstatus⟩, hne⟩
    · exact .inr ⟨rfl, hstatus⟩
  · rintro (⟨⟨ha, hstatus⟩, hne⟩ | ⟨rfl, hstatus⟩)
    · exact ⟨.inl ⟨ha, hne⟩, hstatus⟩
    · exact ⟨.inr ⟨rfl, hfound⟩, hstatus⟩

lemma distinct_of_descending
    (h : ∀ status, ∃ l, Descending Job.priority l ∧ ∀ a, a ∈ column jobs status → a ∈ l) :
    DistinctPriorities jobs := by
  intro a ha b hb hstatus hpriority
  obtain ⟨l, hl, hmem⟩ := h b.status
  have hal := hmem a (mem_column.mpr ⟨ha, hstatus⟩)
  have hbl := hmem b (mem_column.mpr ⟨hb, rfl⟩)
  exact congrArg Job.id (List.inj_on_of_nodup_map hl.nodup_ranks hal hbl hpriority)

/-- **Placing.**  A priority strictly between those before a place and those after it: the job is
shown at the place, the other columns lose it, and the priorities stay distinct. -/
theorem column_put (h : DistinctPriorities jobs) (hfound : (jobs.find? moved.id).isSome)
    (hsplit : shownOthers jobs moved.status moved.id = pre ++ post)
    (hpre : ∀ x ∈ pre, moved.priority < x.priority) (hpost : ∀ x ∈ post, x.priority < moved.priority) :
    DistinctPriorities (jobs.put moved) ∧
      column (jobs.put moved) moved.status = pre ++ moved :: post ∧
      ∀ status ≠ moved.status,
        column (jobs.put moved) status = shownOthers jobs status moved.id := by
  have hothers : ∀ status, Descending Job.priority (shownOthers jobs status moved.id) :=
    fun status => (descending_column h).filter _
  have hplaced : Descending Job.priority (pre ++ moved :: post) :=
    Descending.insert (hsplit ▸ hothers moved.status) hpre hpost
  have hmem : ∀ a, a ∈ column (jobs.put moved) moved.status ↔ a ∈ pre ++ moved :: post := by
    intro a
    rw [mem_column_put hfound, hsplit]
    simp only [List.mem_append, List.mem_cons]
    tauto
  have hmem' : ∀ status ≠ moved.status, ∀ a,
      a ∈ column (jobs.put moved) status ↔ a ∈ shownOthers jobs status moved.id := by
    intro status hne a
    rw [mem_column_put hfound]
    simp [hne.symm]
  have hdistinct : DistinctPriorities (jobs.put moved) := by
    refine distinct_of_descending fun status => ?_
    by_cases hstatus : status = moved.status
    · subst hstatus
      exact ⟨_, hplaced, fun a => (hmem a).mp⟩
    · exact ⟨_, hothers status, fun a => (hmem' status hstatus a).mp⟩
  exact ⟨hdistinct, (descending_column hdistinct).eq_of_mem_iff hplaced hmem,
    fun status hne =>
      (descending_column hdistinct).eq_of_mem_iff (hothers status) (hmem' status hne)⟩

/-! ## The new priority -/

lemma mem_otherJobs {jobId : ℕ} :
    a ∈ otherJobs jobs status jobId ↔ a ∈ shownOthers jobs status jobId := by
  rw [mem_shownOthers]
  simp [otherJobs, and_assoc]

lemma priority_le_maxPriority {rows : List Job} (h : a ∈ rows) :
    a.priority ≤ maxPriority rows := by
  have hmem : a.priority ∈ rows.map Job.priority := List.mem_map_of_mem h
  unfold maxPriority
  cases hmax : (rows.map Job.priority).max? with
  | none =>
      rw [List.max?_eq_none_iff] at hmax
      simp [hmax] at hmem
  | some top =>
      have hle := (List.max?_eq_some_iff.mp hmax).2 _ hmem
      by_cases hzero : top = .ofRat 0
      · simpa [Option.filter, hzero] using hle
      · simpa [Option.filter, hzero] using hle

lemma higherPriority_le {jobId : ℕ} {anchor : Job} (ha : a ∈ shownOthers jobs status jobId)
    (habove : anchor.priority < a.priority) :
    ∃ higher, higherPriority jobs status jobId anchor = some higher ∧ higher ≤ a.priority := by
  have hmem : a.priority ∈ ((otherJobs jobs status jobId).map Job.priority).filter
      (anchor.priority < ·) :=
    List.mem_filter.mpr ⟨List.mem_map_of_mem (mem_otherJobs.mpr ha), by simpa using habove⟩
  unfold higherPriority
  cases hmin : (((otherJobs jobs status jobId).map Job.priority).filter
      (anchor.priority < ·)).min? with
  | none =>
      rw [List.min?_eq_none_iff] at hmin
      simp [hmin] at hmem
  | some higher => exact ⟨higher, rfl, (List.min?_eq_some_iff.mp hmin).2 _ hmem⟩

lemma le_lowerPriority {jobId : ℕ} {anchor : Job} (ha : a ∈ shownOthers jobs status jobId)
    (hbelow : a.priority < anchor.priority) :
    ∃ lower, lowerPriority jobs status jobId anchor = some lower ∧ a.priority ≤ lower := by
  have hmem : a.priority ∈ ((otherJobs jobs status jobId).map Job.priority).filter
      (· < anchor.priority) :=
    List.mem_filter.mpr ⟨List.mem_map_of_mem (mem_otherJobs.mpr ha), by simpa using hbelow⟩
  unfold lowerPriority
  cases hmax : (((otherJobs jobs status jobId).map Job.priority).filter
      (· < anchor.priority)).max? with
  | none =>
      rw [List.max?_eq_none_iff] at hmax
      simp [hmax] at hmem
  | some lower => exact ⟨lower, rfl, (List.max?_eq_some_iff.mp hmax).2 _ hmem⟩

/-! ## One reorder -/

lemma jobJobsReorderCreate_spec {u : Unit}
    (hrun : (jobJobsReorderCreate request).run jobs = .ok (u, jobs')) :
    ∃ job anchor priority, jobs.find? request.jobId = some job ∧
      (getReorderAnchor request.anchorJobId (request.target job)).run jobs = .ok (anchor, jobs) ∧
      request.anchorJobId ≠ some request.jobId ∧
      calculatePriority jobs (request.target job) request.jobId anchor request.placement
        = .ok priority ∧
      jobs' = jobs.put { job with
        priority := priority
        status := request.target job
        updatedAt := request.now } := by
  unfold jobJobsReorderCreate reorderJob at hrun
  simp only [run_bind, run_require, run_read, run_orRefuse, run_consult, run_write] at hrun
  obtain ⟨_, _, ⟨-, rfl⟩, _, _, ⟨-, rfl⟩, _, _, ⟨rfl, rfl⟩, job, _, ⟨hjob, rfl⟩, _, _, ⟨hself, rfl⟩,
    _, _, ⟨-, rfl⟩, _, _, ⟨-, rfl⟩, anchor, t, hanchor, priority, _, ⟨hpriority, rfl⟩, rfl⟩ := hrun
  have hread : t = jobs := by
    cases hid : request.anchorJobId with
    | none =>
        rw [hid] at hanchor
        exact (run_pure.mp hanchor).2.symm
    | some anchorId =>
        rw [hid] at hanchor
        unfold getReorderAnchor at hanchor
        simp only [run_bind, run_read, run_orRefuse, run_require, run_pure] at hanchor
        obtain ⟨_, _, ⟨-, rfl⟩, _, _, ⟨-, rfl⟩, _, _, ⟨-, rfl⟩, -, rfl⟩ := hanchor
        rfl
  subst hread
  exact ⟨job, anchor, priority, hjob, hanchor, hself, hpriority, rfl⟩

lemma getReorderAnchor_spec {anchorId : Option ℕ} {anchor : Option Job}
    (hrun : (getReorderAnchor anchorId status).run jobs = .ok (anchor, jobs')) :
    (anchorId = none ∧ anchor = none) ∨
      ∃ id found, anchorId = some id ∧ anchor = some found ∧ jobs.find? id = some found ∧
        found.status = status := by
  cases anchorId with
  | none => exact .inl ⟨rfl, (run_pure.mp hrun).1.symm⟩
  | some id =>
      unfold getReorderAnchor at hrun
      simp only [run_bind, run_read, run_orRefuse, run_require, run_pure] at hrun
      obtain ⟨_, _, ⟨rfl, rfl⟩, found, _, ⟨hfound, rfl⟩, _, _, ⟨hstatus, rfl⟩, rfl, rfl⟩ := hrun
      exact .inr ⟨id, found, rfl, rfl, hfound, hstatus⟩

/-- The moved job is in its column next to its anchor, and the others are shown as before. -/
structure Placed (request : JobReorderRequest) (jobs jobs' : Jobs) : Prop where
  /-- The other jobs of every column keep their order. -/
  others : ∀ status, (columnIds jobs' status).filter (· ≠ request.jobId)
    = (columnIds jobs status).filter (· ≠ request.jobId)
  arrives : ∀ job, jobs.find? request.jobId = some job →
    request.jobId ∈ columnIds jobs' (request.target job)
  /-- The moved job is right above or right below its anchor. -/
  nextTo : ∀ job anchorId, jobs.find? request.jobId = some job →
    request.anchorJobId = some anchorId →
    NextTo request.placement (columnIds jobs' (request.target job)) request.jobId anchorId

/-- The place a request asks for among the other jobs of the column. -/
def PlaceFor (request : JobReorderRequest) (pre post : List Job) : Prop :=
  ∀ anchorId, request.anchorJobId = some anchorId →
    (request.placement = some "above" ∧ ∃ anchor r, post = anchor :: r ∧ anchor.id = anchorId) ∨
      (request.placement = some "below" ∧ ∃ anchor l, pre = l ++ [anchor] ∧ anchor.id = anchorId)

/-- **The calculated priority.**  Where there is room, the priority calculated for a request falls
at the place the request asks for. -/
theorem calculated_priority_falls (hdistinct : DistinctPriorities jobs)
    (hroom : HasRoom jobs request) (hjob : jobs.find? request.jobId = some job)
    {anchor : Option Job} {priority : Float64}
    (hanchor : (getReorderAnchor request.anchorJobId (request.target job)).run jobs
      = .ok (anchor, jobs))
    (hself : request.anchorJobId ≠ some request.jobId)
    (hpriority : calculatePriority jobs (request.target job) request.jobId anchor
      request.placement = .ok priority) :
    ∃ pre post, shownOthers jobs (request.target job) request.jobId = pre ++ post ∧
      (∀ x ∈ pre, priority < x.priority) ∧ (∀ x ∈ post, x.priority < priority) ∧
      PlaceFor request pre post := by
  have hroom := hroom job hjob
  have hdescending : Descending Job.priority
      (shownOthers jobs (request.target job) request.jobId) := (descending_column hdistinct).filter _
  rcases getReorderAnchor_spec hanchor with ⟨hnone, rfl⟩ | ⟨id, found, hid, rfl, hfound, hstatus⟩
  · -- no anchor: the job goes above everything else
    rw [hnone] at hroom
    rw [calculatePriority, Except.ok.injEq] at hpriority
    refine ⟨[], _, rfl, by simp, fun x hx => ?_, by simp [PlaceFor, hnone]⟩
    rw [← hpriority]
    exact lt_of_le_of_lt (priority_le_maxPriority (mem_otherJobs.mpr hx)) (lt_add_increment hroom)
  · rw [hid] at hroom hself
    have hroom := hroom found hfound
    obtain ⟨hrow, hkey⟩ := Table.find?_eq_some_iff.mp hfound
    have hne : found.id ≠ request.jobId := by
      intro heq
      exact hself (by rw [← hkey, heq])
    have hshown : found ∈ shownOthers jobs (request.target job) request.jobId :=
      mem_shownOthers.mpr ⟨⟨hrow, hstatus⟩, hne⟩
    obtain ⟨l, r, hsplit⟩ := List.append_of_mem hshown
    rw [hsplit] at hdescending
    have hmem : ∀ x, x ∈ l ∨ x = found ∨ x ∈ r →
        x ∈ shownOthers jobs (request.target job) request.jobId := by
      intro x hx
      rw [hsplit]
      simpa using hx
    unfold calculatePriority at hpriority
    by_cases habove : request.placement = some "above"
    · simp only [habove, if_true] at hpriority hroom
      have hfalls : found.priority < priority ∧ ∀ x ∈ l, priority < x.priority := by
        cases hhigher : higherPriority jobs (request.target job) request.jobId found with
        | some higher =>
            simp only [hhigher, Except.ok.injEq] at hpriority hroom
            obtain ⟨hlow, hhigh⟩ := midpoint_of_room hroom
            rw [hpriority] at hlow hhigh
            refine ⟨hlow, fun x hx => ?_⟩
            obtain ⟨higher', heq, hle⟩ :=
              higherPriority_le (hmem x (.inl hx)) (hdescending.lt_of_mem_left hx)
            rw [hhigher, Option.some.injEq] at heq
            exact lt_of_lt_of_le hhigh (heq ▸ hle)
        | none =>
            simp only [hhigher, Except.ok.injEq] at hpriority hroom
            rw [← hpriority]
            refine ⟨lt_add_increment hroom, fun x hx => ?_⟩
            obtain ⟨higher', heq, -⟩ :=
              higherPriority_le (hmem x (.inl hx)) (hdescending.lt_of_mem_left hx)
            rw [hhigher] at heq
            cases heq
      refine ⟨l, found :: r, hsplit, hfalls.2, ?_, ?_⟩
      · rintro x (_ | ⟨_, hx⟩)
        · exact hfalls.1
        · exact (hdescending.lt_of_mem_right hx).trans hfalls.1
      · intro anchorId hanchorId
        rw [hid, Option.some.injEq] at hanchorId
        exact .inl ⟨habove, found, r, rfl, hkey.trans hanchorId⟩
    · have hbelow : request.placement = some "below" := by
        by_contra hother
        simp [habove, hother] at hpriority
      simp only [hbelow, if_true, Option.some.injEq, String.reduceEq, if_false]
        at hpriority hroom
      have hfalls : priority < found.priority ∧ ∀ x ∈ r, x.priority < priority := by
        cases hlower : lowerPriority jobs (request.target job) request.jobId found with
        | some lower =>
            simp only [hlower, Except.ok.injEq] at hpriority hroom
            obtain ⟨hlow, hhigh⟩ := midpoint_of_room hroom
            rw [hpriority] at hlow hhigh
            refine ⟨hhigh, fun x hx => ?_⟩
            obtain ⟨lower', heq, hle⟩ :=
              le_lowerPriority (hmem x (.inr (.inr hx))) (hdescending.lt_of_mem_right hx)
            rw [hlower, Option.some.injEq] at heq
            exact lt_of_le_of_lt (heq ▸ hle) hlow
        | none =>
            simp only [hlower, Except.ok.injEq] at hpriority hroom
            rw [← hpriority]
            refine ⟨sub_increment_lt hroom, fun x hx => ?_⟩
            obtain ⟨lower', heq, -⟩ :=
              le_lowerPriority (hmem x (.inr (.inr hx))) (hdescending.lt_of_mem_right hx)
            rw [hlower] at heq
            cases heq
      refine ⟨l ++ [found], r, by simp [hsplit], ?_, hfalls.2, ?_⟩
      · intro x hx
        rcases List.mem_append.mp hx with hx | hx
        · exact hfalls.1.trans (hdescending.lt_of_mem_left hx)
        · rw [List.mem_singleton.mp hx]
          exact hfalls.1
      · intro anchorId hanchorId
        rw [hid, Option.some.injEq] at hanchorId
        exact .inr ⟨hbelow, found, l, rfl, hkey.trans hanchorId⟩

/-- **One reorder.**  Where there is room, the moved job is shown next to its anchor, the other jobs
as before, and the priorities stay distinct. -/
theorem reorder_places {u : Unit} (hdistinct : DistinctPriorities jobs)
    (hroom : HasRoom jobs request)
    (hrun : (jobJobsReorderCreate request).run jobs = .ok (u, jobs')) :
    Placed request jobs jobs' ∧ DistinctPriorities jobs' := by
  obtain ⟨job, anchor, priority, hjob, hanchor, hself, hpriority, rfl⟩ :=
    jobJobsReorderCreate_spec hrun
  obtain ⟨pre, post, hsplit, hpre, hpost, hplace⟩ :=
    calculated_priority_falls hdistinct hroom hjob hanchor hself hpriority
  have hid : job.id = request.jobId := Table.key_of_find? hjob
  set moved : Job := { job with
    priority := priority
    status := request.target job
    updatedAt := request.now }
  have hmoved : moved.id = request.jobId := hid
  have hfound : (jobs.find? moved.id).isSome := by rw [hmoved, hjob]; rfl
  have hsplit' : shownOthers jobs moved.status moved.id = pre ++ post := by
    rw [hmoved]
    exact hsplit
  obtain ⟨hdistinct', hcolumn, hothers⟩ := column_put hdistinct hfound hsplit' hpre hpost
  have hids : columnIds (jobs.put moved) (request.target job)
      = pre.map Job.id ++ request.jobId :: post.map Job.id := by
    have hcolumn : column (jobs.put moved) (request.target job) = pre ++ moved :: post := hcolumn
    rw [columnIds, hcolumn, List.map_append, List.map_cons, hmoved]
  have hshown : ∀ status, (shownOthers jobs status request.jobId).map Job.id
      = (columnIds jobs status).filter (· ≠ request.jobId) := by
    intro status
    rw [shownOthers, columnIds, List.filter_map]
    rfl
  have hnot : ∀ status, ∀ x ∈ shownOthers jobs status request.jobId, x.id ≠ request.jobId :=
    fun status x hx => (mem_shownOthers.mp hx).2
  refine ⟨⟨fun status => ?_, fun job' hjob' => ?_, fun job' anchorId hjob' hanchorId => ?_⟩,
    hdistinct'⟩
  · rw [← hshown]
    by_cases hstatus : status = request.target job
    · have hkeep : ∀ x ∈ pre ++ post, x.id ≠ request.jobId := fun x hx =>
        hnot (request.target job) x (hsplit ▸ hx)
      rw [hstatus, hids, hsplit, List.filter_append, List.filter_cons_of_neg (by simp),
        ← List.filter_append, ← List.map_append, List.filter_eq_self]
      intro id hmem
      obtain ⟨x, hx, rfl⟩ := List.mem_map.mp hmem
      exact decide_eq_true (hkeep x hx)
    · rw [columnIds, hothers status hstatus, hmoved, List.filter_eq_self]
      intro id hmem
      obtain ⟨x, hx, rfl⟩ := List.mem_map.mp hmem
      exact decide_eq_true (hnot status x hx)
  · rw [hjob, Option.some.injEq] at hjob'
    rw [← hjob', hids]
    simp
  · rw [hjob, Option.some.injEq] at hjob'
    rw [← hjob', hids]
    rcases hplace anchorId hanchorId with ⟨habove, anchor, r, hr, hkey⟩ | ⟨hbelow, anchor, l, hl, hkey⟩
    · exact .inl ⟨habove, pre.map Job.id, r.map Job.id, by rw [hr, List.map_cons, hkey]⟩
    · refine .inr ⟨hbelow, l.map Job.id, post.map Job.id, ?_⟩
      rw [hl, List.map_append, List.map_singleton, hkey, List.append_assoc]
      rfl

/-! ## Runs of reorders -/

def FindsRoom (jobs : Jobs) (request : JobReorderRequest) : Prop :=
  (∃ served, (jobJobsReorderCreate request).run jobs = .ok served) → HasRoom jobs request

/-- **Every reorder of every run.**  From distinct priorities, as long as every served request
finds room, the next one shows its job next to its anchor, leaves the order of the others and
keeps the priorities distinct. -/
theorem reorders_place {requests : List JobReorderRequest} {u : Unit}
    (hdistinct : DistinctPriorities jobs)
    (hroom : AllMeet jobJobsReorderCreate FindsRoom jobs (requests ++ [request]))
    (hrun : (jobJobsReorderCreate request).run (serveAll jobJobsReorderCreate jobs requests)
      = .ok (u, jobs')) :
    Placed request (serveAll jobJobsReorderCreate jobs requests) jobs' ∧
      DistinctPriorities jobs' := by
  obtain ⟨hbefore, hlast, -⟩ := hroom.append
  refine reorder_places ?_ (hlast ⟨_, hrun⟩) hrun
  exact serveAll_keeps_of_meet
    (fun _ _ h hfinds _ _ hrun => (reorder_places h (hfinds ⟨_, hrun⟩) hrun).2) hdistinct hbefore

/-! ### A board of three -/

def threeJobs : Jobs where
  rows := [⟨1, .inProgress, .ofRat 200, 1, 1, "gate"⟩, ⟨2, .inProgress, .ofRat 400, 2, 2, "rail"⟩,
    ⟨3, .inProgress, .ofRat 600, 3, 3, "door"⟩]
  nodup := by decide

def moveAbove (jobId anchorId : ℕ) : JobReorderRequest :=
  ⟨jobId, some anchorId, some "above", none, 10⟩

lemma room_above_the_rail : FindsRoom threeJobs (moveAbove 1 2) := by
  intro _ job hjob anchor hanchor
  have hgate : threeJobs.find? 1 = some ⟨1, .inProgress, .ofRat 200, 1, 1, "gate"⟩ := by
    decide +kernel
  have hrail : threeJobs.find? 2 = some ⟨2, .inProgress, .ofRat 400, 2, 2, "rail"⟩ := by
    decide +kernel
  obtain rfl := Option.some.inj (hgate.symm.trans hjob)
  obtain rfl := Option.some.inj (hrail.symm.trans hanchor)
  have hdoor : higherPriority threeJobs .inProgress 1 ⟨2, .inProgress, .ofRat 400, 2, 2, "rail"⟩
      = some (.ofRat 600) := by
    decide +kernel
  obtain ⟨x, hx, -⟩ := Float64.ofRat_intCast (n := 500) (by norm_num)
  show match higherPriority threeJobs .inProgress 1 ⟨2, .inProgress, .ofRat 400, 2, 2, "rail"⟩ with
    | some higher => RoomBetween (.ofRat 400) higher
    | none => RoomAbove (.ofRat 400)
  rw [hdoor]
  refine ⟨by decide +kernel, x, ?_, ?_⟩
  · rw [← hx]
    decide +kernel
  · rw [← hx]
    decide +kernel

/-- The gate goes above the rail. -/
theorem reorders_place_above_the_rail :
    ∃ jobs', (jobJobsReorderCreate (moveAbove 1 2)).run threeJobs = .ok ((), jobs') ∧
      columnIds jobs' .inProgress = [3, 1, 2] ∧ Placed (moveAbove 1 2) threeJobs jobs' ∧
      DistinctPriorities jobs' := by
  obtain ⟨⟨⟩, jobs', hrun, hids⟩ := exists_of_endsIn (x := jobJobsReorderCreate (moveAbove 1 2))
    (s := threeJobs) (p := fun _ jobs' => columnIds jobs' .inProgress = [3, 1, 2])
    (by decide +kernel)
  have hroom : AllMeet jobJobsReorderCreate FindsRoom threeJobs ([] ++ [moveAbove 1 2]) :=
    ⟨room_above_the_rail, trivial⟩
  exact ⟨jobs', hrun, of_decide_eq_true hids, reorders_place (by decide +kernel) hroom hrun⟩

/-- The gate and the door take turns right above the rail. -/
def takingTurns : ℕ → List JobReorderRequest
  | 0 => []
  | n + 1 => moveAbove 1 2 :: moveAbove 3 2 :: takingTurns n

/-- **The gap runs out.**  After 27 turns each there is no double left between the two, and they
share a priority. -/
theorem gap_runs_out :
    DistinctPriorities threeJobs ∧
      ¬ DistinctPriorities (serveAll jobJobsReorderCreate threeJobs (takingTurns 27)) := by
  constructor
  · decide +kernel
  · decide +kernel

end Kanban

end Docketworks
