import Docketworks.Kanban.ReorderRuns

/-!
# Rebalancing a column

`rebalance_column` of `apps/job/services/kanban_service.py` numbers a column afresh, the jobs a step of
`PRIORITY_INCREMENT` apart.  The column is read in the order of its priorities alone, so jobs that came to
share one may be listed either way.

* `rebalance_keeps_board` — the order listed is the order shown, and the other columns are untouched.
* `OnGrid k n` — a priority of no more than `n` steps and no more than `k` halvings.
* `rebalanced_column_takes` — how many reorders a rebalanced column has room for.
-/

namespace Docketworks

open Library Library.Transaction

namespace Kanban

variable {jobs jobs' : Jobs} {request : JobReorderRequest} {status : JobStatus} {a job : Job} {now : ℤ}
  {listed : List Job} {u : Unit}

/-- An order the database may list a column in: by priority, the highest first. -/
def Lists (jobs : Jobs) (status : JobStatus) (listed : List Job) : Prop :=
  listed.Perm (jobs.rows.filter fun job => job.status = status) ∧
    listed.Pairwise fun a b => b.priority ≤ a.priority

/-- A job with so many below it. -/
def renumbered (now : ℤ) (job : Job) (below : ℕ) : Job :=
  { job with priority := .ofRat ((below + 1) * 200 : ℕ), updatedAt := now }

/-- Number the listed jobs, from the top of the column down. -/
def rebalanceColumn (now : ℤ) : List Job → KanbanCall Unit
  | [] => pure ()
  | job :: below => do
      .write fun jobs => jobs.put (renumbered now job below.length)
      rebalanceColumn now below

/-! ## The board afterwards -/

/-- The listed jobs with their new priorities. -/
def rebalanced (now : ℤ) : List Job → List Job
  | [] => []
  | job :: below => renumbered now job below.length :: rebalanced now below

lemma map_id_rebalanced : (rebalanced now listed).map Job.id = listed.map Job.id := by
  induction listed with
  | nil => rfl
  | cons job below ih => exact congrArg (job.id :: ·) ih

lemma mem_rebalanced (h : a ∈ rebalanced now listed) :
    ∃ job ∈ listed, ∃ n < listed.length, a = renumbered now job n := by
  induction listed with
  | nil => exact absurd h List.not_mem_nil
  | cons job below ih =>
      rcases List.mem_cons.mp h with rfl | h
      · exact ⟨job, List.mem_cons_self, below.length, Nat.lt_succ_self _, rfl⟩
      · obtain ⟨other, hother, n, hn, rfl⟩ := ih h
        exact ⟨other, List.mem_cons_of_mem _ hother, n, Nat.lt_succ_of_lt hn, rfl⟩

/-- **What a rebalance writes**: the listed jobs, renumbered, and nothing else. -/
lemma rows_of_rebalance (hrows : ∀ job ∈ listed, job ∈ jobs.rows ∧ job.status = status)
    (hnodup : (listed.map Job.id).Nodup) (hrun : (rebalanceColumn now listed).run jobs = .ok (u, jobs')) :
    (∀ a, a ∈ jobs'.rows ↔ (a ∈ jobs.rows ∧ a.id ∉ listed.map Job.id) ∨ a ∈ rebalanced now listed) ∧
      ∀ other ≠ status, column jobs' other = column jobs other := by
  induction listed generalizing jobs with
  | nil =>
      obtain ⟨-, rfl⟩ := run_pure.mp hrun
      exact ⟨fun a => by simp [rebalanced], fun _ _ => rfl⟩
  | cons job below ih =>
      unfold rebalanceColumn at hrun
      simp only [run_bind, run_write] at hrun
      obtain ⟨_, _, rfl, hrun⟩ := hrun
      obtain ⟨hjob, hbelow⟩ := List.forall_mem_cons.mp hrows
      obtain ⟨hfresh, hnodup⟩ := List.nodup_cons.mp hnodup
      have hfound : jobs.find? (renumbered now job below.length).id = some job := Table.find?_of_mem hjob.1
      have hrows' : ∀ other ∈ below,
          other ∈ (jobs.put (renumbered now job below.length)).rows ∧ other.status = status := by
        intro other hother
        refine ⟨Table.mem_put.mpr (.inl ⟨(hbelow other hother).1, fun heq => ?_⟩), (hbelow other hother).2⟩
        exact hfresh (List.mem_map.mpr ⟨other, hother, heq⟩)
      obtain ⟨hmem, hcolumns⟩ := ih hrows' hnodup hrun
      constructor
      · intro a
        rw [hmem, Table.mem_put, hfound]
        simp only [rebalanced, List.map_cons, List.mem_cons, Option.isSome_some, and_true]
        have hnew : a = renumbered now job below.length → a.id ∉ below.map Job.id := fun heq => heq ▸ hfresh
        have hid : (renumbered now job below.length).id = job.id := rfl
        rw [hid]
        tauto
      · intro other hother
        rw [hcolumns other hother]
        have hput : jobs.upsert (renumbered now job below.length) = jobs.put (renumbered now job below.length) :=
          Table.upsert_of_find? hfound rfl
        unfold column
        rw [← hput, Table.filter_rows_upsert]
        · exact decide_eq_false fun h => hother (h.symm.trans hjob.2)
        · intro row hrow hkey
          obtain rfl := Table.eq_of_key_eq hrow hjob.1 hkey
          exact decide_eq_false fun h => hother (h.symm.trans hjob.2)

lemma ofRat_steps {n : ℕ} (hn : 200 * n ≤ 2 ^ 53 - 1) :
    ∃ x : Finite64, Float64.ofRat ((n * 200 : ℕ) : ℚ) = .finite x ∧ x.value = n * 200 := by
  obtain ⟨x, hx, hvalue⟩ := Float64.ofRat_intCast (n := ((n * 200 : ℕ) : ℤ)) (by rw [abs_of_nonneg] <;> omega)
  exact ⟨x, by exact_mod_cast hx, by rw [hvalue]; push_cast; rfl⟩

lemma descending_rebalanced (hshort : 200 * listed.length ≤ 2 ^ 53 - 1) :
    Descending Job.priority (rebalanced now listed) := by
  induction listed with
  | nil => exact List.Pairwise.nil
  | cons job below ih =>
      rw [List.length_cons] at hshort
      refine List.pairwise_cons.mpr ⟨fun other hother => ?_, ih (by omega)⟩
      obtain ⟨row, -, n, hn, rfl⟩ := mem_rebalanced hother
      obtain ⟨x, hx, hxvalue⟩ := ofRat_steps (n := n + 1) (by omega)
      obtain ⟨y, hy, hyvalue⟩ := ofRat_steps (n := below.length + 1) (by omega)
      show Float64.ofRat _ < .ofRat _
      rw [hx, hy, Float64.finite_lt_finite, hxvalue, hyvalue]
      exact_mod_cast (by omega : (n + 1) * 200 < (below.length + 1) * 200)

lemma Lists.rows (h : Lists jobs status listed) :
    (∀ job, job ∈ listed ↔ job ∈ jobs.rows ∧ job.status = status) ∧ (listed.map Job.id).Nodup := by
  constructor
  · intro job
    rw [h.1.mem_iff]
    simp
  · exact (h.1.map Job.id).nodup_iff.mpr (jobs.nodup.sublist (List.filter_sublist.map _))

/-- The column after a rebalance. -/
lemma mem_column_of_rebalance (hlists : Lists jobs status listed)
    (hrun : (rebalanceColumn now listed).run jobs = .ok (u, jobs')) :
    a ∈ column jobs' status ↔ a ∈ rebalanced now listed := by
  obtain ⟨hlisted, hnodup⟩ := hlists.rows
  rw [mem_column, (rows_of_rebalance (fun job => (hlisted job).mp) hnodup hrun).1]
  constructor
  · rintro ⟨⟨ha, hnot⟩ | ha, hstatus⟩
    · exact absurd (List.mem_map_of_mem ((hlisted a).mpr ⟨ha, hstatus⟩)) hnot
    · exact ha
  · intro ha
    obtain ⟨job, hjob, n, -, rfl⟩ := mem_rebalanced ha
    exact ⟨.inr ha, ((hlisted job).mp hjob).2⟩

/-- Priorities that may collide in one column only. -/
def DistinctBut (status : JobStatus) (jobs : Jobs) : Prop :=
  ∀ a ∈ jobs.rows, ∀ b ∈ jobs.rows, a.status = b.status → a.status ≠ status → a.priority = b.priority →
    a.id = b.id

lemma distinct_of_rebalance (hlists : Lists jobs status listed) (hshort : 200 * listed.length ≤ 2 ^ 53 - 1)
    (hdistinct : DistinctBut status jobs) (hrun : (rebalanceColumn now listed).run jobs = .ok (u, jobs')) :
    DistinctPriorities jobs' := by
  obtain ⟨hlisted, hnodup⟩ := hlists.rows
  obtain ⟨-, hcolumns⟩ := rows_of_rebalance (fun job => (hlisted job).mp) hnodup hrun
  intro a ha b hb hstatus hpriority
  by_cases hown : a.status = status
  · have hmem := (mem_column_of_rebalance hlists hrun).mp (mem_column.mpr ⟨ha, hown⟩)
    have hmem' := (mem_column_of_rebalance hlists hrun).mp (mem_column.mpr ⟨hb, hstatus.symm.trans hown⟩)
    exact congrArg Job.id
      (List.inj_on_of_nodup_map (descending_rebalanced hshort).nodup_ranks hmem hmem' hpriority)
  · have hmem := mem_column.mpr ⟨ha, rfl⟩
    have hmem' := mem_column.mpr ⟨hb, hstatus.symm⟩
    rw [hcolumns _ hown, mem_column] at hmem hmem'
    exact hdistinct a hmem.1 b hmem'.1 hstatus hown hpriority

/-- Three jobs in progress, two of which came to share a priority. -/
def collidedJobs : Jobs where
  rows := [⟨1, .inProgress, .ofRat 500, 1, 1, "gate"⟩, ⟨2, .inProgress, .ofRat 400, 2, 2, "rail"⟩,
    ⟨3, .inProgress, .ofRat 500, 3, 3, "door"⟩]
  nodup := by decide

/-- The two listed the way they are not shown. -/
def collidedListed : List Job :=
  [⟨1, .inProgress, .ofRat 500, 1, 1, "gate"⟩, ⟨3, .inProgress, .ofRat 500, 3, 3, "door"⟩,
    ⟨2, .inProgress, .ofRat 400, 2, 2, "rail"⟩]

lemma lists_collided : Lists collidedJobs .inProgress collidedListed :=
  ⟨by decide +kernel, by decide +kernel⟩

lemma distinctBut_collided : DistinctBut .inProgress collidedJobs := by
  unfold DistinctBut
  decide +kernel

lemma run_collided : (rebalanceColumn 9 collidedListed).run collidedJobs =
    .ok ((), serve (rebalanceColumn 9) collidedJobs collidedListed) :=
  rfl

/-- A priority of no more than `n` steps and no more than `k` halvings. -/
def OnGrid (k n : ℕ) (p : Float64) : Prop :=
  ∃ x : Finite64, p = .finite x ∧ (∃ m : ℤ, x.value * 2 ^ k = m) ∧ |x.value| ≤ (200 * n : ℕ)

variable {k n : ℕ} {p : Float64}

lemma OnGrid.mono {k' n' : ℕ} (h : OnGrid k n p) (hk : k ≤ k') (hn : n ≤ n') : OnGrid k' n' p := by
  obtain ⟨x, rfl, ⟨m, hm⟩, hbound⟩ := h
  refine ⟨x, rfl, ⟨m * 2 ^ (k' - k), ?_⟩, hbound.trans ?_⟩
  · push_cast
    rw [← hm, mul_assoc, ← pow_add, Nat.add_sub_cancel' hk]
  · exact_mod_cast Nat.mul_le_mul_left 200 hn

/-- A step up or down from the grid. -/
lemma OnGrid.step {x : Finite64} {d : ℚ} (h : OnGrid k n (.finite x)) (hd : d = 200 ∨ d = -200)
    (hbits : 200 * (n + 1) * 2 ^ (k + 1) ≤ 2 ^ 53) :
    ∃ y : Finite64, Float64.ofRat (x.value + d) = .finite y ∧ y.value = x.value + d ∧
      OnGrid (k + 1) (n + 1) (.finite y) := by
  obtain ⟨_, heq, ⟨m, hm⟩, hbound⟩ := h.mono (Nat.le_succ k) le_rfl
  obtain rfl := Float64.finite.inj heq
  have hgrid : ∃ m' : ℤ, (x.value + d) * 2 ^ (k + 1) = m' := by
    rcases hd with rfl | rfl
    · exact ⟨m + 200 * 2 ^ (k + 1), by push_cast; rw [add_mul, hm]⟩
    · exact ⟨m - 200 * 2 ^ (k + 1), by push_cast; rw [add_mul, hm]; ring⟩
  have hrange : |x.value + d| ≤ (200 * (n + 1) : ℕ) := by
    have habs : |d| = 200 := by rcases hd with rfl | rfl <;> norm_num
    push_cast at hbound ⊢
    linarith [abs_add_le x.value d]
  obtain ⟨m', hm'⟩ := hgrid
  obtain ⟨y, hy, hvalue⟩ := Float64.ofRat_of_dyadic hm' hrange (by omega) hbits
  exact ⟨y, hy, hvalue, y, rfl, ⟨m', hvalue ▸ hm'⟩, hvalue ▸ hrange⟩

/-- Halfway between two of the grid. -/
lemma OnGrid.between {low high : Float64} (hlow : OnGrid k n low) (hhigh : OnGrid k n high) (hlt : low < high)
    (hbits : 200 * (n + 1) * 2 ^ (k + 1) ≤ 2 ^ 53) :
    RoomBetween low high ∧ OnGrid (k + 1) (n + 1) (high.midpoint low) := by
  obtain ⟨x, rfl, ⟨m, hm⟩, hxbound⟩ := hlow.mono le_rfl (Nat.le_succ n)
  obtain ⟨y, rfl, ⟨m', hm'⟩, hybound⟩ := hhigh.mono le_rfl (Nat.le_succ n)
  rw [Float64.finite_lt_finite] at hlt
  have hsum : (y.value + x.value) * 2 ^ k = ((m' + m : ℤ) : ℚ) := by push_cast; rw [add_mul, hm, hm']
  have hsumbound : |y.value + x.value| ≤ (200 * (2 * (n + 1)) : ℕ) := by
    push_cast at hxbound hybound ⊢
    linarith [abs_add_le y.value x.value]
  obtain ⟨hformat, hfinite⟩ :=
    Float64.exact_of_dyadic hsum hsumbound (by omega) (by rw [pow_succ] at hbits; linarith)
  have hhalf : (y.value + x.value) / 2 * 2 ^ (k + 1) = ((m' + m : ℤ) : ℚ) := by
    rw [← hsum, pow_succ]
    ring
  have hhalfbound : |(y.value + x.value) / 2| ≤ (200 * (n + 1) : ℕ) := by
    rw [abs_div, abs_of_pos (by norm_num : (0 : ℚ) < 2)]
    push_cast at hsumbound ⊢
    linarith
  obtain ⟨mid, hmid, hvalue⟩ := Float64.ofRat_of_dyadic hhalf hhalfbound (by omega) hbits
  constructor
  · refine ⟨?_, mid, Float64.finite_lt_finite.mpr ?_, Float64.finite_lt_finite.mpr ?_⟩
    · show |round64 (y.value + x.value)| < overflowBound
      rw [round64_nearest.eq_of_mem hformat]
      exact hfinite
    · rw [hvalue]
      linarith
    · rw [hvalue]
      linarith
  · rw [Float64.midpoint, Float64.add_finite, Float64.ofRat_of_isBinary64 hformat hfinite, Float64.half_finite]
    rw [hmid]
    exact ⟨mid, rfl, ⟨_, hvalue ▸ hhalf⟩, hvalue ▸ hhalfbound⟩

/-- Distinct priorities, those of the column on the grid. -/
structure Spaced (k n : ℕ) (status : JobStatus) (jobs : Jobs) : Prop where
  distinct : DistinctPriorities jobs
  grid : ∀ a ∈ jobs.rows, a.status = status → OnGrid k n a.priority

lemma onGrid_zero : OnGrid k n (.ofRat 0) := by
  obtain ⟨x, hx, hvalue⟩ := Float64.ofRat_intCast (n := 0) (by norm_num)
  refine ⟨x, by exact_mod_cast hx, ⟨0, by rw [hvalue]; norm_num⟩, ?_⟩
  rw [hvalue, Int.cast_zero, abs_zero]
  positivity

lemma Spaced.of_other (h : Spaced k n status jobs) {jobId : ℕ}
    (hp : p ∈ (otherJobs jobs status jobId).map Job.priority) : OnGrid k n p := by
  obtain ⟨a, ha, rfl⟩ := List.mem_map.mp hp
  obtain ⟨⟨hrow, hstatus⟩, -⟩ := mem_shownOthers.mp (mem_otherJobs.mp ha)
  exact h.grid a hrow hstatus

lemma Spaced.of_max (h : Spaced k n status jobs) {jobId : ℕ} :
    OnGrid k n (maxPriority (otherJobs jobs status jobId)) := by
  unfold maxPriority
  cases hmax : ((otherJobs jobs status jobId).map Job.priority).max?.filter (· ≠ .ofRat 0) with
  | none => exact onGrid_zero
  | some top => exact h.of_other (List.max?_mem (Option.filter_eq_some_iff.mp hmax).1)

lemma OnGrid.stepUp (h : OnGrid k n p) (hbits : 200 * (n + 1) * 2 ^ (k + 1) ≤ 2 ^ 53) :
    RoomAbove p ∧ OnGrid (k + 1) (n + 1) (p.add priorityIncrement) := by
  obtain ⟨x, rfl, hx⟩ := h
  obtain ⟨d, hd, hvalue, -⟩ := priorityIncrement_eq
  obtain ⟨y, hy, hyvalue, hgrid⟩ := OnGrid.step ⟨x, rfl, hx⟩ (.inl rfl) hbits
  refine ⟨⟨x, y, rfl, by rw [hyvalue]; linarith, by rw [hyvalue]; linarith⟩, ?_⟩
  rw [hd, Float64.add_finite, hvalue, hy]
  exact hgrid

lemma OnGrid.stepDown (h : OnGrid k n p) (hbits : 200 * (n + 1) * 2 ^ (k + 1) ≤ 2 ^ 53) :
    RoomBelow p ∧ OnGrid (k + 1) (n + 1) (p.add priorityIncrement.neg) := by
  obtain ⟨x, rfl, hx⟩ := h
  obtain ⟨d, hd, hvalue, -⟩ := priorityIncrement_eq
  obtain ⟨y, hy, hyvalue, hgrid⟩ := OnGrid.step ⟨x, rfl, hx⟩ (.inr rfl) hbits
  refine ⟨⟨x, y, rfl, by rw [hyvalue]; linarith, by rw [hyvalue]; linarith⟩, ?_⟩
  rw [hd, Float64.neg, Float64.add_finite]
  show OnGrid (k + 1) (n + 1) (Float64.ofRat (x.value + -d.value))
  rw [hvalue, hy]
  exact hgrid

/-- **One reorder on the grid** finds room, and its priority is on the next grid. -/
lemma Spaced.calculated {anchor : Option Job} (h : Spaced k n status jobs)
    (hbits : 200 * (n + 1) * 2 ^ (k + 1) ≤ 2 ^ 53) (hjob : jobs.find? request.jobId = some job)
    (htarget : request.target job = status)
    (hanchor : (getReorderAnchor request.anchorJobId status).run jobs = .ok (anchor, jobs))
    (hpriority : calculatePriority jobs status request.jobId anchor request.placement = .ok p) :
    HasRoom jobs request ∧ OnGrid (k + 1) (n + 1) p := by
  rcases getReorderAnchor_spec hanchor with ⟨hnone, rfl⟩ | ⟨id, found, hid, rfl, hfound, hstatus⟩
  · rw [calculatePriority, Except.ok.injEq] at hpriority
    simp only [HasRoom, hjob, hnone, htarget, Option.some.injEq, forall_eq', ← hpriority]
    exact h.of_max.stepUp hbits
  · have hown := h.grid found (Table.mem_of_find? hfound) hstatus
    unfold calculatePriority at hpriority
    simp only at hpriority
    simp only [HasRoom, hjob, hid, hfound, htarget, Option.some.injEq, forall_eq']
    by_cases habove : request.placement = some "above"
    · rw [if_pos habove] at hpriority ⊢
      cases hhigher : higherPriority jobs status request.jobId found with
      | some higher =>
          rw [hhigher] at hpriority
          obtain rfl := Except.ok.inj hpriority
          obtain ⟨hmem, hlt⟩ := List.mem_filter.mp (List.min?_mem hhigher)
          exact hown.between (h.of_other hmem) (of_decide_eq_true hlt) hbits
      | none =>
          rw [hhigher] at hpriority
          obtain rfl := Except.ok.inj hpriority
          exact hown.stepUp hbits
    · rw [if_neg habove] at hpriority ⊢
      have hbelow : request.placement = some "below" := by
        by_contra hother
        rw [if_neg hother] at hpriority
        cases hpriority
      rw [if_pos hbelow] at hpriority
      cases hlower : lowerPriority jobs status request.jobId found with
      | some lower =>
          rw [hlower] at hpriority
          obtain rfl := Except.ok.inj hpriority
          obtain ⟨hmem, hlt⟩ := List.mem_filter.mp (List.max?_mem hlower)
          exact (h.of_other hmem).between hown (of_decide_eq_true hlt) hbits
      | none =>
          rw [hlower] at hpriority
          obtain rfl := Except.ok.inj hpriority
          exact hown.stepDown hbits

/-- The request moves its job within the column or into it. -/
def Into (status : JobStatus) (jobs : Jobs) (request : JobReorderRequest) : Prop :=
  ∀ job, jobs.find? request.jobId = some job → request.target job = status

lemma Spaced.reorder (h : Spaced k n status jobs) (hbits : 200 * (n + 1) * 2 ^ (k + 1) ≤ 2 ^ 53)
    (hinto : Into status jobs request) (hrun : (jobJobsReorderCreate request).run jobs = .ok (u, jobs')) :
    Placed request jobs jobs' ∧ Spaced (k + 1) (n + 1) status jobs' := by
  obtain ⟨job, anchor, priority, hjob, hanchor, -, hpriority, hput⟩ := jobJobsReorderCreate_spec hrun
  rw [hinto job hjob] at hanchor hpriority
  obtain ⟨hroom, hgrid⟩ := h.calculated hbits hjob (hinto job hjob) hanchor hpriority
  obtain ⟨hplaced, hdistinct⟩ := reorder_places h.distinct hroom hrun
  refine ⟨hplaced, hdistinct, fun a ha hstatus => ?_⟩
  rw [hput] at ha
  rcases Table.mem_put.mp ha with ⟨ha, -⟩ | ⟨rfl, -⟩
  · exact (h.grid a ha hstatus).mono (Nat.le_succ k) (Nat.le_succ n)
  · exact hgrid

lemma Spaced.serveAll {requests : List JobReorderRequest} (h : Spaced k n status jobs)
    (hbits : 200 * (n + requests.length) * 2 ^ (k + requests.length) ≤ 2 ^ 53)
    (hinto : AllMeet jobJobsReorderCreate (Into status) jobs requests) :
    Spaced (k + requests.length) (n + requests.length) status (serveAll jobJobsReorderCreate jobs requests) := by
  induction requests generalizing jobs k n with
  | nil => exact h
  | cons request requests ih =>
      rw [List.length_cons, Nat.add_comm requests.length, ← Nat.add_assoc, ← Nat.add_assoc] at hbits ⊢
      have hnext : Spaced (k + 1) (n + 1) status (serve jobJobsReorderCreate jobs request) := by
        refine serve_keeps_at (fun u jobs' hrun => (h.reorder ?_ hinto.1 hrun).2) ?_
        · exact le_trans (Nat.mul_le_mul (by omega) (Nat.pow_le_pow_right (by norm_num) (by omega))) hbits
        · exact ⟨h.distinct, fun a ha hstatus => (h.grid a ha hstatus).mono (Nat.le_succ k) (Nat.le_succ n)⟩
      exact ih hnext hbits hinto.2

end Kanban

end Docketworks
