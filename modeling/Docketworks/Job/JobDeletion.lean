import Docketworks.Job.CostSummary
import Docketworks.Library.Groups
import Docketworks.Library.Runs

/-!
# Deleting a job

`delete_job` of `apps/job/services/job_service.py`, beside the costing tables, the rollover of
`month_end_service.py` and whatever else moves a job's version.

* `deleteJob` — the guard on the latest actual cost set, and the deletion with all that hangs on the job.
* `JobOp`, `step` — the writes that lead to the state a job is deleted in.
* `Worked` — an actual cost set of the job holds a line that costs or brings in something.
* `deleteJob_keeps_work_iff` — in every reachable state, work is safe exactly where the latest set shows it.

**Design.**  A version is the `updated_at` an `If-Match` header names, as a number.  Which jobs a quote, a
stock holding or a stock movement protects is a column of its own, and anything may change it.  A job's
estimate and quote sets are created by `createCostSet`.
-/

namespace Docketworks.JobDeletion

open Library Library.Transaction

/-! ## The tables -/

/-- The version of a job that a header names. -/
structure JobTag where
  job : ℕ
  updatedAt : ℕ
deriving DecidableEq, Repr

/-- The costing tables, the versions of the jobs, and the jobs that other rows protect. -/
structure JobTables where
  costing : Costing
  updatedAt : ℕ → ℕ
  protectedJobs : List ℕ

def costingPart : Part JobTables Costing where
  get := JobTables.costing
  set costing db := { db with costing }
  get_set _ _ := rfl

abbrev JobCall := Transaction JobTables Refusal

/-! ## The rollover -/

def setLatestActual (job set : ℕ) : CostingCall Unit :=
  .write fun db =>
    let point (row : Job) : Job := if row.id = job then { row with latestActual := some set } else row
    { db with jobs := db.jobs.modify point fun row => by unfold point; split <;> rfl }

/-- The revision after the highest one, or the first. -/
def nextRev (db : Costing) (job : ℕ) : ℕ :=
  match ((db.costSets.rows.filter fun set => set.job = job ∧ set.kind = .actual).map CostSet.rev).max? with
  | none => 1
  | some highest => highest + 1

/-- A new actual cost set of a job, made the latest. -/
def rollForward (job : ℕ) : CostingCall Unit := do
  let db ← Transaction.read (fun db => db)
  let set : CostSet := ⟨db.costSets.freshKey, job, .actual, nextRev db job, ⟨0, 0, 0⟩⟩
  set.create
  setLatestActual job set.id

/-- One job of `process_jobs`. -/
def processJob (id : ℕ) : CostingCall Unit := do
  let db ← Transaction.read (fun db => db)
  let _ ← Transaction.orRefuse (db.jobs.find? id) (.doesNotExist "Job")
  rollForward id

/-- A job comes with its first actual cost set. -/
def createJob (job : Job) : CostingCall Unit := do
  let db ← Transaction.read (fun db => db)
  let jobs ← Transaction.orRefuse (db.jobs.insert? { job with latestActual := none }) (.database "job_job_pkey")
  .write fun db => { db with jobs }
  rollForward job.id

/-! ## The deletion -/

/-- The line is on a cost set of the job. -/
def onJob (db : Costing) (id : ℕ) (line : CostLine) : Bool :=
  (db.costSets.find? line.costSet).any fun set => set.job = id

/-- The cascade: the job goes with its cost sets and their lines. -/
def withoutJob (db : Costing) (id : ℕ) : Costing :=
  { db with
    jobs := db.jobs.erase id
    costSets := db.costSets.filter fun set => set.job ≠ id
    lines := db.lines.filter fun line => !onJob db id line }

/-- The summary the guard reads. -/
def latestSummary (db : Costing) (job : Job) : Option Summary :=
  (job.latestActual.bind db.costSets.find?).map CostSet.summary

def deleteJob (id : ℕ) (ifMatch : List JobTag) : JobCall Unit := do
  let db ← Transaction.read (fun db => db)
  let job ← Transaction.orRefuse (db.costing.jobs.find? id) (.doesNotExist "Job")
  .require (⟨id, db.updatedAt id⟩ ∈ ifMatch) (.preconditionFailed "ETag mismatch: resource has changed")
  .require (∀ summary ∈ latestSummary db.costing job, ¬(0 < summary.cost ∨ 0 < summary.rev))
    (.value "Cannot delete this job because it has real costs or revenue.")
  .require (id ∉ db.protectedJobs) (.database "ProtectedError")
  .write fun db => { db with costing := withoutJob db.costing id }

/-! ## What leads there -/

/-- The writes on the job tables. -/
inductive JobOp where
  | costing (op : CostingOp)
  | createJob (job : Job)
  | processJob (id : ℕ)
  | deleteJob (id : ℕ) (ifMatch : List JobTag)
  /-- A job is edited, or a row that protects one comes or goes. -/
  | elsewhere (updatedAt : ℕ → ℕ) (protectedJobs : List ℕ)

/-- One write. -/
def step : JobOp → JobCall Unit
  | .costing op => on costingPart (Costing.step op)
  | .createJob job => on costingPart (createJob job)
  | .processJob id => on costingPart (processJob id)
  | .deleteJob id ifMatch => deleteJob id ifMatch
  | .elsewhere updatedAt protectedJobs => .write fun db => { db with updatedAt, protectedJobs }

variable {db db' : JobTables} {costing : Costing} {id : ℕ} {ifMatch : List JobTag} {job : Job}

lemma keeps_rollForward (id : ℕ) : Keeps Costing.SummariesCurrent (rollForward id) :=
  .bind .read fun _ => .bind (create_keeps_summariesCurrent _) fun _ =>
    .write fun _ h => ⟨h.current, h.owned⟩

lemma totals_withoutJob (set : CostSet) (hset : set ∈ costing.costSets.rows) (hjob : set.job ≠ id) :
    CostSet.totals (withoutJob costing id).lines set.id = CostSet.totals costing.lines set.id := by
  have hsum : ∀ figure : CostLine → ℚ,
      ((withoutJob costing id).lines.sum fun line => if line.costSet = set.id then figure line else 0) =
        costing.lines.sum fun line => if line.costSet = set.id then figure line else 0 := by
    refine fun figure => sum_filter_of_zero fun line _ hgone => if_neg fun hline => ?_
    rw [onJob, hline, Table.find?_of_mem hset] at hgone
    simp [hjob] at hgone
  unfold CostSet.totals
  rw [hsum, hsum, hsum]

lemma withoutJob_keeps (h : costing.SummariesCurrent) : (withoutJob costing id).SummariesCurrent := by
  refine ⟨fun set hset => ?_, fun line hline => ?_⟩
  · obtain ⟨hset, hjob⟩ := List.mem_filter.mp hset
    rw [totals_withoutJob set hset (of_decide_eq_true hjob)]
    exact h.current set hset
  · obtain ⟨hline, hother⟩ := List.mem_filter.mp hline
    obtain ⟨set, hset⟩ := Option.isSome_iff_exists.mp (h.owned line hline)
    rw [onJob, hset] at hother
    have hmem : set ∈ (withoutJob costing id).costSets.rows :=
      List.mem_filter.mpr ⟨Table.mem_of_find? hset, by simpa using hother⟩
    rw [← Table.key_of_find? hset, Table.find?_of_mem hmem]
    rfl

lemma step_keeps (op : JobOp) : Keeps (fun db => db.costing.SummariesCurrent) (step op) := by
  have hon : ∀ {x : CostingCall Unit}, Keeps Costing.SummariesCurrent x →
      Keeps (fun db => db.costing.SummariesCurrent) (on costingPart x) := by
    intro x hx db hdb u db' h
    obtain ⟨costing, hrun, rfl⟩ := run_on.mp h
    exact hx db.costing hdb u costing hrun
  cases op with
  | costing op => exact hon (step_keeps_summariesCurrent op)
  | createJob job =>
      exact hon (.bind .read fun _ => .bind .orRefuse fun _ =>
        .bind (.write fun _ h => ⟨h.current, h.owned⟩) fun _ => keeps_rollForward job.id)
  | processJob id => exact hon (.bind .read fun _ => .bind .orRefuse fun _ => keeps_rollForward id)
  | deleteJob id ifMatch =>
      exact .bind .read fun _ => .bind .orRefuse fun _ => .bind .require fun _ => .bind .require fun _ =>
        .bind .require fun _ => .write fun _ h => withoutJob_keeps h
  | elsewhere updatedAt protectedJobs => exact .write fun _ h => h

/-! ## Work -/

/-- An actual cost set of the job holds a line that costs or brings in something. -/
def Worked (db : Costing) (id : ℕ) : Prop :=
  ∃ set ∈ db.costSets.rows, (set.job = id ∧ set.kind = .actual) ∧
    ∃ line ∈ db.lines.rows, line.costSet = set.id ∧ (line.totalCost ≠ 0 ∨ line.totalRev ≠ 0)

/-- The deletion goes through only where there is no work, and a refusal leaves everything as it is. -/
def KeepsWork (db : JobTables) (id : ℕ) (ifMatch : List JobTag) : Prop :=
  (∀ db', (step (.deleteJob id ifMatch)).run db = .ok ((), db') → ¬Worked db.costing id) ∧
    ∀ refusal, (step (.deleteJob id ifMatch)).run db = .error refusal → serve step db (.deleteJob id ifMatch) = db

/-- The request is refused before its guard or after it: its version is not the job's, or a row protects
the job. -/
def TurnedAway (db : JobTables) (id : ℕ) (ifMatch : List JobTag) : Prop :=
  db.costing.jobs.find? id = none ∨ ⟨id, db.updatedAt id⟩ ∉ ifMatch ∨ id ∈ db.protectedJobs

/-- The lines of the latest actual cost set come to a cost or to a revenue. -/
def ShowsWork (db : Costing) (id : ℕ) : Prop :=
  ∃ job ∈ db.jobs.find? id, ∃ set ∈ job.latestActual.bind db.costSets.find?,
    0 < (CostSet.totals db.lines set.id).cost ∨ 0 < (CostSet.totals db.lines set.id).rev

lemma run_deleteJob : (deleteJob id ifMatch).run db = .ok ((), db') ↔
    ∃ job, db.costing.jobs.find? id = some job ∧ ⟨id, db.updatedAt id⟩ ∈ ifMatch ∧
      (∀ summary ∈ latestSummary db.costing job, ¬(0 < summary.cost ∨ 0 < summary.rev)) ∧
      id ∉ db.protectedJobs ∧ db' = { db with costing := withoutJob db.costing id } := by
  simp only [deleteJob, run_bind, run_read, run_orRefuse, run_require, run_write]
  constructor
  · rintro ⟨_, _, ⟨rfl, rfl⟩, job, _, ⟨hjob, rfl⟩, _, _, ⟨htag, rfl⟩, _, _, ⟨hguard, rfl⟩, _, _, ⟨hkept, rfl⟩, rfl⟩
    exact ⟨job, hjob, htag, hguard, hkept, rfl⟩
  · rintro ⟨job, hjob, htag, hguard, hkept, rfl⟩
    exact ⟨db, db, ⟨rfl, rfl⟩, job, db, ⟨hjob, rfl⟩, (), db, ⟨htag, rfl⟩, (), db, ⟨hguard, rfl⟩, (), db,
      ⟨hkept, rfl⟩, rfl⟩

lemma guard_iff (h : costing.SummariesCurrent) (hjob : costing.jobs.find? id = some job) :
    (∀ summary ∈ latestSummary costing job, ¬(0 < summary.cost ∨ 0 < summary.rev)) ↔ ¬ShowsWork costing id := by
  have hset : ∀ set ∈ job.latestActual.bind costing.costSets.find?,
      set.summary = CostSet.totals costing.lines set.id := by
    intro set hset
    obtain ⟨latest, -, hfound⟩ := Option.bind_eq_some_iff.mp hset
    exact h.current set (Table.mem_of_find? hfound)
  unfold ShowsWork latestSummary
  constructor
  · rintro hguard ⟨job', hjob', set, hlatest, hshown⟩
    obtain rfl := Option.some.inj (hjob.symm.trans hjob')
    rw [← hset set hlatest] at hshown
    exact hguard _ (Option.map_eq_some_iff.mpr ⟨set, hlatest, rfl⟩) hshown
  · rintro hshown summary hsummary hguard
    obtain ⟨set, hlatest, rfl⟩ := Option.map_eq_some_iff.mp hsummary
    rw [hset set hlatest] at hguard
    exact hshown ⟨job, hjob, set, hlatest, hguard⟩

/-- Started where the summaries are what the lines add up to. -/
def Started (db : JobTables) : Prop := db.costing.SummariesCurrent

/-- **Deleting a job destroys no work** exactly where the request is turned away anyway, or where any work of
the job shows in the totals of its latest actual cost set. -/
theorem deleteJob_keeps_work_iff (db : JobTables) (hdb : Reachable step Started db) (id : ℕ) (ifMatch : List JobTag) :
    KeepsWork db id ifMatch ↔
      TurnedAway db id ifMatch ∨ (Worked db.costing id → ShowsWork db.costing id) := by
  have hcurrent : db.costing.SummariesCurrent := hdb.keeps (fun _ h => h) step_keeps
  have hrefused : ∀ refusal, (step (.deleteJob id ifMatch)).run db = .error refusal →
      serve step db (.deleteJob id ifMatch) = db := by
    intro refusal hrun
    unfold serve
    rw [hrun]
  constructor
  · rintro ⟨hkeeps, -⟩
    by_contra hnone
    obtain ⟨haway, hhidden⟩ := not_or.mp hnone
    obtain ⟨hfound, htag, hkept⟩ : db.costing.jobs.find? id ≠ none ∧ ⟨id, db.updatedAt id⟩ ∈ ifMatch ∧
        id ∉ db.protectedJobs := by
      unfold TurnedAway at haway
      tauto
    obtain ⟨job, hjob⟩ := Option.ne_none_iff_exists'.mp hfound
    obtain ⟨hworked, hshown⟩ := Classical.not_imp.mp hhidden
    exact hkeeps _ (run_deleteJob.mpr ⟨job, hjob, htag, (guard_iff hcurrent hjob).mpr hshown, hkept, rfl⟩) hworked
  · refine fun h => ⟨fun db' hrun hworked => ?_, hrefused⟩
    obtain ⟨job, hjob, htag, hguard, hkept, -⟩ := run_deleteJob.mp hrun
    rcases h with (hgone | hstale | hprotected) | hshown
    · exact nomatch hgone.symm.trans hjob
    · exact hstale htag
    · exact hkept hprotected
    · exact (guard_iff hcurrent hjob).mp hguard (hshown hworked)

/-! ### A charge before the month's end -/

def chargedJob : List JobOp :=
  [.createJob ⟨1, "Handrail", 101, false, none⟩,
    .costing (.createLine { labourLine with kind := .adjust, labourSubtype := none, costSet := 1, quantity := 1 })]

/-- Nothing is there yet. -/
def noJobs : JobTables := ⟨⟨.empty, .empty, .empty, .empty⟩, fun _ => 0, []⟩

lemma started_noJobs : Started noJobs := ⟨fun _ h => (nomatch h), fun _ h => (nomatch h)⟩

instance : DecidablePred (Worked costing) := fun id =>
  inferInstanceAs (Decidable (∃ set ∈ costing.costSets.rows, (set.job = id ∧ set.kind = .actual) ∧
    ∃ line ∈ costing.lines.rows, line.costSet = set.id ∧ (line.totalCost ≠ 0 ∨ line.totalRev ≠ 0)))

theorem deleteJob_keeps_work_iff_of_a_charge :
    let db := serveAll step noJobs chargedJob
    Worked db.costing 1 ∧ KeepsWork db 1 [⟨1, 0⟩] :=
  ⟨by decide +kernel, (deleteJob_keeps_work_iff _ (reachable_serveAll started_noJobs chargedJob) 1 [⟨1, 0⟩]).mpr
    (.inr fun _ => ⟨⟨1, "Handrail", 101, false, some 1⟩, by decide +kernel, ⟨1, 1, .actual, 1, ⟨32, 105, 0⟩⟩,
      by decide +kernel, .inl (by decide +kernel)⟩)⟩

/-- **After the month's end** the charge is on a set the guard does not read, and goes with the job. -/
theorem rolled_over_charge_is_deleted :
    let db := serveAll step noJobs (chargedJob ++ [.processJob 1])
    Worked db.costing 1 ∧ ¬KeepsWork db 1 [⟨1, 0⟩] :=
  ⟨by decide +kernel, fun h => h.1 _ (run_deleteJob.mpr ⟨⟨1, "Handrail", 101, false, some 2⟩, by decide +kernel,
    by decide +kernel, by decide +kernel, by decide +kernel, rfl⟩) (by decide +kernel)⟩

end Docketworks.JobDeletion
