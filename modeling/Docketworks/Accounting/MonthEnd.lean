import Docketworks.Core.Calendar
import Docketworks.Library.Groups
import Docketworks.Accounting.WipReport

/-!
# Month end and the readers of a job's actuals

The rollover of `apps/job/services/month_end_service.py`, and who reads the actual lines of a job: its
invoicing basis, the work-in-progress report, and the two revenues of
`apps/accounting/services/sales_forecast_service.py`.

* `processJobs` — a new empty actual set becomes the latest of each job.
* `jobRevenueByMonth`, `totalJmAllTime` — what a month brought in, over all actual sets; what a job has
  brought in, over the latest.
* `monthlyRevenues_eq` — the months of a job add up to all of its actual lines.
* `processJobs_spec` — what a run leaves of a job.
* `processJobs_moves_nothing_iff` — the readers report the same and agree exactly if the job has no actual
  lines to leave behind.
* `rollover_hides_the_hour` — an hour that every reader reported is left to one of them.
-/

namespace Docketworks.Accounting

open Library Kanban

/-! ## The rollover -/

/-- `CostSet.objects.create`, with the constraint on the revisions of a job. -/
def Books.createCostSet (books : Books) (set : BookedSet) : Except Refusal Books :=
  if books.costSets.rows.any fun other =>
      other.job = set.job ∧ other.kind = set.kind ∧ other.rev = set.rev then
    .error (.database "job_costset_unique_job_kind_rev")
  else
    match books.costSets.insert? set with
    | none => .error (.database "job_costset_pkey")
    | some costSets => .ok { books with costSets }

/-- The revision after the highest one, or the first. -/
def Books.nextRev (books : Books) (job : ℕ) : ℕ :=
  match ((books.actualSets job).map BookedSet.rev).max? with
  | none => 1
  | some highest => highest + 1

/-- The transaction of `process_jobs` for one job: an empty actual set, made the latest. -/
def Books.rollForward (books : Books) (job : BookedJob) : Except Refusal Books := do
  let set : BookedSet :=
    { id := books.costSets.freshKey, job := job.id, kind := .actual, rev := books.nextRev job.id,
      lines := [] }
  let created ← books.createCostSet set
  pure { created with jobs := created.jobs.put { job with latestActual := set.id } }

/-- What `process_jobs` has come to: the books, the jobs rolled forward and the failures. -/
structure MonthEnd where
  books : Books
  processed : List BookedJob
  errors : List (ℕ × Refusal)

/-- One job of `process_jobs`; a failure is reported and leaves the books as they are. -/
def MonthEnd.processJob (run : MonthEnd) (id : ℕ) : MonthEnd :=
  match run.books.jobs.find? id with
  | none => { run with errors := run.errors ++ [(id, .doesNotExist "Job")] }
  | some job =>
      match run.books.rollForward job with
      | .error refusal => { run with errors := run.errors ++ [(id, refusal)] }
      | .ok books => { run with books, processed := run.processed ++ [job] }

def processJobs (books : Books) (jobIds : List ℕ) : MonthEnd :=
  jobIds.foldl MonthEnd.processJob ⟨books, [], []⟩

/-! ## The revenues of the sales forecast -/

section Readers

variable (books : Books) (job : BookedJob)

def Books.allActualLines : List (ℕ × BookedLine) :=
  (books.costSets.rows.filter fun set => set.kind = .actual).flatMap fun set =>
    set.lines.map fun line => (set.job, line)

/-- `_job_revenue_by_month`: each month's revenue per job, where it is not zero. -/
def Books.jobRevenueByMonth : List (((ℤ × ℤ) × ℕ) × ℚ) :=
  (groupSums (fun line : ℕ × BookedLine => (monthOf line.2.accountingDate, line.1))
    (fun line => line.2.toPricedLine.totalRev) books.allActualLines).filter fun group => group.2 ≠ 0

def Books.monthlyRevenues : ℚ :=
  ((books.jobRevenueByMonth.filter fun group => group.1.2 = job.id).map Prod.snd).sum

def Books.totalJmAllTime : ℚ := revenueOf (books.linesOf job.latestActual)

/-! ## Who reads which lines -/

def Books.basisLines : List BookedLine := books.linesOf job.latestActual

/-- The actual lines of the work-in-progress report as at a date. -/
def Books.wipLines (reportDate : ℤ) : List BookedLine :=
  datedBy reportDate (books.linesOf job.latestActual)

def Books.allTimeLines : List BookedLine := books.linesOf job.latestActual

def Books.monthlyLines : List BookedLine := books.actualLines job.id

/-- All readers read the same lines, up to the date of the report; the basis of a fixed-price job is its
quote and reads none. -/
structure Books.ReadersAgree : Prop where
  basis : job.pricingMethodology = .timeMaterials →
    ∀ line, line ∈ books.basisLines job ↔ line ∈ books.monthlyLines job
  workInProgress : ∀ reportDate line,
    line ∈ books.wipLines job reportDate ↔ line ∈ datedBy reportDate (books.monthlyLines job)
  allTime : ∀ line, line ∈ books.allTimeLines job ↔ line ∈ books.monthlyLines job

end Readers

/-- What the readers report of a job. -/
structure Reported where
  basis : JobInvoicingBasis
  workInProgress : ℤ → Option (ℚ × ℚ)
  allTime : ℚ
  monthly : ℚ

/-- What each reader reports of a job; the report gives its cost and its revenue. -/
def Books.reported (books : Books) (job : BookedJob) : Reported where
  basis := getJobInvoicingBasis (books.loaded job)
  workInProgress reportDate :=
    (books.wipRow reportDate .revenue job).map fun row => (row.totalCost, row.totalRev)
  allTime := books.totalJmAllTime job
  monthly := books.monthlyRevenues job

/-! ## The months of a job -/

variable {books books' : Books} {job : BookedJob} {id : ℕ}

lemma monthlyRevenues_eq (books : Books) (job : BookedJob) :
    books.monthlyRevenues job = revenueOf (books.monthlyLines job) := by
  have hlines : (books.allActualLines.filter fun line => line.1 = job.id).map
      (fun line => line.2.toPricedLine.totalRev) =
      (books.actualLines job.id).map fun line => line.toPricedLine.totalRev := by
    unfold Books.allActualLines Books.actualLines Books.actualSets
    induction books.costSets.rows with
    | nil => rfl
    | cons set sets ih =>
        by_cases hkind : set.kind = .actual
        · by_cases hjob : set.job = job.id
          · have hkept : (set.lines.map fun line => (job.id, line)).filter
                (fun line => line.1 = job.id) = set.lines.map fun line => (job.id, line) :=
              List.filter_eq_self.mpr (by simp)
            simpa [hkind, hjob, hkept, Function.comp_def] using ih
          · have hgone : (set.lines.map fun line => (set.job, line)).filter
                (fun line => line.1 = job.id) = [] :=
              List.filter_eq_nil_iff.mpr (by simp [hjob])
            simpa [hkind, hjob, hgone] using ih
        · simpa [hkind] using ih
  calc
    books.monthlyRevenues job =
        (((groupSums (fun line : ℕ × BookedLine => (monthOf line.2.accountingDate, line.1))
          (fun line => line.2.toPricedLine.totalRev) books.allActualLines).filter fun group =>
            group.1.2 = job.id).map Prod.snd).sum := by
      unfold Books.monthlyRevenues Books.jobRevenueByMonth
      rw [List.filter_comm]
      refine sum_filter_of_zero fun group _ hzero => ?_
      simpa using hzero
    _ = ((books.allActualLines.filter fun line => line.1 = job.id).map
          fun line => line.2.toPricedLine.totalRev).sum :=
      sum_groupSums fun key : (ℤ × ℤ) × ℕ => key.2 = job.id
    _ = revenueOf (books.monthlyLines job) := by
      rw [hlines]
      rfl

/-! ## One rollover -/

lemma linesOf_eq_nil {set : ℕ} (h : books.costSets.find? set = none) : books.linesOf set = [] := by
  simp [Books.linesOf, h]

lemma rev_ne_nextRev {set : BookedSet} (hset : set ∈ books.actualSets id) :
    set.rev ≠ books.nextRev id := by
  have hmem : set.rev ∈ (books.actualSets id).map BookedSet.rev := List.mem_map_of_mem hset
  unfold Books.nextRev
  cases hmax : ((books.actualSets id).map BookedSet.rev).max? with
  | none => exact absurd (List.max?_eq_none_iff.mp hmax ▸ hmem) List.not_mem_nil
  | some highest =>
      have hle := (List.max?_eq_some_iff.mp hmax).2 set.rev hmem
      exact Nat.ne_of_lt (Nat.lt_succ_of_le hle)

/-- **The rollover of a job** is never refused: it adds a set without lines and points the job at it. -/
lemma rollForward_ok (books : Books) (job : BookedJob) :
    ∃ set costSets, books.costSets.insert? set = some costSets ∧ set.lines = [] ∧
      books.rollForward job =
        .ok { books with costSets, jobs := books.jobs.put { job with latestActual := set.id } } := by
  obtain ⟨set, hset⟩ : ∃ set : BookedSet, set =
      { id := books.costSets.freshKey, job := job.id, kind := .actual, rev := books.nextRev job.id,
        lines := [] } := ⟨_, rfl⟩
  have hfree : (books.costSets.rows.any fun other =>
      other.job = set.job ∧ other.kind = set.kind ∧ other.rev = set.rev) = false := by
    refine List.any_eq_false.mpr fun other hother => ?_
    simp only [decide_eq_true_eq, not_and, hset]
    intro hjob hkind
    exact rev_ne_nextRev (List.mem_filter.mpr ⟨hother, by simp [hjob, hkind]⟩)
  have hnew : books.costSets.insert? set ≠ none := by
    have hfresh : set.id ∉ books.costSets.rows.map BookedSet.id := by
      rw [hset]
      exact books.costSets.freshKey_not_mem
    simp [Table.insert?, hfresh]
  obtain ⟨costSets, hinsert⟩ := Option.ne_none_iff_exists'.mp hnew
  refine ⟨set, costSets, hinsert, by rw [hset], ?_⟩
  unfold Books.rollForward Books.createCostSet
  rw [← hset]
  simp only [hfree, hinsert]
  rfl

lemma linesOf_insert {set : BookedSet} {costSets : Table BookedSet.id}
    (hinsert : books.costSets.insert? set = some costSets) (hempty : set.lines = []) (other : ℕ) :
    Books.linesOf { books with costSets } other = books.linesOf other := by
  by_cases hother : other = set.id
  · subst hother
    rw [linesOf_eq_nil (Table.find?_of_insert? hinsert)]
    simp [Books.linesOf, Table.find?_insert?_self hinsert, hempty]
  · simp only [Books.linesOf, Table.find?_insert?_of_ne hinsert hother]

lemma actualLines_insert {set : BookedSet} {costSets : Table BookedSet.id}
    (hinsert : books.costSets.insert? set = some costSets) (hempty : set.lines = []) (job : ℕ) :
    Books.actualLines { books with costSets } job = books.actualLines job := by
  have hnone : ([set].filter fun set => set.job = job ∧ set.kind = .actual).flatMap BookedSet.lines =
      [] := by
    refine List.flatMap_eq_nil_iff.mpr fun other hother => ?_
    obtain rfl := List.mem_singleton.mp (List.mem_filter.mp hother).1
    exact hempty
  simp only [Books.actualLines, Books.actualSets, Table.rows_insert? hinsert, List.filter_append,
    List.flatMap_append, hnone, List.append_nil]

/-! ## A whole run -/

/-- What a run over some jobs leaves of one of them: all lines are where they were, and the job points at
a set without lines if it is among them. -/
structure RolledFrom (books : Books) (job : BookedJob) (jobIds : List ℕ) (books' : Books)
    (job' : BookedJob) : Prop where
  stored : books'.jobs.find? job.id = some job'
  columns : job' = { job with latestActual := job'.latestActual }
  linesOf : ∀ set, books'.linesOf set = books.linesOf set
  actualLines : ∀ id, books'.actualLines id = books.actualLines id
  invoices : books'.invoices = books.invoices
  companies : books'.companies = books.companies
  rolled : job.id ∈ jobIds → books'.linesOf job'.latestActual = []
  untouched : job.id ∉ jobIds → job'.latestActual = job.latestActual

lemma processJob_spec (hjob : books.jobs.find? job.id = some job) (run : MonthEnd)
    (hrun : run.books = books) (id : ℕ) :
    ∃ job', RolledFrom books job [id] (run.processJob id).books job' := by
  subst hrun
  unfold MonthEnd.processJob
  cases hfound : run.books.jobs.find? id with
  | none =>
      have hne : job.id ≠ id := by
        rintro rfl
        rw [hjob] at hfound
        cases hfound
      exact ⟨job, hjob, rfl, fun _ => rfl, fun _ => rfl, rfl, rfl,
        fun hmem => absurd (List.mem_singleton.mp hmem) hne, fun _ => rfl⟩
  | some other =>
      obtain ⟨set, costSets, hinsert, hempty, hroll⟩ := rollForward_ok run.books other
      simp only [hroll]
      have hid : other.id = id := Table.key_of_find? hfound
      have hlines := linesOf_insert hinsert hempty
      by_cases hsame : job.id = id
      · obtain rfl : job = other := by
          rw [hsame, hfound] at hjob
          exact (Option.some.inj hjob).symm
        refine ⟨{ job with latestActual := set.id }, ?_, rfl, hlines, actualLines_insert hinsert hempty,
          rfl, rfl, fun _ => ?_, fun hnot => absurd (List.mem_singleton.mpr hsame) hnot⟩
        · exact Table.find?_put_self hjob
        · exact (hlines set.id).trans (linesOf_eq_nil (Table.find?_of_insert? hinsert))
      · refine ⟨job, ?_, rfl, hlines, actualLines_insert hinsert hempty, rfl, rfl,
          fun hmem => absurd (List.mem_singleton.mp hmem) hsame, fun _ => rfl⟩
        have hne : job.id ≠ BookedJob.id { other with latestActual := set.id } :=
          fun heq => hsame (heq.trans hid)
        exact (Table.find?_put_of_ne hne).trans hjob

/-- **The run**, by induction over the jobs: a job rolled forward once stays on a set without lines. -/
theorem processJobs_spec (hjob : books.jobs.find? job.id = some job) (jobIds : List ℕ) :
    ∃ job', RolledFrom books job jobIds (processJobs books jobIds).books job' := by
  suffices hfold : ∀ (run : MonthEnd), run.books.jobs.find? job.id = some job →
      ∃ job', RolledFrom run.books job jobIds (jobIds.foldl MonthEnd.processJob run).books job' from
    hfold ⟨books, [], []⟩ hjob
  clear hjob
  induction jobIds generalizing job with
  | nil =>
      exact fun run hjob => ⟨job, hjob, rfl, fun _ => rfl, fun _ => rfl, rfl, rfl,
        fun hmem => absurd hmem List.not_mem_nil, fun _ => rfl⟩
  | cons id jobIds ih =>
      intro run hjob
      obtain ⟨first, hfirst⟩ := processJob_spec hjob run rfl id
      have hid : first.id = job.id := Table.key_of_find? hfirst.stored
      obtain ⟨last, hlast⟩ := @ih first (run.processJob id) (hid ▸ hfirst.stored)
      refine ⟨last, hid ▸ hlast.stored, ?_, fun set => (hlast.linesOf set).trans (hfirst.linesOf set),
        fun id => (hlast.actualLines id).trans (hfirst.actualLines id),
        hlast.invoices.trans hfirst.invoices, hlast.companies.trans hfirst.companies, fun hmem => ?_,
        fun hnot => ?_⟩
      · have hcolumns := hlast.columns
        rw [hfirst.columns] at hcolumns
        exact hcolumns
      · by_cases htail : job.id ∈ jobIds
        · exact hlast.rolled (hid ▸ htail)
        · have hhead : job.id ∈ [id] := List.mem_singleton.mpr ((List.mem_cons.mp hmem).resolve_right htail)
          rw [List.foldl_cons, hlast.linesOf, hlast.untouched (hid ▸ htail)]
          exact hfirst.rolled hhead
      · rw [List.mem_cons, not_or] at hnot
        exact (hlast.untouched (hid ▸ hnot.2)).trans
          (hfirst.untouched fun hmem => hnot.1 (List.mem_singleton.mp hmem))

/-! ## What the readers report afterwards -/

/-- The job points at an actual set of its own, as `set_latest` checks. -/
def Books.LatestOwned (books : Books) (job : BookedJob) : Prop :=
  ∃ set, books.costSets.find? job.latestActual = some set ∧ set.job = job.id ∧ set.kind = .actual

lemma latest_subset_actual (howned : books.LatestOwned job) {line : BookedLine}
    (hline : line ∈ books.linesOf job.latestActual) : line ∈ books.actualLines job.id := by
  obtain ⟨set, hset, hjob, hkind⟩ := howned
  simp only [Books.linesOf, hset, Option.map_some, Option.getD_some] at hline
  refine List.mem_flatMap.mpr ⟨set, List.mem_filter.mpr ⟨Table.mem_of_find? hset, ?_⟩, hline⟩
  simp [hjob, hkind]

lemma mem_datedBy {reportDate : ℤ} {lines : List BookedLine} {line : BookedLine} :
    line ∈ datedBy reportDate lines ↔ line ∈ lines ∧ line.accountingDate ≤ reportDate := by
  simp [datedBy]

lemma readersAgree_iff : books.ReadersAgree job ↔
    ∀ line, line ∈ books.linesOf job.latestActual ↔ line ∈ books.actualLines job.id := by
  constructor
  · exact fun h => h.allTime
  · intro h
    refine ⟨fun _ => h, fun reportDate line => ?_, h⟩
    unfold Books.wipLines Books.monthlyLines
    rw [mem_datedBy, mem_datedBy, h line]

lemma reported_congr {jobIds : List ℕ} {job' : BookedJob} (h : RolledFrom books job jobIds books' job')
    (hlines : books'.linesOf job'.latestActual = books.linesOf job.latestActual) :
    books'.reported job' = books.reported job := by
  have hid : job'.id = job.id := Table.key_of_find? h.stored
  have hmonthly : books'.monthlyRevenues job' = books.monthlyRevenues job := by
    rw [monthlyRevenues_eq, monthlyRevenues_eq, Books.monthlyLines, Books.monthlyLines, hid,
      h.actualLines]
  have hloaded : books'.loaded job' = books.loaded job := by
    rw [h.columns]
    simp only [Books.loaded, h.linesOf]
    rw [← h.linesOf job'.latestActual, hlines]
  have hrow : ∀ reportDate, books'.wipRow reportDate .revenue job' =
      books.wipRow reportDate .revenue job := by
    intro reportDate
    have hrest : books'.invoiced job.id = books.invoiced job.id := by
      unfold Books.invoiced
      rw [h.invoices]
    unfold Books.wipRow
    rw [hlines, h.companies, hid, hrest, h.columns]
    rfl
  unfold Books.reported Books.totalJmAllTime
  rw [hloaded, hmonthly, hlines]
  simp only [hrow]

/-- **Month end moves no money exactly where there is none to move.**  The readers agree before and after
`process_jobs`, and report the same, exactly if no earlier actual set of the job has a line, nor the latest
one where the job is rolled forward. -/
theorem processJobs_moves_nothing_iff (jobIds : List ℕ) (hjob : books.jobs.find? job.id = some job)
    (howned : books.LatestOwned job) :
    (books.ReadersAgree job ∧
      ∃ job', (processJobs books jobIds).books.jobs.find? job.id = some job' ∧
        (processJobs books jobIds).books.ReadersAgree job' ∧
        (processJobs books jobIds).books.reported job' = books.reported job) ↔
      (∀ line ∈ books.actualLines job.id, line ∈ books.linesOf job.latestActual) ∧
        (job.id ∈ jobIds → books.actualLines job.id = []) := by
  obtain ⟨job', hrolled⟩ := processJobs_spec hjob jobIds
  have hid : job'.id = job.id := Table.key_of_find? hrolled.stored
  constructor
  · rintro ⟨hbefore, other, hstored, hafter, -⟩
    obtain rfl : other = job' := Option.some.inj (hstored.symm.trans hrolled.stored)
    refine ⟨fun line => (readersAgree_iff.mp hbefore line).mpr, fun hmem => ?_⟩
    refine List.eq_nil_iff_forall_not_mem.mpr fun line hline => ?_
    -- the latest set is empty now, and the line is still an actual line of the job
    have hlost := (readersAgree_iff.mp hafter line).mpr (by rwa [hid, hrolled.actualLines])
    rw [hrolled.rolled hmem] at hlost
    cases hlost
  · rintro ⟨hlatest, hempty⟩
    have hlines : (processJobs books jobIds).books.linesOf job'.latestActual =
        books.linesOf job.latestActual := by
      by_cases hmem : job.id ∈ jobIds
      · have hnone : books.linesOf job.latestActual = [] :=
          List.eq_nil_iff_forall_not_mem.mpr fun line hline => by
            have hactual := latest_subset_actual howned hline
            rw [hempty hmem] at hactual
            cases hactual
        rw [hrolled.rolled hmem, hnone]
      · rw [hrolled.untouched hmem, hrolled.linesOf]
    have hagree : books.ReadersAgree job := readersAgree_iff.mpr fun line =>
      ⟨latest_subset_actual howned, hlatest line⟩
    refine ⟨hagree, job', hrolled.stored, readersAgree_iff.mpr fun line => ?_,
      reported_congr hrolled hlines⟩
    rw [hlines, hid, hrolled.actualLines]
    exact readersAgree_iff.mp hagree line

/-! ## An hour left behind -/

/-- A time-and-materials job of the shop. -/
def weldJob : BookedJob where
  id := 7
  jobNumber := 101
  name := "Welding"
  company := none
  status := .special
  pricingMethodology := .timeMaterials
  priceCap := none
  latestQuote := 1
  latestActual := 2
  paid := false
  fullyInvoiced := false
  rejectedFlag := false

def weldHour : BookedLine where
  id := 1
  kind := .time
  quantity := ⟨1, fits_one⟩
  unitCost := ⟨40, fits_forty⟩
  unitRev := ⟨100, fits_hundred⟩
  accountingDate := 19782

/-- The job with these lines in its first actual set. -/
def weldBooks (lines : List BookedLine) : Books where
  jobs := ⟨[weldJob], by decide⟩
  companies := .empty
  costSets := ⟨[⟨1, 7, .quote, 1, []⟩, ⟨2, 7, .actual, 1, lines⟩], by
    simp⟩
  invoices := .empty

/-- A job that nothing is booked on is rolled forward. -/
theorem empty_job_rolled_forward :
    (weldBooks []).ReadersAgree weldJob ∧
      ∃ job', (processJobs (weldBooks []) [7]).books.jobs.find? 7 = some job' ∧
        (processJobs (weldBooks []) [7]).books.ReadersAgree job' ∧
        (processJobs (weldBooks []) [7]).books.reported job' = (weldBooks []).reported weldJob := by
  have hnone : (weldBooks []).actualLines weldJob.id = [] := by decide +kernel
  refine (processJobs_moves_nothing_iff [7] (by decide +kernel)
    ⟨⟨2, 7, .actual, 1, []⟩, by decide +kernel, rfl, rfl⟩).mpr ⟨fun line hline => ?_, fun _ => hnone⟩
  rw [hnone] at hline
  cases hline

/-- Every reader reports the hour; after the rollover only the monthly revenues do. -/
theorem rollover_hides_the_hour :
    ∃ job', (processJobs (weldBooks [weldHour]) [7]).books.jobs.find? 7 = some job' ∧
      (((weldBooks [weldHour]).reported weldJob).basis.targetTotal = 100 ∧
        ((weldBooks [weldHour]).reported weldJob).workInProgress 19782 = some (40, 100) ∧
        ((weldBooks [weldHour]).reported weldJob).allTime = 100 ∧
        ((weldBooks [weldHour]).reported weldJob).monthly = 100) ∧
      (((processJobs (weldBooks [weldHour]) [7]).books.reported job').basis.targetTotal = 0 ∧
        ((processJobs (weldBooks [weldHour]) [7]).books.reported job').workInProgress 19782 = none ∧
        ((processJobs (weldBooks [weldHour]) [7]).books.reported job').allTime = 0 ∧
        ((processJobs (weldBooks [weldHour]) [7]).books.reported job').monthly = 100) := by
  refine ⟨{ weldJob with latestActual := 4 }, ?_, ?_, ?_⟩
  · decide +kernel
  · decide +kernel
  · decide +kernel

end Docketworks.Accounting
