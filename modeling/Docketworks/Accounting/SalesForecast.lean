import Docketworks.Accounting.MonthEnd

/-!
# The sales forecast

`apps/accounting/services/sales_forecast_service.py`: each month's invoices beside its job revenue, and the
rows of one month.

* `monthlyComparison` — the list of months.
* `buildComparisonRows` — the rows of a month: the invoiced jobs, the invoices of no job, the other jobs.
* `list_agrees_with_detail` — a month from the first one on is listed exactly if it has rows, and its sums are
  those of its rows, up to what the rounding of each row takes.

**Design.**  A month is its year and its number.  A `float` is the decimal it was made from, and
`round(value, 2)` of it is a parameter: a tie goes where the binary value falls.  Labels, names, notes, start
dates and the order of the rows are left out.
-/

namespace Docketworks.Accounting

open Library Kanban

abbrev Month := ℤ × ℤ

/-- `round(value, 2)`: whole cents are kept, and nothing moves by more than half a cent. -/
structure RoundsToCents (cents : ℚ → ℚ) : Prop where
  keeps : ∀ q, IsDecimal 2 q → cents q = q
  nearest : ∀ q, |cents q - q| ≤ 1 / 200

def appAdoptionMonth : Month := (2025, 4)

def MonthLE (m m' : Month) : Prop := m.1 < m'.1 ∨ (m.1 = m'.1 ∧ m.2 ≤ m'.2)

instance : DecidableRel MonthLE := fun _ _ => inferInstanceAs (Decidable (_ ∨ _))

/-- Not of `_EXCLUDED_INVOICE_STATUSES`. -/
def counted (invoice : BookedInvoice) : Bool :=
  invoice.status ≠ .draft ∧ invoice.status ≠ .deleted ∧ invoice.status ≠ .voided

/-! ## The list -/

/-- One month's comparison. -/
structure ForecastMonth where
  month : Month
  xeroSales : ℚ
  jmSales : ℚ
  variance : ℚ
  variancePct : ℚ
deriving DecidableEq, Repr

section Reports

variable (cents : ℚ → ℚ) (books : Books) (month : Month)

def xeroSalesByMonth : List (Month × ℚ) :=
  groupSums (fun invoice : BookedInvoice => monthOf invoice.date) (fun invoice => invoice.totalExclTax.val)
    (books.invoices.rows.filter counted)

/-- `_job_revenue_by_month`: each month's revenue per job, where it is not zero. -/
def jobRevenueOf (lines : List (ℕ × BookedLine)) : List ((Month × ℕ) × ℚ) :=
  (groupSums (fun line : ℕ × BookedLine => (monthOf line.2.accountingDate, line.1))
    (fun line => line.2.toPricedLine.totalRev) lines).filter fun group => group.2 ≠ 0

def jmSalesByMonth : List (Month × ℚ) :=
  groupSums (fun group : (Month × ℕ) × ℚ => group.1.1) Prod.snd (jobRevenueOf books.allActualLines)

/-- `get_monthly_comparison`: all months with data from either source, newest first. -/
def monthlyComparison : List ForecastMonth :=
  let xeroByMonth := xeroSalesByMonth books
  let jmByMonth := jmSalesByMonth books
  let months := ((xeroByMonth.map Prod.fst ∪ jmByMonth.map Prod.fst).filter fun month =>
    MonthLE appAdoptionMonth month).insertionSort fun m m' => MonthLE m' m
  months.map fun month =>
    let xeroSales := (xeroByMonth.lookup month).getD 0
    let jmSales := (jmByMonth.lookup month).getD 0
    let variance := xeroSales - jmSales
    { month, xeroSales, jmSales, variance,
      variancePct := cents (if xeroSales ≠ 0 then variance / xeroSales * 100 else 0) }

/-! ## The rows of a month -/

/-- A row of a month: matched, of Xero only or of a job only. -/
structure ComparisonRow where
  jobId : Option ℕ
  jobNumber : Option ℕ
  invoiceNumbers : List String
  totalInvoiced : ℚ
  jobRevenue : ℚ
  variance : ℚ
  totalXeroAllTime : Option ℚ
  totalJmAllTime : Option ℚ
  varianceAllTime : Option ℚ
deriving DecidableEq, Repr

def jobsWithRevenue : List (ℕ × ℚ) :=
  ((jobRevenueOf (books.allActualLines.filter fun line => monthOf line.2.accountingDate = month)).filter
    fun group => group.1.1 = month).map fun group => (group.1.2, group.2)

def totalInvoicedForJob (job : ℕ) : ℚ :=
  ((books.invoices.rows.filter fun invoice => counted invoice ∧ invoice.job = some job).map
    fun invoice => invoice.totalExclTax.val).sum

/-- `_row`, of a job. -/
def jobRow (job : ℕ) (invoices : List BookedInvoice) (jobRevenue : ℚ) : ComparisonRow :=
  let totalInvoiced := (invoices.map fun invoice => invoice.totalExclTax.val).sum
  let found := books.jobs.find? job
  let totalXeroAllTime := totalInvoicedForJob books job
  let totalJmAllTime := (found.map books.totalJmAllTime).getD 0
  { jobId := some job, jobNumber := found.map BookedJob.jobNumber
    invoiceNumbers := invoices.map fun invoice => invoice.number
    totalInvoiced := cents totalInvoiced, jobRevenue := cents jobRevenue
    variance := cents (totalInvoiced - jobRevenue)
    totalXeroAllTime, totalJmAllTime, varianceAllTime := some (cents (totalXeroAllTime - totalJmAllTime)) }

/-- `_row`, of an invoice of no job. -/
def invoiceRow (invoice : BookedInvoice) : ComparisonRow :=
  let totalInvoiced := invoice.totalExclTax.val
  { jobId := none, jobNumber := none, invoiceNumbers := [invoice.number]
    totalInvoiced := cents totalInvoiced, jobRevenue := cents 0, variance := cents (totalInvoiced - 0)
    totalXeroAllTime := none, totalJmAllTime := none, varianceAllTime := none }

def monthInvoices : List BookedInvoice :=
  books.invoices.rows.filter fun invoice => counted invoice ∧ monthOf invoice.date = month

def invoicedJobs : List ℕ := ((monthInvoices books month).filterMap fun invoice => invoice.job).dedup

def buildComparisonRows : List ComparisonRow :=
  let invoices := monthInvoices books month
  let revenueByJob := jobsWithRevenue books month
  let matched := invoicedJobs books month
  (matched.map fun job =>
    jobRow cents books job (invoices.filter fun invoice => invoice.job = some job) ((revenueByJob.lookup job).getD 0)) ++
  ((invoices.filter fun invoice => invoice.job = none).map (invoiceRow cents)) ++
  ((revenueByJob.filter fun entry => entry.1 ∉ matched).map fun entry => jobRow cents books entry.1 [] entry.2)

end Reports

/-! ## What the list has of a month -/

variable {cents : ℚ → ℚ} {books : Books} {month : Month}

/-- The job revenue of a month, added up over its lines. -/
def revenueIn (books : Books) (month : Month) : ℚ :=
  ((books.allActualLines.filter fun line => monthOf line.2.accountingDate = month).map
    fun line => line.2.toPricedLine.totalRev).sum

lemma xeroSales_eq : ((xeroSalesByMonth books).lookup month).getD 0 =
    ((monthInvoices books month).map fun invoice => invoice.totalExclTax.val).sum := by
  unfold xeroSalesByMonth monthInvoices
  rw [lookup_groupSums, List.filter_filter]
  refine congrArg (fun l : List BookedInvoice => (l.map fun invoice => invoice.totalExclTax.val).sum) ?_
  exact List.filter_congr fun invoice _ => by rw [Bool.decide_and, Bool.and_comm, Bool.decide_eq_true]

lemma sum_jobRevenueOf (lines : List (ℕ × BookedLine)) (month : Month) :
    (((jobRevenueOf lines).filter fun group => group.1.1 = month).map Prod.snd).sum =
      ((lines.filter fun line => monthOf line.2.accountingDate = month).map
        fun line => line.2.toPricedLine.totalRev).sum := by
  unfold jobRevenueOf
  rw [List.filter_comm, sum_filter_of_zero fun group _ hzero => by simpa using hzero]
  exact sum_groupSums fun key : Month × ℕ => decide (key.1 = month)

lemma jmSales_eq : ((jmSalesByMonth books).lookup month).getD 0 = revenueIn books month := by
  unfold jmSalesByMonth
  rw [lookup_groupSums, sum_jobRevenueOf]
  rfl

lemma sum_jobsWithRevenue : ((jobsWithRevenue books month).map Prod.snd).sum = revenueIn books month := by
  unfold jobsWithRevenue
  rw [List.map_map]
  refine (sum_jobRevenueOf _ month).trans ?_
  unfold revenueIn
  rw [List.filter_filter]
  simp only [Bool.and_self]

lemma jobsWithRevenue_eq : jobsWithRevenue books month =
    ((jobRevenueOf books.allActualLines).filter fun group => group.1.1 = month).map
      fun group => (group.1.2, group.2) := by
  unfold jobsWithRevenue jobRevenueOf
  rw [@groupSums_filter _ _ _ _ _ _ _ (fun line : ℕ × BookedLine => (monthOf line.2.accountingDate, line.1))
    fun key => decide (key.1 = month), List.filter_filter, List.filter_filter, List.filter_filter]
  refine congrArg (List.map fun group : (Month × ℕ) × ℚ => (group.1.2, group.2)) (List.filter_congr fun group _ => ?_)
  by_cases h : group.1.1 = month <;> simp [h]

lemma mem_jobsWithRevenue {entry : ℕ × ℚ} :
    entry ∈ jobsWithRevenue books month ↔ ((month, entry.1), entry.2) ∈ jobRevenueOf books.allActualLines := by
  rw [jobsWithRevenue_eq]
  simp only [List.mem_map, List.mem_filter, decide_eq_true_eq]
  constructor
  · rintro ⟨⟨⟨_, _⟩, _⟩, ⟨hgroup, rfl⟩, rfl⟩
    exact hgroup
  · exact fun h => ⟨_, ⟨h, rfl⟩, rfl⟩

lemma nodup_jobsWithRevenue : ((jobsWithRevenue books month).map Prod.fst).Nodup := by
  have hgroups : (jobRevenueOf books.allActualLines).Nodup :=
    (List.Nodup.of_map _ nodup_keys_groupSums).filter _
  rw [jobsWithRevenue_eq, List.map_map]
  refine (hgroups.filter _).map_on ?_
  rintro ⟨⟨m, job⟩, revenue⟩ hgroup ⟨⟨m', job'⟩, revenue'⟩ hgroup' hjob
  obtain ⟨hgroup, hm⟩ : _ ∧ m = month := by simpa using hgroup
  obtain ⟨hgroup', hm'⟩ : _ ∧ m' = month := by simpa using hgroup'
  obtain rfl : m = m' := hm.trans hm'.symm
  obtain rfl : job = job' := hjob
  have hrevenue := (mem_groupSums.mp (List.mem_filter.mp hgroup).1).2
  exact Prod.ext rfl (hrevenue.trans (mem_groupSums.mp (List.mem_filter.mp hgroup').1).2.symm)

/-! ## The list and the rows -/

lemma mem_months {books : Books} : month ∈ (monthlyComparison cents books).map ForecastMonth.month ↔
    MonthLE appAdoptionMonth month ∧
      (monthInvoices books month ≠ [] ∨ jobsWithRevenue books month ≠ []) := by
  have hxero : month ∈ (xeroSalesByMonth books).map Prod.fst ↔ monthInvoices books month ≠ [] := by
    unfold xeroSalesByMonth monthInvoices
    rw [keys_groupSums]
    simp [List.filter_eq_nil_iff, and_assoc]
  have hjm : month ∈ (jmSalesByMonth books).map Prod.fst ↔ jobsWithRevenue books month ≠ [] := by
    unfold jmSalesByMonth
    rw [keys_groupSums, List.mem_dedup, List.mem_map]
    constructor
    · rintro ⟨⟨⟨_, job⟩, revenue⟩, hgroup, rfl⟩
      exact List.ne_nil_of_mem (mem_jobsWithRevenue.mpr hgroup : (job, revenue) ∈ _)
    · intro hjobs
      obtain ⟨entry, hentry⟩ := List.exists_mem_of_ne_nil _ hjobs
      exact ⟨_, mem_jobsWithRevenue.mp hentry, rfl⟩
  unfold monthlyComparison
  rw [List.map_map]
  simp only [Function.comp_def, List.map_id', List.mem_insertionSort, List.mem_filter, List.mem_union_iff, hxero, hjm,
    decide_eq_true_eq]
  exact and_comm

lemma sum_invoicedJobs (books : Books) (month : Month) :
    ((invoicedJobs books month).map fun job => (((monthInvoices books month).filter fun invoice =>
      invoice.job = some job).map fun invoice => invoice.totalExclTax.val).sum).sum +
      (((monthInvoices books month).filter fun invoice => invoice.job = none).map
        fun invoice => invoice.totalExclTax.val).sum =
      ((monthInvoices books month).map fun invoice => invoice.totalExclTax.val).sum := by
  have hparts := @sum_parts _ _ _ _ (fun (job : Option ℕ) (invoice : BookedInvoice) => decide (invoice.job = job))
    (none :: (invoicedJobs books month).map some) (fun invoice => invoice.totalExclTax.val) (monthInvoices books month)
    fun invoice hinvoice => ?_
  · rw [List.map_cons, List.sum_cons, List.map_map] at hparts
    rw [add_comm]
    exact hparts
  · have hnodup : (none :: (invoicedJobs books month).map some).Nodup := by
      refine List.nodup_cons.mpr ⟨by simp, (List.nodup_dedup _).map fun _ _ h => Option.some.inj h⟩
    have hmem : invoice.job ∈ none :: (invoicedJobs books month).map some := by
      cases hjob : invoice.job with
      | none => exact List.mem_cons_self
      | some job =>
          refine List.mem_cons_of_mem _ (List.mem_map_of_mem (List.mem_dedup.mpr ?_))
          exact List.mem_filterMap.mpr ⟨invoice, hinvoice, hjob⟩
    rw [← List.count_eq_one_of_mem hnodup hmem]
    unfold List.count
    refine List.countP_congr fun job _ => ?_
    simp only [decide_eq_true_eq, beq_iff_eq]
    exact eq_comm

lemma sum_totalInvoiced (h : RoundsToCents cents) :
    ((buildComparisonRows cents books month).map ComparisonRow.totalInvoiced).sum =
      ((monthInvoices books month).map fun invoice => invoice.totalExclTax.val).sum := by
  have hcents : ∀ invoices : List BookedInvoice,
      cents ((invoices.map fun invoice => invoice.totalExclTax.val).sum) =
        (invoices.map fun invoice => invoice.totalExclTax.val).sum := fun invoices =>
    h.keeps _ (IsDecimal.list_sum fun value hvalue => by
      obtain ⟨invoice, -, rfl⟩ := List.mem_map.mp hvalue
      exact invoice.totalExclTax.isDecimal)
  rw [← sum_invoicedJobs books month]
  unfold buildComparisonRows
  simp only [List.map_append, List.map_map, List.sum_append]
  have hothers : (((jobsWithRevenue books month).filter fun entry => entry.1 ∉ invoicedJobs books month).map
      (ComparisonRow.totalInvoiced ∘ fun entry => jobRow cents books entry.1 [] entry.2)).sum = 0 := by
    refine List.sum_eq_zero fun value hvalue => ?_
    obtain ⟨entry, -, rfl⟩ := List.mem_map.mp hvalue
    exact hcents []
  rw [hothers, add_zero]
  refine congrArg₂ (fun x y : ℚ => x + y) (congrArg List.sum (List.map_congr_left fun job _ => hcents _))
    (congrArg List.sum (List.map_congr_left fun invoice _ => h.keeps _ invoice.totalExclTax.isDecimal))

def revenuesOfRows (books : Books) (month : Month) : List ℚ :=
  ((invoicedJobs books month).map fun job => ((jobsWithRevenue books month).lookup job).getD 0) ++
    ((monthInvoices books month).filter fun invoice => invoice.job = none).map (fun _ => 0) ++
    (((jobsWithRevenue books month).filter fun entry => entry.1 ∉ invoicedJobs books month).map Prod.snd)

lemma jobRevenue_rows : (buildComparisonRows cents books month).map ComparisonRow.jobRevenue =
    (revenuesOfRows books month).map cents := by
  unfold buildComparisonRows revenuesOfRows
  simp only [List.map_append, List.map_map]
  rfl

lemma sum_revenuesOfRows : (revenuesOfRows books month).sum = revenueIn books month := by
  have hunlinked : (((monthInvoices books month).filter fun invoice => invoice.job = none).map
      fun _ => (0 : ℚ)).sum = 0 := List.sum_eq_zero (by simp)
  unfold revenuesOfRows
  rw [List.sum_append, List.sum_append, hunlinked, add_zero]
  exact (sum_lookup_add_rest (List.nodup_dedup _) nodup_jobsWithRevenue).trans sum_jobsWithRevenue

lemma abs_sum_map_sub_le (h : RoundsToCents cents) (values : List ℚ) :
    |values.sum - (values.map cents).sum| ≤ values.length / 200 := by
  induction values with
  | nil => simp
  | cons value values ih =>
      have hvalue := abs_le.mp (h.nearest value)
      rw [abs_le] at ih
      rw [List.map_cons, List.sum_cons, List.sum_cons, List.length_cons, Nat.cast_succ, abs_le]
      constructor <;> linarith [ih.1, ih.2, hvalue.1, hvalue.2]

lemma buildComparisonRows_eq_nil : buildComparisonRows cents books month = [] ↔
    monthInvoices books month = [] ∧ jobsWithRevenue books month = [] := by
  unfold buildComparisonRows
  simp only [List.append_eq_nil_iff, List.map_eq_nil_iff]
  constructor
  · rintro ⟨⟨hmatched, hunlinked⟩, hothers⟩
    refine ⟨List.eq_nil_iff_forall_not_mem.mpr fun invoice hinvoice => ?_, ?_⟩
    · cases hjob : invoice.job with
      | none => exact List.not_mem_nil (hunlinked ▸ List.mem_filter.mpr ⟨hinvoice, by simpa using hjob⟩)
      | some job =>
          have hin : job ∈ invoicedJobs books month :=
            List.mem_dedup.mpr (List.mem_filterMap.mpr ⟨invoice, hinvoice, hjob⟩)
          exact List.not_mem_nil (hmatched ▸ hin)
    · rw [hmatched] at hothers
      simpa using hothers
  · rintro ⟨hinvoices, hjobs⟩
    simp [invoicedJobs, hinvoices, hjobs]

lemma cents_of_whole (h : RoundsToCents cents) (hwhole : ∀ job ∈ jobsWithRevenue books month, IsDecimal 2 job.2) :
    (revenuesOfRows books month).map cents = revenuesOfRows books month := by
  refine (List.map_congr_left fun revenue hrevenue => h.keeps revenue ?_).trans (List.map_id _)
  unfold revenuesOfRows at hrevenue
  simp only [List.mem_append, List.mem_map] at hrevenue
  rcases hrevenue with (⟨job, -, rfl⟩ | ⟨-, -, rfl⟩) | ⟨entry, hentry, rfl⟩
  · cases hlookup : (jobsWithRevenue books month).lookup job with
    | none => exact isDecimal_zero
    | some revenue =>
        obtain ⟨before, after, heq, -⟩ := List.lookup_eq_some_iff.mp hlookup
        exact hwhole (job, revenue) (by rw [heq]; simp)
  · exact isDecimal_zero
  · exact hwhole entry (List.mem_of_mem_filter hentry)

/-- **The list and its detail.**  From the adoption month on, a month is listed exactly if it has rows; what the
list has for its invoices is the sum over the rows, and what it has for its jobs differs from the sum over the
rows by half a cent for each at most, and not at all where every job's month is whole cents. -/
theorem list_agrees_with_detail (cents : ℚ → ℚ) (h : RoundsToCents cents) (books : Books) (month : Month) :
    (month ∈ (monthlyComparison cents books).map ForecastMonth.month ↔
      MonthLE appAdoptionMonth month ∧ buildComparisonRows cents books month ≠ []) ∧
    ∀ entry ∈ monthlyComparison cents books, entry.month = month →
      entry.xeroSales = ((buildComparisonRows cents books month).map ComparisonRow.totalInvoiced).sum ∧
      |entry.jmSales - ((buildComparisonRows cents books month).map ComparisonRow.jobRevenue).sum| ≤
        (buildComparisonRows cents books month).length / 200 ∧
      ((∀ job ∈ jobsWithRevenue books month, IsDecimal 2 job.2) →
        entry.jmSales = ((buildComparisonRows cents books month).map ComparisonRow.jobRevenue).sum) := by
  refine ⟨mem_months.trans (and_congr_right fun _ => ?_), fun entry hentry hmonth => ?_⟩
  · exact not_and_or.symm.trans (not_congr buildComparisonRows_eq_nil.symm)
  · obtain ⟨listed, -, rfl⟩ := List.mem_map.mp hentry
    obtain rfl : listed = month := hmonth
    have hlength : (revenuesOfRows books listed).length = (buildComparisonRows cents books listed).length := by
      have hrows := congrArg List.length (@jobRevenue_rows cents books listed)
      rw [List.length_map, List.length_map] at hrows
      exact hrows.symm
    refine ⟨xeroSales_eq.trans (sum_totalInvoiced h).symm, ?_, fun hwhole => ?_⟩
    · rw [jobRevenue_rows, ← hlength]
      exact (jmSales_eq.trans sum_revenuesOfRows.symm) ▸ abs_sum_map_sub_le h _
    · rw [jobRevenue_rows, cents_of_whole h hwhole]
      exact jmSales_eq.trans sum_revenuesOfRows.symm

/-! ### Twenty minutes at a rate of cents -/

lemma roundsToCents_roundHalfEven : RoundsToCents (roundHalfEven 2) :=
  ⟨fun _ => roundHalfEven_of_isDecimal, fun q => (abs_roundHalfEven_sub_le 2 q).trans (by norm_num)⟩

lemma fits_third : Fits 10 3 (333 / 1000) := by decide +kernel

/-- A third of an hour, to three places, on the first of May 2025. -/
def twentyMinutes : BookedLine :=
  { weldHour with
    quantity := ⟨333 / 1000, fits_third⟩
    unitRev := ⟨10001 / 100, by decide +kernel⟩
    accountingDate := dayOf 2025 5 1 }

theorem list_agrees_with_detail_of_an_hour :
    let books := weldBooks [{ weldHour with accountingDate := dayOf 2025 5 1 }]
    ((2025, 5) ∈ (monthlyComparison (roundHalfEven 2) books).map ForecastMonth.month) ∧
      ∀ entry ∈ monthlyComparison (roundHalfEven 2) books, entry.month = (2025, 5) →
        entry.jmSales = ((buildComparisonRows (roundHalfEven 2) books (2025, 5)).map ComparisonRow.jobRevenue).sum := by
  intro books
  obtain ⟨hlisted, hsums⟩ := list_agrees_with_detail (roundHalfEven 2) roundsToCents_roundHalfEven books (2025, 5)
  exact ⟨hlisted.mpr (by decide +kernel), fun entry hentry hmonth =>
    (hsums entry hentry hmonth).2.2 (by decide +kernel)⟩

/-- The list has the third of a cent that the row rounds away. -/
theorem row_loses_a_third_of_a_cent :
    (monthlyComparison (roundHalfEven 2) (weldBooks [twentyMinutes])).map ForecastMonth.jmSales = [3330333 / 100000] ∧
      (buildComparisonRows (roundHalfEven 2) (weldBooks [twentyMinutes]) (2025, 5)).map ComparisonRow.jobRevenue =
        [333 / 10] := by
  decide +kernel

end Docketworks.Accounting
