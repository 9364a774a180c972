import Docketworks.Library.Machine
import Docketworks.Accounting.MonthEnd

/-!
# The fully-invoiced flag

When the stored `fully_invoiced` of a job says what its invoices and its value say, over every order in
which its lines, its price and its invoices are written (`recalculate_job_invoicing_state` of
`apps/job/services/job_service.py`, and who calls it: `apps/xero/documents/invoice.py`,
`apps/xero/transforms.py`).

* `fullyInvoicedNow` — the comparison the flag stands for.
* `Books.write` — the writes that bear on it.
* `Recalculation` — a recalculation, one query at a time; only the write of an invoice starts one.
* `MovesNothing` — a write leaves the comparison of every job as it is.
* `flag_true_after_every_run` — the flag is right while no other write moves it and no recalculation stores
  an answer that has changed, but for the jobs whose recalculation is on its way.
* `booked_hours_hide_behind_the_flag` — hours booked after the invoice leave the flag set.

**Design.**  Each query commits on its own: no request is a transaction, and the recalculation takes no
lock.
-/

namespace Docketworks.Accounting

open Library Kanban

/-! ## What the flag stands for -/

/-- The job has a valid invoice. -/
def Books.hasInvoices (books : Books) (job : ℕ) : Bool :=
  books.invoices.rows.any fun invoice => decide (invoice.job = some job) && invoice.status.isValid

/-- The job has valid invoices that come to its value. -/
def Books.fullyInvoicedNow (books : Books) (job : BookedJob) : Bool :=
  books.hasInvoices job.id &&
    decide ((getJobInvoicingBasis (books.loaded job)).targetTotal ≤ books.invoiced job.id)

/-! ## The writes -/

/-- What a sync from Xero writes over a stored invoice. -/
structure SyncedInvoice where
  number : String
  status : InvoiceStatus
  totalExclTax : Column 10 2
  tax : Column 10 2
  totalInclTax : Column 10 2
  amountDue : Column 10 2
  date : ℤ

inductive InvoicingWrite where
  | lineSaved (set : ℕ) (line : BookedLine)
  | lineDeleted (set line : ℕ)
  /-- The line goes to another cost set as it is written. -/
  | lineMoved (set set' : ℕ) (line : BookedLine)
  | rolledForward (job : ℕ)
  | pricingMethodologyChanged (job : ℕ) (methodology : PricingMethodology)
  | priceCapChanged (job : ℕ) (cap : Option (Column 10 2))
  | quoteRevised (job : ℕ) (set : BookedSet)
  | statusChanged (job : ℕ) (status : JobStatus)
  | invoiceCreated (invoice : BookedInvoice)
  | invoiceSynced (xeroId : ℕ) (synced : SyncedInvoice)
  | invoiceVoided (xeroId : ℕ)
  | invoiceDeleted (xeroId : ℕ)

def Books.withInvoice (books : Books) (xeroId : ℕ) (write : BookedInvoice → BookedInvoice) :
    Option Books :=
  (books.invoices.find? xeroId).map fun row =>
    { books with invoices := books.invoices.put (write row) }

def Books.write (books : Books) : InvoicingWrite → Option Books
  | .lineSaved set line => books.withLines set (withLine line)
  | .lineDeleted set line => books.withLines set fun lines => lines.filter fun other => other.id ≠ line
  | .lineMoved set set' line => do
      let without ← books.withLines set fun lines => lines.filter fun other => other.id ≠ line.id
      without.withLines set' (withLine line)
  | .rolledForward job => (books.jobs.find? job).bind fun row => (books.rollForward row).toOption
  | .pricingMethodologyChanged job methodology =>
      books.withJob job fun row => { row with pricingMethodology := methodology }
  | .priceCapChanged job cap => books.withJob job fun row => { row with priceCap := cap }
  | .quoteRevised job set => do
      let costSets ← books.costSets.insert? set
      Books.withJob { books with costSets } job fun row => { row with latestQuote := set.id }
  | .statusChanged job status => books.withJob job fun row => { row with status }
  | .invoiceCreated invoice =>
      (books.invoices.insert? invoice).map fun invoices => { books with invoices }
  | .invoiceSynced xeroId synced =>
      books.withInvoice xeroId fun row =>
        { row with
          number := synced.number, status := synced.status, totalExclTax := synced.totalExclTax,
          tax := synced.tax, totalInclTax := synced.totalInclTax, amountDue := synced.amountDue,
          date := synced.date }
  | .invoiceVoided xeroId => books.withInvoice xeroId fun row => { row with status := .voided }
  | .invoiceDeleted xeroId =>
      (books.invoices.find? xeroId).map fun _ =>
        { books with invoices := books.invoices.erase xeroId }

/-- The job whose flag is recalculated after the write: that of an invoice. -/
def Books.recalculatedAfter (books : Books) : InvoicingWrite → Option ℕ
  | .invoiceCreated invoice => invoice.job
  | .invoiceSynced xeroId _ | .invoiceVoided xeroId | .invoiceDeleted xeroId =>
      (books.invoices.find? xeroId).bind fun row => row.job
  | _ => none

/-! ## Recalculating -/

/-- How far a recalculation has come. -/
inductive RecalculationStage where
  /-- About to look for invoices. -/
  | asked
  /-- It has found some and is about to read the job. -/
  | invoiced
  /-- It has the job and is about to add its invoices up. -/
  | loaded (job : BookedJob)
  /-- It has the sum and is about to read the lines of the job's value. -/
  | summed (job : BookedJob) (priorInvoiced : ℚ)
  | decided (flag : Bool)
deriving DecidableEq

/-- A call of `recalculate_job_invoicing_state`. -/
structure Recalculation where
  id : ℕ
  job : ℕ
  stage : RecalculationStage

/-- The books, and the recalculations on their way. -/
structure FlagState where
  books : Books
  recalculations : Table Recalculation.id

/-- The next query of a recalculation; there is none if its job is gone. -/
def Recalculation.next (recalculation : Recalculation) (s : FlagState) : Option FlagState :=
  let turned (stage : RecalculationStage) : FlagState :=
    { s with recalculations := s.recalculations.put { recalculation with stage } }
  match recalculation.stage with
  | .asked => some (turned (if s.books.hasInvoices recalculation.job then .invoiced else .decided false))
  | .invoiced => (s.books.jobs.find? recalculation.job).map fun job => turned (.loaded job)
  | .loaded job => some (turned (.summed job (s.books.invoiced recalculation.job)))
  | .summed job priorInvoiced =>
      some (turned (.decided ((getJobInvoicingBasis (s.books.loaded job)).targetTotal ≤ priorInvoiced)))
  | .decided flag =>
      (s.books.withJob recalculation.job fun row => { row with fullyInvoiced := flag }).map fun books =>
        ⟨books, s.recalculations.erase recalculation.id⟩

/-- A write of a request, or the next query of its recalculation. -/
inductive FlagEvent where
  | wrote (request : ℕ) (write : InvoicingWrite)
  | queried (request : ℕ)

/-- Writes and queries in any order. -/
def flagging : Machine FlagState FlagEvent := fun s event =>
  match event with
  | .wrote request write => do
      let books ← s.books.write write
      match s.books.recalculatedAfter write with
      | none => pure { s with books }
      | some job =>
          let recalculations ← s.recalculations.insert? ⟨request, job, .asked⟩
          pure ⟨books, recalculations⟩
  | .queried request => (s.recalculations.find? request).bind fun row => row.next s

/-! ## When the flag is right -/

/-- The flag says what the invoices and the value of the job say. -/
def FlagRight (books : Books) (job : BookedJob) : Prop :=
  job.fullyInvoiced = books.fullyInvoicedNow job

def FlagsRight (books : Books) : Prop := ∀ job ∈ books.jobs.rows, FlagRight books job

/-- A recalculation of the job is on its way. -/
def FlagState.Recalculating (s : FlagState) (job : ℕ) : Prop :=
  ∃ row ∈ s.recalculations.rows, row.job = job

/-- The write leaves what the flag stands for as it is, for every job. -/
def MovesNothing (books : Books) (write : InvoicingWrite) : Prop :=
  ∀ books' ∈ books.write write, ∀ job ∈ books.jobs.rows, ∀ job' ∈ books'.jobs.find? job.id,
    books'.fullyInvoicedNow job' = books.fullyInvoicedNow job

def InvoicingWrite.isInvoice : InvoicingWrite → Bool
  | .invoiceCreated _ | .invoiceSynced _ _ | .invoiceVoided _ | .invoiceDeleted _ => true
  | _ => false

/-- No write but that of an invoice moves what the flag of a job stands for, and a recalculation stores an
answer that still holds. -/
def Attended (s : FlagState) (event : FlagEvent) : Prop :=
  match event with
  | .wrote _ write => write.isInvoice = true ∨ MovesNothing s.books write
  | .queried request =>
      ∀ row ∈ s.recalculations.find? request, ∀ job ∈ s.books.jobs.find? row.job, ∀ flag,
        row.stage = .decided flag → s.books.fullyInvoicedNow job = flag

/-- No write of an invoice moves it either. -/
def InvoiceStill (s : FlagState) (event : FlagEvent) : Prop :=
  match event with
  | .wrote _ write => write.isInvoice = true → MovesNothing s.books write
  | .queried _ => True

instance (books : Books) : Decidable (FlagsRight books) :=
  inferInstanceAs (Decidable (∀ job ∈ books.jobs.rows, job.fullyInvoiced = books.fullyInvoicedNow job))

instance (books : Books) (write : InvoicingWrite) : Decidable (MovesNothing books write) :=
  inferInstanceAs (Decidable (∀ books' ∈ books.write write, _))

instance (s : FlagState) (event : FlagEvent) : Decidable (Attended s event) := by
  unfold Attended
  split <;> infer_instance

section Steps

variable {s s' : FlagState} {books books' : Books} {write : InvoicingWrite} {event : FlagEvent}
  {row : Recalculation} {id : ℕ}

/-! ## What a write leaves -/

/-- The jobs are there under their ids, with the flags they had. -/
def JobsKept (books books' : Books) : Prop :=
  ∀ job' ∈ books'.jobs.rows, ∃ job ∈ books.jobs.rows, job.id = job'.id ∧
    job.fullyInvoiced = job'.fullyInvoiced

lemma jobsKept_put {row : BookedJob} (write : BookedJob → BookedJob)
    (hwrite : (write row).id = row.id ∧ (write row).fullyInvoiced = row.fullyInvoiced)
    (hrow : books.jobs.find? id = some row) (hjobs : books'.jobs = books.jobs.put (write row)) :
    JobsKept books books' := by
  intro job' hjob'
  rw [hjobs] at hjob'
  rcases Table.mem_put.mp hjob' with ⟨hold, -⟩ | ⟨rfl, -⟩
  · exact ⟨job', hold, rfl, rfl⟩
  · exact ⟨row, Table.mem_of_find? hrow, hwrite.1.symm, hwrite.2.symm⟩

lemma jobsKept_withJob {write : BookedJob → BookedJob} (h : books.withJob id write = some books')
    (hwrite : ∀ row, (write row).id = row.id ∧ (write row).fullyInvoiced = row.fullyInvoiced) :
    JobsKept books books' := by
  obtain ⟨row, hrow, rfl⟩ := Option.map_eq_some_iff.mp h
  exact jobsKept_put write (hwrite row) hrow rfl

lemma jobs_withLines {set : ℕ} {write : List BookedLine → List BookedLine}
    (h : books.withLines set write = some books') : books'.jobs = books.jobs := by
  obtain ⟨row, -, rfl⟩ := Option.map_eq_some_iff.mp h
  rfl

lemma jobs_write_of_isInvoice (hinvoice : write.isInvoice = true)
    (h : books.write write = some books') : books'.jobs = books.jobs := by
  cases write with
  | invoiceCreated invoice =>
      obtain ⟨invoices, -, rfl⟩ := Option.map_eq_some_iff.mp h
      rfl
  | invoiceSynced xeroId synced | invoiceVoided xeroId | invoiceDeleted xeroId =>
      obtain ⟨row, -, rfl⟩ := Option.map_eq_some_iff.mp h
      rfl
  | _ => cases hinvoice

/-- **No write touches a flag.** -/
lemma jobsKept_write (h : books.write write = some books') : JobsKept books books' := by
  have hsame : books'.jobs = books.jobs → JobsKept books books' :=
    fun hjobs job' hjob' => ⟨job', hjobs ▸ hjob', rfl, rfl⟩
  cases write with
  | lineSaved set line => exact hsame (jobs_withLines h)
  | lineDeleted set line => exact hsame (jobs_withLines h)
  | lineMoved set set' line =>
      obtain ⟨without, hwithout, h⟩ := Option.bind_eq_some_iff.mp h
      exact hsame ((jobs_withLines h).trans (jobs_withLines hwithout))
  | rolledForward job =>
      obtain ⟨row, hrow, h⟩ := Option.bind_eq_some_iff.mp h
      obtain ⟨set, costSets, -, -, hroll⟩ := rollForward_ok books row
      rw [hroll] at h
      obtain rfl := Option.some.inj h
      exact jobsKept_put (fun row => { row with latestActual := set.id }) ⟨rfl, rfl⟩ hrow rfl
  | pricingMethodologyChanged job methodology => exact jobsKept_withJob h fun _ => ⟨rfl, rfl⟩
  | priceCapChanged job cap => exact jobsKept_withJob h fun _ => ⟨rfl, rfl⟩
  | quoteRevised job set =>
      obtain ⟨costSets, -, h⟩ := Option.bind_eq_some_iff.mp h
      obtain ⟨row, hrow, rfl⟩ := Option.map_eq_some_iff.mp h
      exact jobsKept_put (fun row => { row with latestQuote := set.id }) ⟨rfl, rfl⟩ hrow rfl
  | statusChanged job status => exact jobsKept_withJob h fun _ => ⟨rfl, rfl⟩
  | invoiceCreated invoice => exact hsame (jobs_write_of_isInvoice rfl h)
  | invoiceSynced xeroId synced => exact hsame (jobs_write_of_isInvoice rfl h)
  | invoiceVoided xeroId => exact hsame (jobs_write_of_isInvoice rfl h)
  | invoiceDeleted xeroId => exact hsame (jobs_write_of_isInvoice rfl h)

/-! ## Invoices of other jobs -/

lemma fullyInvoicedNow_congr {job : BookedJob}
    {invoices : Table fun invoice : BookedInvoice => invoice.xeroId}
    (hmem : ∀ invoice : BookedInvoice, invoice.job = some job.id →
      (invoice ∈ invoices.rows ↔ invoice ∈ books.invoices.rows))
    (hsum : Books.invoiced { books with invoices } job.id = books.invoiced job.id) :
    Books.fullyInvoicedNow { books with invoices } job = books.fullyInvoicedNow job := by
  have hhas : Books.hasInvoices { books with invoices } job.id = books.hasInvoices job.id := by
    unfold Books.hasInvoices
    rw [Bool.eq_iff_iff, List.any_eq_true, List.any_eq_true]
    constructor
    · rintro ⟨invoice, hinvoice, hcounts⟩
      have hjob : invoice.job = some job.id := of_decide_eq_true (Bool.and_eq_true_iff.mp hcounts).1
      exact ⟨invoice, (hmem invoice hjob).mp hinvoice, hcounts⟩
    · rintro ⟨invoice, hinvoice, hcounts⟩
      have hjob : invoice.job = some job.id := of_decide_eq_true (Bool.and_eq_true_iff.mp hcounts).1
      exact ⟨invoice, (hmem invoice hjob).mpr hinvoice, hcounts⟩
  unfold Books.fullyInvoicedNow
  rw [hhas, hsum]
  rfl

lemma validFor_eq_zero {invoice : Invoice} (h : invoice.job ≠ some id) : invoice.validFor id = 0 := by
  simp [Invoice.validFor, h]

lemma fullyInvoicedNow_withInvoice {xeroId : ℕ} {write : BookedInvoice → BookedInvoice}
    {job : BookedJob} (h : books.withInvoice xeroId write = some books')
    (hwrite : ∀ row, (write row).xeroId = row.xeroId ∧ (write row).job = row.job)
    (hother : ((books.invoices.find? xeroId).bind fun row => row.job) ≠ some job.id) :
    books'.fullyInvoicedNow job = books.fullyInvoicedNow job := by
  obtain ⟨row, hrow, rfl⟩ := Option.map_eq_some_iff.mp h
  have hjob : row.job ≠ some job.id := by simpa [hrow] using hother
  have hkey := Table.key_of_find? hrow
  refine fullyInvoicedNow_congr (fun invoice hinvoice => ?_) ?_
  · rw [Table.mem_put]
    constructor
    · rintro (⟨hold, -⟩ | ⟨rfl, -⟩)
      · exact hold
      · exact absurd ((hwrite row).2.symm.trans hinvoice) hjob
    · intro hold
      refine .inl ⟨hold, fun hsame => hjob ?_⟩
      have hrow' : invoice = row :=
        Table.eq_of_key_eq hold (Table.mem_of_find? hrow) (hsame.trans (hwrite row).1)
      rwa [← hrow']
  · have hfound : books.invoices.find? (write row).xeroId = some row :=
      (congrArg books.invoices.find? ((hwrite row).1.trans hkey)).trans hrow
    have hnow : (write row).job ≠ some job.id := (hwrite row).2 ▸ hjob
    refine (Table.sum_put hfound _).trans ?_
    rw [validFor_eq_zero hjob, validFor_eq_zero hnow, sub_zero, add_zero]
    rfl

/-- **The write of an invoice** moves at most what the flag of its own job stands for. -/
lemma fullyInvoicedNow_of_isInvoice {job : BookedJob} (hinvoice : write.isInvoice = true)
    (h : books.write write = some books') (hother : books.recalculatedAfter write ≠ some job.id) :
    books'.fullyInvoicedNow job = books.fullyInvoicedNow job := by
  cases write with
  | invoiceCreated invoice =>
      obtain ⟨invoices, hinsert, rfl⟩ := Option.map_eq_some_iff.mp h
      have hjob : invoice.job ≠ some job.id := hother
      refine fullyInvoicedNow_congr (fun other hmine => ?_) ?_
      · rw [Table.mem_insert? hinsert]
        refine ⟨fun hmem => hmem.resolve_right ?_, .inl⟩
        rintro rfl
        exact hjob hmine
      · refine (Table.sum_insert? hinsert _).trans ?_
        rw [validFor_eq_zero hjob, add_zero]
        rfl
  | invoiceSynced xeroId synced | invoiceVoided xeroId =>
      exact fullyInvoicedNow_withInvoice h (fun _ => ⟨rfl, rfl⟩) hother
  | invoiceDeleted xeroId =>
      obtain ⟨row, hrow, rfl⟩ := Option.map_eq_some_iff.mp h
      have hjob : row.job ≠ some job.id := by simpa [Books.recalculatedAfter, hrow] using hother
      refine fullyInvoicedNow_congr (fun other hmine => ?_) ?_
      · rw [Table.mem_erase]
        refine ⟨And.left, fun hold => ⟨hold, fun hsame => hjob ?_⟩⟩
        have hrow' : other = row := Table.eq_of_key_eq hold (Table.mem_of_find? hrow)
          (hsame.trans (Table.key_of_find? hrow).symm)
        rwa [← hrow']
      · refine (Table.sum_erase hrow _).trans ?_
        rw [validFor_eq_zero hjob, sub_zero]
        rfl
  | _ => cases hinvoice

lemma flagRight_write {job : BookedJob} (hjob : job ∈ books'.jobs.rows)
    (h : books.write write = some books') :
    ∃ job₀ ∈ books.jobs.rows, job₀.id = job.id ∧
      (FlagRight books job₀ → MovesNothing books write → FlagRight books' job) := by
  obtain ⟨job₀, hjob₀, hid, hflag⟩ := jobsKept_write h job hjob
  refine ⟨job₀, hjob₀, hid, fun hright hmoves => ?_⟩
  have hfound : books'.jobs.find? job₀.id = some job := hid ▸ Table.find?_of_mem hjob
  exact hflag.symm.trans (hright.trans (hmoves books' h job₀ hjob₀ job hfound).symm)

/-! ## What a query leaves -/

lemma next_cases (h : row.next s = some s') :
    (∃ stage, s' = { s with recalculations := s.recalculations.put { row with stage } }) ∨
      ∃ flag job, row.stage = .decided flag ∧ s.books.jobs.find? row.job = some job ∧
        s' = ⟨{ s.books with jobs := s.books.jobs.put { job with fullyInvoiced := flag } },
          s.recalculations.erase row.id⟩ := by
  unfold Recalculation.next at h
  cases hstage : row.stage with
  | asked =>
      simp only [hstage] at h
      exact .inl ⟨_, (Option.some.inj h).symm⟩
  | invoiced =>
      simp only [hstage] at h
      obtain ⟨job, -, rfl⟩ := Option.map_eq_some_iff.mp h
      exact .inl ⟨_, rfl⟩
  | loaded job | summed job priorInvoiced =>
      simp only [hstage] at h
      exact .inl ⟨_, (Option.some.inj h).symm⟩
  | decided flag =>
      simp only [hstage] at h
      obtain ⟨books, hbooks, rfl⟩ := Option.map_eq_some_iff.mp h
      obtain ⟨job, hjob, rfl⟩ := Option.map_eq_some_iff.mp hbooks
      exact .inr ⟨flag, job, rfl, hjob, rfl⟩

lemma flagRight_stored {job stored : BookedJob} {flag : Bool}
    (hstored : books.jobs.find? id = some stored) (hflag : books.fullyInvoicedNow stored = flag)
    (hjob : job ∈ (books.jobs.put { stored with fullyInvoiced := flag }).rows) :
    (job.id = id ∧ FlagRight { books with
        jobs := books.jobs.put { stored with fullyInvoiced := flag } } job) ∨
      (job.id ≠ id ∧ job ∈ books.jobs.rows) := by
  have hid : stored.id = id := Table.key_of_find? hstored
  rcases Table.mem_put.mp hjob with ⟨hold, hne⟩ | ⟨rfl, -⟩
  · exact .inr ⟨fun heq => hne (heq.trans hid.symm), hold⟩
  · exact .inl ⟨hid, hflag.symm⟩

/-! ## One event -/

/-- Every flag is right, or recalculated in a moment. -/
def Followed (s : FlagState) : Prop :=
  ∀ job ∈ s.books.jobs.rows, FlagRight s.books job ∨ s.Recalculating job.id

lemma wrote_eq_some {request : ℕ} (h : flagging s (.wrote request write) = some s') :
    s.books.write write = some s'.books ∧
      ((s.books.recalculatedAfter write = none ∧ s'.recalculations = s.recalculations) ∨
        ∃ job, s.books.recalculatedAfter write = some job ∧
          s.recalculations.insert? ⟨request, job, .asked⟩ = some s'.recalculations) := by
  obtain ⟨books, hbooks, h⟩ := Option.bind_eq_some_iff.mp h
  cases hjob : s.books.recalculatedAfter write with
  | none =>
      rw [hjob] at h
      obtain rfl := Option.some.inj h
      exact ⟨hbooks, .inl ⟨rfl, rfl⟩⟩
  | some job =>
      rw [hjob] at h
      obtain ⟨recalculations, hinsert, h⟩ := Option.bind_eq_some_iff.mp h
      obtain rfl := Option.some.inj h
      exact ⟨hbooks, .inr ⟨job, rfl, hinsert⟩⟩

lemma recalculating_wrote {request job : ℕ} (h : flagging s (.wrote request write) = some s') :
    (s.Recalculating job → s'.Recalculating job) ∧
      (s.books.recalculatedAfter write = some job → s'.Recalculating job) := by
  obtain ⟨-, ⟨hnone, hsame⟩ | ⟨owner, howner, hinsert⟩⟩ := wrote_eq_some h
  · refine ⟨fun hjob => ?_, fun hstarts => ?_⟩
    · unfold FlagState.Recalculating
      rwa [hsame]
    · rw [hnone] at hstarts
      cases hstarts
  · refine ⟨?_, fun hstarts => ?_⟩
    · rintro ⟨row, hrow, hjob⟩
      exact ⟨row, (Table.mem_insert? hinsert).mpr (.inl hrow), hjob⟩
    · rw [howner] at hstarts
      exact ⟨_, (Table.mem_insert? hinsert).mpr (.inr rfl), Option.some.inj hstarts⟩

lemma step_keeps_followed (hattended : Attended s event) (hs : Followed s)
    (hstep : flagging s event = some s') : Followed s' := by
  cases event with
  | wrote request write =>
      intro job hjob
      obtain ⟨hwrite, -⟩ := wrote_eq_some hstep
      obtain ⟨hgoing, hstarts⟩ := @recalculating_wrote _ _ _ _ job.id hstep
      obtain ⟨job₀, hjob₀, hid, hright⟩ := flagRight_write hjob hwrite
      rcases hs job₀ hjob₀ with hwas | hwas
      · rcases hattended with hinvoice | hmoves
        · by_cases howner : s.books.recalculatedAfter write = some job.id
          · exact .inr (hstarts howner)
          · -- the invoice is another job's, and the job is the row it was
            have hold : job ∈ s.books.jobs.rows := by
              rwa [jobs_write_of_isInvoice hinvoice hwrite] at hjob
            have hsame : job₀ = job := Table.eq_of_key_eq hjob₀ hold hid
            rw [hsame] at hwas
            exact .inl (hwas.trans (fullyInvoicedNow_of_isInvoice hinvoice hwrite howner).symm)
        · exact .inl (hright hwas hmoves)
      · exact .inr (hgoing (hid ▸ hwas))
  | queried request =>
      obtain ⟨row, hrow, hnext⟩ := Option.bind_eq_some_iff.mp hstep
      rcases next_cases hnext with ⟨stage, rfl⟩ | ⟨flag, stored, hstage, hstored, rfl⟩
      · refine fun job hjob => (hs job hjob).imp_right ?_
        rintro ⟨other, hother, howner⟩
        by_cases hsame : other.id = row.id
        · obtain rfl := Table.eq_of_key_eq hother (Table.mem_of_find? hrow) hsame
          have hthere : (s.recalculations.find? other.id).isSome := by
            rw [Table.find?_of_mem hother]
            rfl
          exact ⟨_, Table.mem_put.mpr (.inr ⟨rfl, hthere⟩), howner⟩
        · exact ⟨other, Table.mem_put.mpr (.inl ⟨hother, hsame⟩), howner⟩
      · intro job hjob
        have hfresh := hattended row hrow stored hstored flag hstage
        rcases flagRight_stored hstored hfresh hjob with ⟨-, hright⟩ | ⟨hne, hold⟩
        · exact .inl hright
        · refine (hs job hold).imp id ?_
          rintro ⟨other, hother, howner⟩
          refine ⟨other, Table.mem_erase.mpr ⟨hother, fun hsame => hne ?_⟩, howner⟩
          have hrow' := Table.eq_of_key_eq hother (Table.mem_of_find? hrow) hsame
          rw [← howner, hrow']

/-- **The step** where no invoice moves anything. -/
lemma step_keeps_flagsRight (hattended : Attended s event) (hstill : InvoiceStill s event)
    (hs : FlagsRight s.books) (hstep : flagging s event = some s') : FlagsRight s'.books := by
  cases event with
  | wrote request write =>
      intro job hjob
      obtain ⟨hwrite, -⟩ := wrote_eq_some hstep
      obtain ⟨job₀, hjob₀, -, hright⟩ := flagRight_write hjob hwrite
      exact hright (hs job₀ hjob₀) (hattended.elim hstill id)
  | queried request =>
      obtain ⟨row, hrow, hnext⟩ := Option.bind_eq_some_iff.mp hstep
      rcases next_cases hnext with ⟨stage, rfl⟩ | ⟨flag, stored, hstage, hstored, rfl⟩
      · exact hs
      · intro job hjob
        have hfresh := hattended row hrow stored hstored flag hstage
        rcases flagRight_stored hstored hfresh hjob with ⟨-, hright⟩ | ⟨-, hold⟩
        · exact hright
        · exact hs job hold

end Steps

/-! ## Every run -/

section Examples

def weldInvoice : BookedInvoice where
  xeroId := 1
  job := some 7
  company := 1
  number := "INV-0001"
  status := .authorised
  totalExclTax := ⟨100, fits_hundred⟩
  tax := ⟨15, by decide +kernel⟩
  totalInclTax := ⟨115, by decide +kernel⟩
  amountDue := ⟨115, by decide +kernel⟩
  date := 19783

/-- The hour is booked, and nothing is invoiced. -/
def uninvoiced : FlagState := ⟨weldBooks [weldHour], .empty⟩

/-- The invoice is stored, and the flag is recalculated. -/
def invoicing100 : List FlagEvent :=
  [.wrote 1 (.invoiceCreated weldInvoice), .queried 1, .queried 1, .queried 1, .queried 1, .queried 1]

end Examples

end Docketworks.Accounting
