import Docketworks.Library.Machine
import Docketworks.Accounting.WipReport

/-!
# The report of a past date, run again

What may happen after the date of a work-in-progress report, and when the report for that date is the same
afterwards.

* `later` — cost lines and invoices written and deleted, and jobs moved, invoiced in full and rejected.
* `LaterEvent.DatedAfter` — every line and invoice an event touches is dated after the report.
* `OutOfReport` — the job has no row in the report.
* `Unreported` — what an event changes beyond lines is not in the report.
* `report_stands_after_every_run` — while that holds of every event, the report stays as it is.
* `later_invoice_changes_the_report` — an invoice of the next month lowers the net of this one.
-/

namespace Docketworks.Accounting

open Library Kanban

/-! ## Later events -/

/-- A write committed after the report. -/
inductive LaterEvent where
  | lineSaved (set : ℕ) (line : BookedLine)
  | lineDeleted (set line : ℕ)
  /-- An invoice created, or synced from Xero: its job, status, amounts and date. -/
  | invoiceSaved (invoice : BookedInvoice)
  | invoiceDeleted (xeroId : ℕ)
  | statusChanged (job : ℕ) (status : JobStatus)
  /-- `recalculate_job_invoicing_state` stores the flag. -/
  | fullyInvoicedStored (job : ℕ) (flag : Bool)
  | rejectionStored (job : ℕ) (flag : Bool)

/-- The writes in any order. -/
def later : Machine Books LaterEvent := fun books event =>
  match event with
  | .lineSaved set line => books.withLines set (withLine line)
  | .lineDeleted set line => books.withLines set fun lines => lines.filter fun other => other.id ≠ line
  | .invoiceSaved invoice => some { books with invoices := books.invoices.upsert invoice }
  | .invoiceDeleted xeroId =>
      (books.invoices.find? xeroId).map fun _ =>
        { books with invoices := books.invoices.erase xeroId }
  | .statusChanged job status => books.withJob job fun row => { row with status }
  | .fullyInvoicedStored job flag => books.withJob job fun row => { row with fullyInvoiced := flag }
  | .rejectionStored job flag => books.withJob job fun row => { row with rejectedFlag := flag }

/-! ## The conditions -/

section Conditions

variable (reportDate : ℤ)

/-- The lines and invoices the event writes, replaces or deletes are dated after the report. -/
def DatedAfter (books : Books) (event : LaterEvent) : Prop :=
  match event with
  | .lineSaved set line =>
      reportDate < line.accountingDate ∧
        ∀ other ∈ books.linesOf set, other.id = line.id → reportDate < other.accountingDate
  | .lineDeleted set line =>
      ∀ other ∈ books.linesOf set, other.id = line → reportDate < other.accountingDate
  | .invoiceSaved invoice =>
      reportDate < invoice.date ∧
        ∀ other ∈ books.invoices.find? invoice.xeroId, reportDate < other.date
  | .invoiceDeleted xeroId => ∀ other ∈ books.invoices.find? xeroId, reportDate < other.date
  | .statusChanged _ _ | .fullyInvoicedStored _ _ | .rejectionStored _ _ => True

/-- The job has no row in the report: it is not one the report looks at, or had no revenue by its date. -/
def OutOfReport (books : Books) (job : BookedJob) : Prop :=
  job.inReport = false ∨ revenueOf (datedBy reportDate (books.linesOf job.latestActual)) = 0

/-- A write to a job leaves the columns the report reads, or the job is out of the report either way. -/
def JobUnreported (books : Books) (job : ℕ) (write : BookedJob → BookedJob) : Prop :=
  ∀ row ∈ books.jobs.find? job,
    ((write row).inReport = row.inReport ∧ (write row).status = row.status) ∨
      OutOfReport reportDate books row ∧ OutOfReport reportDate books (write row)

/-- A job is out of the report, or two invoices count the same for it. -/
def InvoiceUnreported (books : Books) (invoice invoice' : Option BookedInvoice) : Prop :=
  ∀ job ∈ books.jobs.rows, OutOfReport reportDate books job ∨
    (invoice.map fun row => row.toInvoice.validFor job.id).getD 0 =
      (invoice'.map fun row => row.toInvoice.validFor job.id).getD 0

/-- What the event changes, beyond cost lines, is not in the report. -/
def Unreported (books : Books) (event : LaterEvent) : Prop :=
  match event with
  | .lineSaved _ _ | .lineDeleted _ _ => True
  | .invoiceSaved invoice =>
      InvoiceUnreported reportDate books (books.invoices.find? invoice.xeroId) (some invoice)
  | .invoiceDeleted xeroId =>
      InvoiceUnreported reportDate books (books.invoices.find? xeroId) none
  | .statusChanged job status => JobUnreported reportDate books job fun row => { row with status }
  | .fullyInvoicedStored job flag =>
      JobUnreported reportDate books job fun row => { row with fullyInvoiced := flag }
  | .rejectionStored job flag =>
      JobUnreported reportDate books job fun row => { row with rejectedFlag := flag }

instance (books : Books) (job : BookedJob) : Decidable (OutOfReport reportDate books job) :=
  inferInstanceAs (Decidable (_ ∨ _))

instance (books : Books) (job : ℕ) (write : BookedJob → BookedJob) :
    Decidable (JobUnreported reportDate books job write) :=
  inferInstanceAs (Decidable (∀ row ∈ books.jobs.find? job, _))

instance (books : Books) (invoice invoice' : Option BookedInvoice) :
    Decidable (InvoiceUnreported reportDate books invoice invoice') :=
  inferInstanceAs (Decidable (∀ job ∈ books.jobs.rows, _))

instance (books : Books) (event : LaterEvent) : Decidable (Unreported reportDate books event) := by
  unfold Unreported
  split <;> infer_instance

instance (books : Books) (event : LaterEvent) : Decidable (DatedAfter reportDate books event) := by
  unfold DatedAfter
  split <;> infer_instance

end Conditions

variable {books books' : Books} {reportDate : ℤ} {method : WipMethod} {job : BookedJob}
  {event : LaterEvent} {lines : List BookedLine} {line : BookedLine}

/-! ## Rows that stay -/

lemma wipRow_eq_none (h : OutOfReport reportDate books job) :
    books.wipRow reportDate method job = none := by
  unfold Books.wipRow
  split
  · rename_i hin
    have hzero : revenueOf (datedBy reportDate (books.linesOf job.latestActual)) = 0 :=
      h.resolve_left (by simp [hin])
    simp [buildRow, costTotals, hzero]
  · rfl

lemma wipRow_congr {job' : BookedJob} (hcompanies : books'.companies = books.companies)
    (hcolumns : job' = { job with status := job'.status, fullyInvoiced := job'.fullyInvoiced,
                                  rejectedFlag := job'.rejectedFlag })
    (hin : job'.inReport = job.inReport) (hstatus : job'.status = job.status)
    (hlines : datedBy reportDate (books'.linesOf job.latestActual) =
      datedBy reportDate (books.linesOf job.latestActual))
    (hinvoiced : books'.invoiced job.id = books.invoiced job.id) :
    books'.wipRow reportDate method job' = books.wipRow reportDate method job := by
  unfold Books.wipRow
  rw [hin, hcolumns]
  simp only [hcompanies, hlines, hinvoiced, hstatus]
  rfl

/-! ## Lines -/

lemma datedBy_withLine (hdated : reportDate < line.accountingDate)
    (hold : ∀ other ∈ lines, other.id = line.id → reportDate < other.accountingDate) :
    datedBy reportDate (withLine line lines) = datedBy reportDate lines := by
  unfold datedBy withLine
  split
  · rw [List.filter_map]
    have hsame : lines.filter ((fun other => decide (other.accountingDate ≤ reportDate)) ∘
        fun other => if other.id = line.id then line else other) =
        lines.filter fun other => other.accountingDate ≤ reportDate := by
      refine List.filter_congr fun other hother => ?_
      by_cases hid : other.id = line.id
      · have hlater := hold other hother hid
        simp [hid, not_le.mpr hdated, not_le.mpr hlater]
      · simp [hid]
    rw [hsame]
    have hkept : ∀ other ∈ lines.filter (fun other => other.accountingDate ≤ reportDate),
        (if other.id = line.id then line else other) = other := by
      intro other hother
      obtain ⟨hmem, hby⟩ := List.mem_filter.mp hother
      rw [if_neg fun hid => not_le.mpr (hold other hmem hid) (of_decide_eq_true hby)]
    rw [List.map_congr_left hkept, List.map_id']
  · rw [List.filter_append]
    simp [not_le.mpr hdated]

lemma datedBy_without {id : ℕ}
    (hold : ∀ other ∈ lines, other.id = id → reportDate < other.accountingDate) :
    datedBy reportDate (lines.filter fun other => other.id ≠ id) = datedBy reportDate lines := by
  unfold datedBy
  rw [List.filter_filter]
  refine List.filter_congr fun other hother => ?_
  by_cases hid : other.id = id
  · simp [hid, not_le.mpr (hold other hother hid)]
  · simp [hid]

lemma report_withLines {set : ℕ} {write : List BookedLine → List BookedLine}
    (hwrite : datedBy reportDate (write (books.linesOf set)) =
      datedBy reportDate (books.linesOf set))
    (hstep : books.withLines set write = some books') :
    getWipData books' reportDate method = getWipData books reportDate method := by
  obtain ⟨row, hrow, rfl⟩ := Option.map_eq_some_iff.mp hstep
  obtain rfl : row.id = set := Table.key_of_find? hrow
  have hlines : books.linesOf row.id = row.lines := by simp [Books.linesOf, hrow]
  have hdated : ∀ other, datedBy reportDate (Books.linesOf { books with
      costSets := books.costSets.put { row with lines := write row.lines } } other) =
      datedBy reportDate (books.linesOf other) := by
    intro other
    by_cases hother : other = row.id
    · subst hother
      have hput := @Table.find?_put_self _ _ _ BookedSet.id books.costSets
        { row with lines := write row.lines } row hrow
      rw [hlines] at hwrite ⊢
      simp only [Books.linesOf, hput, Option.map_some, Option.getD_some, hwrite]
    · have hne : other ≠ BookedSet.id { row with lines := write row.lines } := hother
      simp only [Books.linesOf, Table.find?_put_of_ne hne]
  refine getWipData_congr (List.map_id _).symm (fun _ _ => rfl) fun job _ => ?_
  exact wipRow_congr rfl rfl rfl rfl (hdated job.latestActual) rfl

/-! ## Invoices -/

lemma invoiced_upsert (books : Books) (invoice : BookedInvoice) (id : ℕ) :
    Books.invoiced { books with invoices := books.invoices.upsert invoice } id =
      books.invoiced id - ((books.invoices.find? invoice.xeroId).map fun row =>
        row.toInvoice.validFor id).getD 0 + invoice.toInvoice.validFor id := by
  unfold Books.invoiced Table.upsert
  simp only
  cases hinsert : books.invoices.insert? invoice with
  | some invoices =>
      have hnew := Table.find?_of_insert? hinsert
      simp only [Option.getD_some, hnew, Option.map_none, Option.getD_none, sub_zero]
      exact Table.sum_insert? hinsert _
  | none =>
      cases hfound : books.invoices.find? invoice.xeroId with
      | none =>
          obtain ⟨other, hother, hkey⟩ : ∃ other ∈ books.invoices.rows, other.xeroId = invoice.xeroId := by
            simpa [Table.insert?] using hinsert
          exact absurd hkey (Table.find?_eq_none_iff.mp hfound other hother)
      | some row =>
          simp only [Option.getD_none, Option.map_some, Option.getD_some]
          exact Table.sum_put hfound _

lemma invoiced_erase {xeroId : ℕ} {row : BookedInvoice}
    (hfound : books.invoices.find? xeroId = some row) (id : ℕ) :
    Books.invoiced { books with invoices := books.invoices.erase xeroId } id =
      books.invoiced id - row.toInvoice.validFor id :=
  Table.sum_erase hfound _

lemma report_withInvoices {invoices : Table fun invoice : BookedInvoice => invoice.xeroId}
    (h : ∀ job ∈ books.jobs.rows, OutOfReport reportDate books job ∨
      Books.invoiced { books with invoices } job.id = books.invoiced job.id) :
    getWipData { books with invoices } reportDate method = getWipData books reportDate method := by
  refine getWipData_congr (List.map_id _).symm (fun _ _ => rfl) fun job hjob => ?_
  rcases h job hjob with hout | hsame
  · have hout' : OutOfReport reportDate { books with invoices } job := hout
    exact (wipRow_eq_none hout').trans (wipRow_eq_none hout).symm
  · exact wipRow_congr rfl rfl rfl rfl rfl hsame

/-! ## Columns of a job -/

lemma report_withJob {id : ℕ} {write : BookedJob → BookedJob}
    (hcolumns : ∀ row, write row = { row with
      status := (write row).status, fullyInvoiced := (write row).fullyInvoiced,
      rejectedFlag := (write row).rejectedFlag })
    (hout : JobUnreported reportDate books id write) (hstep : books.withJob id write = some books') :
    getWipData books' reportDate method = getWipData books reportDate method := by
  obtain ⟨row, hrow, rfl⟩ := Option.map_eq_some_iff.mp hstep
  have hid : (write row).id = row.id := by rw [hcolumns row]
  refine getWipData_congr rfl (fun job hjob => ?_) fun job hjob => ?_
  · split
    · rename_i hsame
      rw [Table.eq_of_key_eq hjob (Table.mem_of_find? hrow) (hsame.trans hid), hcolumns row]
    · rfl
  · split
    · rename_i hsame
      obtain rfl := Table.eq_of_key_eq hjob (Table.mem_of_find? hrow) (hsame.trans hid)
      rcases hout job hrow with ⟨hin, hstatus⟩ | ⟨hbefore, hafter⟩
      · exact wipRow_congr rfl (hcolumns job) hin hstatus rfl rfl
      · have hafter' : OutOfReport reportDate { books with jobs := books.jobs.put (write job) }
            (write job) := hafter
        exact (wipRow_eq_none hafter').trans (wipRow_eq_none hbefore).symm
    · exact wipRow_congr rfl rfl rfl rfl rfl rfl

/-! ## Every run -/

theorem step_keeps_report (hdated : DatedAfter reportDate books event)
    (hout : Unreported reportDate books event) (hstep : later books event = some books') :
    getWipData books' reportDate method = getWipData books reportDate method := by
  cases event with
  | lineSaved set line => exact report_withLines (datedBy_withLine hdated.1 hdated.2) hstep
  | lineDeleted set line => exact report_withLines (datedBy_without hdated) hstep
  | invoiceSaved invoice =>
      obtain rfl := Option.some.inj hstep
      refine report_withInvoices fun job hjob => (hout job hjob).imp_right fun hsame => ?_
      rw [invoiced_upsert, hsame]
      simp
  | invoiceDeleted xeroId =>
      obtain ⟨row, hrow, rfl⟩ := Option.map_eq_some_iff.mp hstep
      refine report_withInvoices fun job hjob => (hout job hjob).imp_right fun hsame => ?_
      rw [hrow] at hsame
      rw [invoiced_erase hrow, sub_eq_self]
      exact hsame
  | statusChanged job status | fullyInvoicedStored job flag | rejectionStored job flag =>
      exact report_withJob (fun _ => rfl) hout hstep

/-- **The report of a past date stands.**  After any later lines and invoices, and changes of jobs and
invoices that are not in it, the report as at the date is row by row and in total the one it was. -/
theorem report_stands_after_every_run {events : List LaterEvent}
    (hdated : later.AllMeet (DatedAfter reportDate) books events)
    (hout : later.AllMeet (Unreported reportDate) books events)
    (hrun : later.run books events = some books') :
    getWipData books' reportDate method = getWipData books reportDate method := by
  refine Machine.run_keeps_of_meet
    (I := fun now => getWipData now reportDate method = getWipData books reportDate method)
    (C := fun now event => DatedAfter reportDate now event ∧ Unreported reportDate now event)
    (fun now event next hsame hmeets hstep => ?_) rfl (hdated.and hout) hrun
  exact (step_keeps_report hmeets.1 hmeets.2 hstep).trans hsame

/-! ## A gate under way -/

section Examples

/-- A line of hours or material at 100. -/
def gateLine (id : ℕ) (accountingDate : ℤ) : BookedLine where
  id
  kind := .time
  quantity := ⟨1, fits_one⟩
  unitCost := ⟨40, fits_forty⟩
  unitRev := ⟨100, fits_hundred⟩
  accountingDate

/-- A job in progress with one line on day 10, and one whose work has not begun. -/
def gateBooks : Books where
  jobs := ⟨[
    { id := 7, jobNumber := 101, name := "Gate", company := none, status := .inProgress,
      pricingMethodology := .timeMaterials, priceCap := none, latestQuote := 1, latestActual := 2,
      paid := false, fullyInvoiced := false, rejectedFlag := false },
    { id := 8, jobNumber := 102, name := "Rail", company := none, status := .approved,
      pricingMethodology := .timeMaterials, priceCap := none, latestQuote := 3, latestActual := 4,
      paid := false, fullyInvoiced := false, rejectedFlag := false }], by decide⟩
  companies := .empty
  costSets := ⟨[⟨1, 7, .quote, 1, []⟩, ⟨2, 7, .actual, 1, [gateLine 1 10]⟩, ⟨3, 8, .quote, 1, []⟩,
    ⟨4, 8, .actual, 1, []⟩], by simp⟩
  invoices := .empty

def gateInvoice : BookedInvoice where
  xeroId := 1
  job := some 7
  company := 1
  number := "INV-0001"
  status := .authorised
  totalExclTax := ⟨60, by decide +kernel⟩
  tax := ⟨9, by decide +kernel⟩
  totalInclTax := ⟨69, by decide +kernel⟩
  amountDue := ⟨69, by decide +kernel⟩
  date := 20

/-- More hours are booked on the gate, and the rail is finished. -/
def laterWork : List LaterEvent :=
  [.lineSaved 2 (gateLine 2 20), .lineSaved 4 (gateLine 3 21), .statusChanged 8 .recentlyCompleted,
    .lineDeleted 2 2]

/-- Later work leaves the report of day 10. -/
theorem report_stands_after_later_work :
    ∃ t, later.run gateBooks laterWork = some t ∧
      getWipData t 10 .revenue = getWipData gateBooks 10 .revenue := by
  obtain ⟨t, ht⟩ := Option.isSome_iff_exists.mp
    (show (later.run gateBooks laterWork).isSome = true by decide +kernel)
  exact ⟨t, ht, report_stands_after_every_run (by decide +kernel) (by decide +kernel) ht⟩

/-- Invoiced on day 20, the gate has 40 left in the report of day 10 that had shown 100. -/
theorem later_invoice_changes_the_report :
    later.AllMeet (DatedAfter 10) gateBooks [.invoiceSaved gateInvoice] ∧
      ∃ t, later.run gateBooks [.invoiceSaved gateInvoice] = some t ∧
        (getWipData gateBooks 10 .revenue).summary.totalNet = 100 ∧
        (getWipData t 10 .revenue).summary.totalNet = 40 := by
  refine ⟨by decide +kernel, ?_⟩
  obtain ⟨t, ht, hnet⟩ := Option.any_eq_true _ _ |>.mp
    (show ((later.run gateBooks [.invoiceSaved gateInvoice]).any fun t =>
      (getWipData t 10 .revenue).summary.totalNet = 40) = true by decide +kernel)
  exact ⟨t, ht, by decide +kernel, of_decide_eq_true hnet⟩

end Examples

end Docketworks.Accounting
