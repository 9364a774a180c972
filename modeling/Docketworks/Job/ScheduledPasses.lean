import Docketworks.Accounting.InvoiceCalculation
import Docketworks.Job.JobWork

/-!
# The scheduled passes beside the other writers

The auto-archive and the paid-flag pass with everything that writes to jobs in between
(`apps/job/services/auto_archive_service.py`, `apps/job/services/paid_flag_service.py`, `Job.save` and
`update_job`).

* `ScheduledPass` — the two passes: which jobs they take, and what they set.
* `PassRun`, `JobWriter` — a pass and a service on their way, each with the objects it has read.
* `Office` — the tables, and who is on the way.
* `passing` — one committed write, or one read of a party on its way.

**Design.**  A transaction that locks the row it reads (`update_job`, `accept_quote`) is one step: nobody
else writes the row between its lock and its commit.  The saves of a pass are one transaction: the rows are
locked from their write to the commit, so the writes are put at the commit; the reads of its saves come one
by one before it.  Creations are committed whole.
-/

namespace Docketworks

open Library Kanban

namespace JobRecord

/-! ## The passes -/

/-- The columns of an invoice the paid-flag pass reads. -/
structure JobInvoice where
  id : ℕ
  job : Option ℕ
  status : Accounting.InvoiceStatus
  deriving DecidableEq

inductive ScheduledPass where
  | autoArchive (threshold : ℤ)
  | paidFlags
  deriving DecidableEq

namespace ScheduledPass

/-- What the pass asks of the columns of a job. -/
def selects : ScheduledPass → JobRow → Bool
  | autoArchive threshold, row =>
      decide (row.value .status = .recentlyCompleted) &&
        (row.value .completedAt).any (fun completed => completed ≤ threshold) &&
          (row.value .paid || row.value .rejectedFlag)
  | paidFlags, row => decide (row.value .status = .recentlyCompleted) && !row.value .paid

/-- What the pass sets. -/
def cell : ScheduledPass → Cell
  | autoArchive _ => ⟨.status, .archived⟩
  | paidFlags => ⟨.paid, true⟩

def eventType : ScheduledPass → JobEventType
  | autoArchive _ => .statusChanged
  | paidFlags => .paymentReceived

end ScheduledPass

def passEvent (now : ℤ) (pass : ScheduledPass) (row : JobRow) : JobEvent where
  job := row.id
  timestamp := now
  eventType := pass.eventType
  deltaBefore := [row.cell pass.cell.1]
  deltaAfter := [pass.cell]
  schemaVersion := 0
  changeId := none
  deltaFields := none

/-! ## On the way -/

/-- How far a pass has come. -/
inductive PassStage where
  /-- It has made its first query: of the paid jobs, or of the completed ones. -/
  | firstRead (copies : List JobRow)
  /-- It saves its objects; those read again for their save are kept with what was read. -/
  | saving (reread : List (JobRow × JobRow)) (todo : List JobRow)

structure PassRun where
  id : ℕ
  pass : ScheduledPass
  stage : PassStage

def PassRun.copies (run : PassRun) : List JobRow :=
  match run.stage with
  | .firstRead copies => copies
  | .saving reread todo => reread.map Prod.fst ++ todo

/-- A service that has read a job without a lock, and perhaps the row its save compares with. -/
structure JobWriter where
  id : ℕ
  copy : JobRow
  original : Option JobRow

/-- The tables, and who is on the way. -/
structure Office where
  desk : JobDesk
  invoices : Table JobInvoice.id
  passes : Table PassRun.id
  writers : Table JobWriter.id

/-- The job has invoices that were not voided, and all of them are paid (`_invoice_counts`). -/
def Office.isSettled (office : Office) (job : ℕ) : Bool :=
  let invoices := office.invoices.rows.filter fun invoice =>
    decide (invoice.job = some job) && invoice.status.isValid
  !invoices.isEmpty && invoices.all fun invoice => invoice.status = .paid

/-- The condition of the pass holds of the job. -/
def Office.meets (office : Office) (pass : ScheduledPass) (row : JobRow) : Bool :=
  pass.selects row && match pass with
    | .autoArchive _ => true
    | .paidFlags => office.isSettled row.id

/-! ## Steps -/

/-- A committed write, or a read. -/
inductive OfficeStep where
  | jobCreated (now : ℤ) (row : JobRow)
  | jobUpdated (now : ℤ) (job : ℕ) (delta : JobDesk.JobDelta)
  | quoteAccepted (now : ℤ) (job : ℕ)
  | invoiceWritten (invoice : JobInvoice)
  | passStarted (run : ℕ) (pass : ScheduledPass)
  /-- The second query: the rejected jobs, or the invoices of the jobs read. -/
  | passReadOn (run : ℕ)
  | passReread (run : ℕ)
  | passCommitted (now : ℤ) (run : ℕ)
  | writerRead (writer job : ℕ)
  | writerReread (writer : ℕ)
  /-- The service saves the columns it has changed, or the whole object. -/
  | writerSaved (now : ℤ) (writer : ℕ) (cells : List Cell) (whole : Bool) (enrichment : Enrichment)

/-- `job.save(...)` of an object, compared with `original`, over the row as it is now. -/
def JobDesk.saveOver (desk : JobDesk) (now : ℤ) (self original : JobRow)
    (updateFields : Option (List JobField)) (enrichment : Enrichment) : Option JobDesk :=
  (desk.jobs.find? self.id).map fun row =>
    let saved := self.save original updateFields enrichment (desk.maxPriority fun _ => true) now
    { desk with
      jobs := desk.jobs.put (saved.over row)
      events := desk.events ++ saved.event.toList }

def JobDesk.savePass (now : ℤ) (pass : ScheduledPass) : JobDesk → List (JobRow × JobRow) → Option JobDesk
  | desk, [] => some desk
  | desk, (copy, original) :: rest => do
      let desk ← desk.saveOver now (copy.set pass.cell) original none {}
      desk.savePass now pass rest

namespace Office

variable (office : Office)

/-- The first query of a pass. -/
def firstRead (pass : ScheduledPass) : List JobRow :=
  office.desk.jobs.rows.filter fun row => pass.selects row && match pass with
    | .autoArchive _ => row.value .paid
    | .paidFlags => true

/-- What a pass saves after its second query. -/
def secondRead (pass : ScheduledPass) (copies : List JobRow) : List JobRow :=
  match pass with
  | .autoArchive _ => copies ++ office.desk.jobs.rows.filter fun row =>
      pass.selects row && row.value .rejectedFlag && !(copies.map JobRow.id).contains row.id
  | .paidFlags => copies.filter fun copy => office.isSettled copy.id

/-- The office after a step, if it can be taken. -/
def step : OfficeStep → Option Office
  | .jobCreated now row => (office.desk.createJob now row).map fun desk => { office with desk }
  | .jobUpdated now job delta => (office.desk.updateJob now job delta).map fun desk => { office with desk }
  | .quoteAccepted now job => (office.desk.acceptQuote now job).map fun desk => { office with desk }
  | .invoiceWritten invoice => some { office with invoices := office.invoices.upsert invoice }
  | .passStarted run pass =>
      (office.passes.insert? ⟨run, pass, .firstRead (office.firstRead pass)⟩).map fun passes =>
        { office with passes }
  | .passReadOn run => do
      let row ← office.passes.find? run
      match row.stage with
      | .firstRead copies =>
          let stage := .saving [] (office.secondRead row.pass copies)
          some { office with passes := office.passes.put { row with stage } }
      | .saving _ _ => none
  | .passReread run => do
      let row ← office.passes.find? run
      match row.stage with
      | .saving reread (copy :: todo) =>
          (office.desk.jobs.find? copy.id).map fun original =>
            let stage := .saving (reread ++ [(copy, original)]) todo
            { office with passes := office.passes.put { row with stage } }
      | _ => none
  | .passCommitted now run => do
      let row ← office.passes.find? run
      match row.stage with
      | .saving reread [] =>
          (office.desk.savePass now row.pass reread).map fun desk =>
            { office with desk, passes := office.passes.erase run }
      | _ => none
  | .writerRead writer job =>
      (office.desk.jobs.find? job).bind fun copy =>
        (office.writers.insert? ⟨writer, copy, none⟩).map fun writers => { office with writers }
  | .writerReread writer => do
      let row ← office.writers.find? writer
      (office.desk.jobs.find? row.copy.id).map fun original =>
        { office with writers := office.writers.put { row with original := some original } }
  | .writerSaved now writer cells whole enrichment => do
      let row ← office.writers.find? writer
      let original ← row.original
      (office.desk.saveOver now (cells.foldl JobRow.set row.copy) original
          (if whole then none else some (cells.map Sigma.fst)) enrichment).map fun desk =>
        { office with desk, writers := office.writers.erase writer }

end Office

/-- The parties, one step at a time. -/
def passing : Machine Office OfficeStep := Office.step

/-! ## Reading the history of a column -/

/-- A column of a job. -/
def Office.valueOf (office : Office) (job : ℕ) (field : JobField) : Option field.Value :=
  (office.desk.jobs.find? job).map fun row => row.value field

/-- The step commits a write to the job that means to set the column, or a column it follows from. -/
def Sets (job : ℕ) (field : JobField) (office : Office) : OfficeStep → Prop
  | .jobCreated _ row => row.id = job
  | .jobUpdated _ other delta => other = job ∧ field ∈ setBy (delta.after.map Sigma.fst)
  | .quoteAccepted _ other => other = job ∧ field ∈ setBy [.quoteAcceptanceDate, .status]
  | .passCommitted _ run => ∃ row ∈ office.passes.rows, row.id = run ∧
      (∃ copy ∈ row.copies, copy.id = job) ∧ field ∈ setBy [row.pass.cell.1]
  | .writerSaved _ writer cells _ _ => ∃ row ∈ office.writers.rows, row.id = writer ∧
      row.copy.id = job ∧ field ∈ setBy (cells.map Sigma.fst)
  | _ => False

end JobRecord

end Docketworks
