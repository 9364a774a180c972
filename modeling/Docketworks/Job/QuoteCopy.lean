import Docketworks.Job.Costing
import Docketworks.Library.Binary64

/-!
# Copying an estimate onto a quote

`create_quote_revision` and `copy_estimate_to_quote` of `apps/job/services/job_service.py`.  The
copy replaces the quote's lines by copies of the estimate's; a quote with money on it is archived in
its summary first.

* `copiedLineValues` — `_COPIED_LINE_FIELDS`, what a copy carries.
* `serializeCopiedLine`, `costLineContents` — what two sets are compared by.
* `archiveQuoteRevision`, `createQuoteRevision` — the archive and the cleared quote.
* `copyEstimateToQuote` — the copy.

**Design.**  The totals of a summary are in `Costing`; its list of revisions is kept beside them, by
cost set.  An archived figure is the double Python's `float` makes of it.  A JSON object lists its
members as the database keeps them, in one order, so equal objects are equal lists.  New lines get
ids in use nowhere, as random UUIDs do.  Job events and freshness stamps are left out.
-/

namespace Docketworks

open Library

/-! ## The rows -/

/-- `PRICING_METHODOLOGY_CHOICES`. -/
inductive PricingMethodology where
  | timeMaterials
  | fixedPrice
  deriving DecidableEq

structure QuotedJob where
  id : ℕ
  pricingMethodology : PricingMethodology
  latestEstimate : Option ℕ
  latestQuote : Option ℕ
  quoteAcceptanceDate : Option ℤ
  deriving DecidableEq

/-- A cost line as a revision records it. -/
structure ArchivedLine where
  id : ℕ
  kind : LineKind
  desc : Option String
  quantity : Float64
  unitCost : Float64
  unitRev : Float64
  totalCost : Float64
  totalRev : Float64
  extRefs : Json.Members
  payload : Json.Members
  deriving DecidableEq

/-- One element of `summary.revisions`. -/
structure ArchivedRevision where
  quoteRevision : ℕ
  archivedAt : ℤ
  reason : Option String
  cost : Float64
  rev : Float64
  hours : Float64
  costLines : List ArchivedLine
  deriving DecidableEq

/-- The tables, and the revisions each cost set's summary lists. -/
structure QuoteDesk where
  costing : Costing
  jobs : Table QuotedJob.id
  revisions : ℕ → List ArchivedRevision

abbrev QuoteCall := Transaction QuoteDesk Refusal

/-- The costing tables of the desk. -/
def costingPart : Transaction.Part QuoteDesk Costing where
  get := QuoteDesk.costing
  set costing desk := { desk with costing := costing }
  get_set _ _ := rfl

deriving instance DecidableEq for CostLine

/-! ## What a copy carries -/

/-- `_COPIED_LINE_FIELDS`. -/
structure CopiedLine where
  kind : LineKind
  desc : Option String
  quantity : ℚ
  unitCost : ℚ
  unitRev : ℚ
  accountingDate : ℤ
  extRefs : Json.Members
  payload : Json.Members
  xeroPayItem : Option ℕ
  labourSubtype : Option ℕ
  deriving DecidableEq

def copiedLineValues (line : CostLine) : CopiedLine where
  kind := line.kind
  desc := line.desc
  quantity := line.quantity
  unitCost := line.unitCost
  unitRev := line.unitRev
  accountingDate := line.accountingDate
  extRefs := line.extRefs
  payload := line.payload
  xeroPayItem := line.xeroPayItem
  labourSubtype := line.labourSubtype

/-- `cost_set.cost_lines.all()`: materials, adjustments, then time, each as they were made. -/
def costLines (lines : Table CostLine.id) (costSet : ℕ) : List CostLine :=
  let own := lines.rows.filter fun line => line.costSet = costSet
  own.filter (·.kind = .material) ++ (own.filter (·.kind = .adjust) ++ own.filter (·.kind = .time))

def unusedId (lines : Table CostLine.id) : ℕ := (lines.rows.map CostLine.id).foldr max 0 + 1

/-- A new line of a cost set, with the copied values and the columns' defaults beside them. -/
def copyOf (dest id : ℕ) (values : CopiedLine) : CostLine where
  id := id
  costSet := dest
  kind := values.kind
  desc := values.desc
  quantity := values.quantity
  unitCost := values.unitCost
  unitRev := values.unitRev
  extRefs := values.extRefs
  payload := values.payload
  accountingDate := values.accountingDate
  approved := true
  staff := none
  entrySeq := none
  xeroPayItem := values.xeroPayItem
  labourSubtype := values.labourSubtype
  managedBy := none

/-- Copies of the values of lines, under the ids from `id` on. -/
def copiesFrom (dest : ℕ) : ℕ → List CostLine → List CostLine
  | _, [] => []
  | id, line :: lines => copyOf dest id (copiedLineValues line) :: copiesFrom dest (id + 1) lines

def insertLine (line : CostLine) : CostingCall Unit := do
  let lines ← Transaction.read Costing.lines
  let lines ← Transaction.orRefuse (lines.insert? line) (.database "job_costline_pkey")
  .write fun db => { db with lines := lines }

/-- `_copy_cost_lines`: copy every line of `source` onto `dest`, each checked in full, then add the
totals up again. -/
def copyCostLines (source dest : ℕ) : CostingCall ℕ := do
  let db ← Transaction.read (fun db => db)
  let destSet ← Transaction.orRefuse (db.costSets.find? dest) (.doesNotExist "CostSet")
  .require (destSet.kind ≠ .actual)
    (.value "Cost lines are never copied onto an actual cost set.")
  match copiesFrom dest (unusedId db.lines) (costLines db.lines source) with
  | [] => pure 0
  | line :: lines => do
      (line :: lines).forM CostLine.fullClean
      (line :: lines).forM insertLine
      let _ ← CostSet.recalculateSummary dest
      pure (line :: lines).length

/-! ## Archiving -/

def archivedLine (line : CostLine) : ArchivedLine where
  id := line.id
  kind := line.kind
  desc := line.desc
  quantity := .ofRat line.quantity
  unitCost := .ofRat line.unitCost
  unitRev := .ofRat line.unitRev
  totalCost := .ofRat line.totalCost
  totalRev := .ofRat line.totalRev
  extRefs := line.extRefs
  payload := line.payload

/-- The revision that records the lines of a quote after those it has. -/
def archivedRevision (revisions : List ArchivedRevision) (lines : List CostLine)
    (reason : Option String) (now : ℤ) : ArchivedRevision where
  quoteRevision := revisions.length + 1
  archivedAt := now
  reason := reason
  cost := .ofRat (lines.map CostLine.totalCost).sum
  rev := .ofRat (lines.map CostLine.totalRev).sum
  hours := .ofRat ((lines.filter (·.kind = .time)).map CostLine.quantity).sum
  costLines := lines.map archivedLine

/-- `_archive_quote_revision`: the revision is appended and the totals are zero. -/
def archiveQuoteRevision (costSet : CostSet) (lines : List CostLine) (reason : Option String)
    (now : ℤ) : QuoteCall ℕ := do
  let desk ← Transaction.read (fun desk => desk)
  let revision := archivedRevision (desk.revisions costSet.id) lines reason now
  .write fun desk => { desk with
    costing := { desk.costing with
      costSets := desk.costing.costSets.put { costSet with summary := ⟨0, 0, 0⟩ } }
    revisions := Function.update desk.revisions costSet.id
      (desk.revisions costSet.id ++ [revision]) }
  pure revision.quoteRevision

/-- `cost_lines.all().delete()`: in bulk, without the save hooks. -/
def deleteCostLines (costSet : ℕ) : CostingCall Unit :=
  .write fun db => { db with lines := db.lines.filter fun line => line.costSet ≠ costSet }

/-- The quote's acceptance is taken back. -/
def resetAcceptance (job : QuotedJob) : QuoteCall Unit :=
  .write fun desk => { desk with jobs := desk.jobs.put { job with quoteAcceptanceDate := none } }

/-- Fetch a cost set. -/
def theSet (id : ℕ) : QuoteCall CostSet := do
  let desk ← Transaction.read (fun desk => desk)
  .orRefuse (desk.costing.costSets.find? id) (.doesNotExist "CostSet")

/-- `create_quote_revision`: archive the current quote's lines and clear them. -/
def createQuoteRevision (job : QuotedJob) (reason : Option String) (now : ℤ) : QuoteCall ℕ := do
  let quoteId ← Transaction.orRefuse job.latestQuote
    (.value "No quote found for this job. Cannot create revision.")
  let quote ← theSet quoteId
  let lines ← Transaction.read fun desk : QuoteDesk => costLines desk.costing.lines quoteId
  .require (lines.isEmpty = false)
    (.value "No cost lines found in current quote. Nothing to revise.")
  let revision ← archiveQuoteRevision quote lines reason now
  .on costingPart (deleteCostLines quoteId)
  let _ ← Transaction.on costingPart (CostSet.recalculateSummary quoteId)
  resetAcceptance job
  pure revision

/-! ## The copy -/

/-- `_serialize_copied_line`, one text a field: a description that is null reads as `None`. -/
def serializeCopiedLine (values : CopiedLine) : CopiedLine :=
  { values with desc := some (values.desc.getD "None") }

/-- `_cost_line_contents`: everything a copy carries, as a multiset. -/
def costLineContents (lines : List CostLine) : Multiset CopiedLine :=
  (lines.map fun line => serializeCopiedLine (copiedLineValues line) : List CopiedLine)

/-- No line carries cost or revenue. -/
def IsBlank (lines : List CostLine) : Prop :=
  ∀ line ∈ lines, line.totalCost = 0 ∧ line.totalRev = 0

instance (lines : List CostLine) : Decidable (IsBlank lines) :=
  inferInstanceAs (Decidable (∀ _ ∈ _, _))

structure CopyEstimateToQuoteResult where
  copiedCostLinesCount : ℕ
  archivedQuoteRevision : Option ℕ
  deriving DecidableEq

def copyEstimateToQuote (jobId : ℕ) (archiveExisting : Bool) (now : ℤ) :
    QuoteCall CopyEstimateToQuoteResult := do
  let found ← Transaction.read fun desk : QuoteDesk => desk.jobs.find? jobId
  let job ← Transaction.orRefuse found (.doesNotExist "Job")
  .require (job.pricingMethodology ≠ .timeMaterials)
    (.value "A time and materials job has no quote — there is nothing to copy onto.")
  let estimateId ← Transaction.orRefuse job.latestEstimate
    (.value "This job has no estimate or quote costs and revenue to copy.")
  let quoteId ← Transaction.orRefuse job.latestQuote
    (.value "This job has no estimate or quote costs and revenue to copy.")
  let _ ← theSet estimateId
  let estimateLines ← Transaction.read fun desk : QuoteDesk =>
    costLines desk.costing.lines estimateId
  .require (estimateLines.isEmpty = false) (.value "The estimate has no cost lines to copy.")
  let _ ← theSet quoteId
  let quoteLines ← Transaction.read fun desk : QuoteDesk => costLines desk.costing.lines quoteId
  if costLineContents quoteLines = costLineContents estimateLines then
    pure ⟨0, none⟩
  else do
    .require (IsBlank quoteLines ∨ archiveExisting = true)
      (.conflict ("The quote already has priced cost lines. " ++
        "Pass archive_existing to archive them as a revision first."))
    let archived ← if IsBlank quoteLines then do
        .on costingPart (deleteCostLines quoteId)
        resetAcceptance job
        pure none
      else do
        let revision ← createQuoteRevision job (some "Replaced by copy from estimate") now
        pure (some revision)
    let copied ← Transaction.on costingPart (copyCostLines estimateId quoteId)
    pure ⟨copied, archived⟩

end Docketworks
