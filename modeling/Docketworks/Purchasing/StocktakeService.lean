import Docketworks.Purchasing.StockService

/-!
# Counts

`apps/purchasing/services/stocktake_service.py`: a draft of observations, which becomes balanced
movements on explicit posting, and is corrected by a linked recount.

* `createStocktake`, `saveStocktake` — drafts; saving refuses an observation that is stale.
* `postStocktake` — every counted difference as one cost line and one movement, once.
* `correctStocktake` — a new draft over the posted identities.
-/

namespace Docketworks

open Library Library.Transaction

namespace Purchasing

def theStocktake (id : ℕ) : PurchasingCall Stocktake := do
  let found ← Transaction.read (fun db => db.stocktakes.find? id)
  .orRefuse found (.doesNotExist "Stocktake")

def requireWorkshopStock (stock : Stock) : PurchasingCall Unit := do
  let countable ← isCountable stock
  .require (countable = true) (.invalidInput "Count only unassigned workshop stock.")

def snapshotLine (id stocktake : ℕ) (stock : Stock) : StocktakeLine where
  id := id
  stocktake := stocktake
  stock := some stock.id
  description := stock.description
  location := stock.location
  expectedQuantity := stock.quantity
  expectedVersion := stock.inventoryVersion
  countedQuantity := none
  unitCost := stock.unitCost
  reason := none

/-- Store a count line, new or known; a count names an identity once. -/
def storeLine (line : StocktakeLine) : PurchasingCall Unit := do
  .require (0 ≤ line.unitCost) (.database "count_cost_nonnegative")
  .require (0 ≤ line.countedQuantity.getD 0) (.database "count_nonnegative")
  .require (line.location ≠ some "") (.database "stocktake_line_location_not_blank")
  .require (line.reason ≠ some "") (.database "stocktake_line_reason_not_blank")
  let rows ← Transaction.read Purchasing.stocktakeLines
  match rows.find? line.id with
  | some _ => .write fun db => { db with stocktakeLines := db.stocktakeLines.put line }
  | none => do
      let inserted ← Transaction.orRefuse (rows.insert? line) (.database "stocktakeline_pkey")
      .write fun db => { db with stocktakeLines := inserted }

/-- Store a new count. -/
def insertStocktake (count : Stocktake) : PurchasingCall Unit := do
  let rows ← Transaction.read Purchasing.stocktakes
  .require (∀ other ∈ rows.rows, count.corrects ≠ none → other.corrects ≠ count.corrects)
    (.database "corrects_id")
  let inserted ← Transaction.orRefuse (rows.insert? count) (.database "stocktake_pkey")
  .write fun db => { db with stocktakes := inserted }

/-- Start a dated observation without moving material. -/
def createStocktake (stock : Option ℕ) : PurchasingCall Unit := do
  let configured ← Transaction.read Purchasing.adjustmentJob
  let job ← Transaction.orRefuse configured
    (.invalidInput "Set up the stocktake adjustment job before starting a count.")
  let id ← newId
  insertStocktake ⟨id, job, false, 0, none⟩
  match stock with
  | none => pure ()
  | some stock => do
      let stock ← theStock stock
      requireWorkshopStock stock
      let lineId ← newId
      storeLine (snapshotLine lineId id stock)

/-- A strong ETag of a count: the count and its revision. -/
abbrev StocktakeETag := ℕ × ℕ

local instance : LawfulBEq StocktakeETag := inferInstance

/-- Refuse unless the header names this count at `version`. -/
def requireRevision (count : Stocktake) (ifMatch : List StocktakeETag) (version : ℕ)
    (message : String) : PurchasingCall Unit :=
  .require ((count.id, version) ∈ ifMatch) (.preconditionFailed message)

def requireDraft (count : Stocktake) (ifMatch : List StocktakeETag) : PurchasingCall Unit := do
  requireRevision count ifMatch count.version
    "This draft changed in another session. Reload before saving."
  .require (count.posted = false)
    (.invalidInput "Posted counts are read-only. Create a linked correction.")

structure StocktakeLineWrite where
  id : ℕ
  stockId : Option ℕ
  description : String
  location : Option String
  expectedVersion : ℕ
  expectedQuantity : ℚ
  countedQuantity : Option ℚ
  unitCost : ℚ
  reason : Option String

/-- The observation agrees with the identity as it stands; newly found material starts from
nothing. -/
def checkObservation (data : StocktakeLineWrite) : PurchasingCall Unit :=
  match data.stockId with
  | some stock => do
      let stock ← theStock stock
      requireWorkshopStock stock
      .require (stock.inventoryVersion = data.expectedVersion ∧
          stock.quantity = data.expectedQuantity)
        (.conflict "%(description)s: stock changed. Review and recount this line.")
      .require (stock.unitCost = data.unitCost)
        (.invalidInput "%(description)s: use the recorded unit cost.")
  | none =>
      .require (data.expectedQuantity = 0 ∧ data.expectedVersion = 0)
        (.invalidInput "Newly found material must start from zero recorded stock.")

def saveLine (count : Stocktake) (data : StocktakeLineWrite) : PurchasingCall Unit := do
  checkObservation data
  let rows ← Transaction.read Purchasing.stocktakeLines
  .require (∀ line ∈ rows.rows, line.id = data.id → line.stocktake = count.id)
    (.invalidInput "The count line belongs to another stocktake.")
  let expected ← column 11 3 data.expectedQuantity
  let counted ← column? 11 3 data.countedQuantity
  let unitCost ← column 10 2 data.unitCost
  storeLine
    { id := data.id
      stocktake := count.id
      stock := data.stockId
      description := data.description
      location := data.location
      expectedQuantity := expected
      expectedVersion := data.expectedVersion
      countedQuantity := counted
      unitCost := unitCost
      reason := data.reason }

/-- Save a complete draft while rejecting stale observations. -/
def saveStocktake (countId : ℕ) (lines : List StocktakeLineWrite)
    (ifMatch : List StocktakeETag) : PurchasingCall Unit := do
  let count ← theStocktake countId
  requireDraft count ifMatch
  .require ((lines.map StocktakeLineWrite.id).Nodup ∧
      (lines.filterMap StocktakeLineWrite.stockId).Nodup)
    (.invalidInput "Count each stock item once.")
  lines.forM (saveLine count)
  let rows ← Transaction.read Purchasing.stocktakeLines
  (rows.rows.filter fun line =>
      line.stocktake = count.id && !((lines.map StocktakeLineWrite.id).contains line.id)).forM
    fun line => .write fun db => { db with stocktakeLines := db.stocktakeLines.erase line.id }
  .write fun db => { db with stocktakes := db.stocktakes.put { count with version := count.version + 1 } }

/-- The identity a posted line moves: newly found material gets one, empty, first. -/
def postedStock (line : StocktakeLine) : PurchasingCall ℕ :=
  match line.stock with
  | some stock => pure stock
  | none => do
      let holding ← stockHoldingJob
      let id ← newId
      insertStock
        { id := id
          job := some holding.id
          itemCode := none
          description := line.description
          quantity := 0
          inventoryVersion := 0
          unitCost := line.unitCost
          unitRevenue := none
          source := .manual
          sourcePurchaseOrderLine := none
          location := line.location
          metalType := none
          alloy := none
          specifics := none
          isActive := true }
      .write fun db => { db with
        stocktakeLines := db.stocktakeLines.put { line with stock := some id } }
      pure id

/-- The cost line and the movement of one counted difference. -/
def postDifference (line : StocktakeLine) (difference : ℚ) (staff : ℕ) (job : Job) :
    PurchasingCall Unit := do
  let reason ← Transaction.orRefuse line.reason
    (.invalidInput "%(description)s: choose a reason for the difference.")
  let stock ← postedStock line
  let costSet ← ensureActualCostSet job
  let id ← newId
  let today ← Transaction.read Purchasing.today
  let cost := materialLine id costSet (some line.description) (-difference) line.unitCost 0 today
    .stocktake
  onCosting (cost.save true none)
  let _ ← moveStock stock difference
    { kind := .stocktake
      reason := reason
      actor := some staff
      counterpartJob := some job.id
      costLine := some cost
      stocktakeLine := some line.id }
  pure ()

/-- `_post_line`: a line without a count or without a difference moves nothing. -/
def postLine (line : StocktakeLine) (staff job : ℕ) : PurchasingCall Unit :=
  match line.countedQuantity with
  | none => pure ()
  | some counted =>
      if counted - line.expectedQuantity = 0 then pure ()
      else do
        let job ← theJob job
        postDifference line (counted - line.expectedQuantity) staff job

/-- A counted line is posted against the identity it was counted on, unchanged since. -/
def checkAndPostLine (staff job : ℕ) (line : StocktakeLine) : PurchasingCall Unit := do
  (match line.stock with
    | some stock => do
        let stock ← theStock stock
        requireWorkshopStock stock
        .require (stock.inventoryVersion = line.expectedVersion ∧
            stock.quantity = line.expectedQuantity ∧ stock.unitCost = line.unitCost)
          (.conflict "%(description)s: stock changed. Review and recount this line.")
    | none => pure ())
  postLine line staff job

/-- Post all counted differences, exactly once: a repeat answers the posted count. -/
def postStocktake (countId : ℕ) (ifMatch : List StocktakeETag) (staff : ℕ) :
    PurchasingCall Unit := do
  let count ← theStocktake countId
  if count.posted then
    requireRevision count ifMatch (count.version - 1)
      ("This stocktake has already been posted, and not from this screen's copy. " ++
        "Reload the stocktake to see what was posted.")
  else do
    requireDraft count ifMatch
    let rows ← Transaction.read Purchasing.stocktakeLines
    let counted := rows.rows.filter fun line =>
      line.stocktake = count.id && line.countedQuantity.isSome
    .require (counted ≠ [])
      (.invalidInput "Enter at least one physical count before posting.")
    let job ← theJob count.adjustmentJob
    .require (job.shopJob = true)
      (.invalidInput "The stocktake adjustment job must remain non-billable.")
    counted.forM (checkAndPostLine staff job.id)
    .write fun db => { db with
      stocktakes := db.stocktakes.put { count with posted := true, version := count.version + 1 } }

/-- Create a linked recount preserving the earlier posting. -/
def correctStocktake (countId : ℕ) (ifMatch : List StocktakeETag) : PurchasingCall Unit := do
  let original ← theStocktake countId
  requireRevision original ifMatch original.version
    "Reload the posted count before creating its correction."
  .require (original.posted = true)
    (.invalidInput "Edit this draft directly; it has not been posted.")
  let db ← Transaction.read (fun db => db)
  .when (∀ other ∈ db.stocktakes.rows, other.corrects ≠ some original.id) do
    let id ← newId
    insertStocktake ⟨id, original.adjustmentJob, false, 0, some original.id⟩
    (db.stocktakeLines.rows.filter fun line => line.stocktake = original.id).forM fun line =>
      match line.stock with
      | none => pure ()
      | some stock => do
          let stock ← theStock stock
          let lineId ← newId
          storeLine (snapshotLine lineId id stock)

end Purchasing

end Docketworks
