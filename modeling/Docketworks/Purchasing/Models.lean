import Docketworks.Core.Text
import Docketworks.Job.Costing

/-!
# Purchasing and inventory rows

The tables of `apps/purchasing/models.py` and the state the purchasing services work on.

* `Stock`, `StockMovement` — an inventory identity with its stored balance, and the ledger of
  balance movements.
* `PurchaseOrder`, `PurchaseOrderLine` — an order and its lines with what has been received.
* `Stocktake`, `StocktakeLine` — a count and its observations.
* `Purchasing` — all of it, over the costing tables of `Docketworks.Job.Costing`.
* `column` — what assigning a decimal column does: it rounds, and refuses an overflow.

**Design.**  New rows take their key from a counter that stands for fresh UUIDs.  A movement's
place in its table is its place in the ledger: rows are added at the end and never reordered.
`updatedAt` is a stamp drawn from the same counter, so that a stamp names one version of one row.
-/

namespace Docketworks

open Library

/-! ## Inventory -/

/-- Where a stock identity came from. -/
inductive StockSource where
  | purchaseOrder
  | splitFromStock
  | manual
  | productCatalog
deriving DecidableEq, Repr

/-- An inventory identity. -/
structure Stock where
  id : ℕ
  job : Option ℕ
  itemCode : Option String
  description : String
  quantity : ℚ
  inventoryVersion : ℕ
  unitCost : ℚ
  unitRevenue : Option ℚ
  source : StockSource
  sourcePurchaseOrderLine : Option ℕ
  location : Option String
  metalType : Option String
  alloy : Option String
  specifics : Option String
  isActive : Bool
deriving DecidableEq, Repr

/-- Live postings and the three historical cutover observations. -/
inductive StockMovementKind where
  | opening
  | jobOpening
  | delivery
  | deliveryOpening
  | deliveryReversal
  | issue
  | return
  | stocktake
deriving DecidableEq, Repr

def StockMovementKind.needsJob : StockMovementKind → Bool
  | .issue | .return | .stocktake => true
  | _ => false

/-- The kinds only the cutover migration records. -/
def StockMovementKind.isOpening : StockMovementKind → Bool
  | .opening | .jobOpening | .deliveryOpening => true
  | _ => false

/-- The kinds a movement may have without a job at the other end. -/
def StockMovementKind.standsAlone : StockMovementKind → Bool
  | .opening | .delivery | .deliveryOpening | .deliveryReversal => true
  | _ => false

/-- A signed movement of one identity's balance. -/
structure StockMovement where
  id : ℕ
  stock : ℕ
  quantityChange : ℚ
  quantityBefore : ℚ
  quantityAfter : ℚ
  openingQuantity : Option ℚ
  unitCost : ℚ
  kind : StockMovementKind
  counterpartJob : Option ℕ
  costLine : Option ℕ
  stocktakeLine : Option ℕ
  reverses : Option ℕ
  actor : Option ℕ
  reason : String
deriving DecidableEq, Repr

/-! ## Orders -/

inductive PurchaseOrderStatus where
  | draft
  | submitted
  | partiallyReceived
  | fullyReceived
  | deleted
deriving DecidableEq, Repr

structure PurchaseOrder where
  id : ℕ
  poNumber : String
  status : PurchaseOrderStatus
  xeroPushDue : Bool
  updatedAt : ℕ
deriving DecidableEq, Repr

structure PurchaseOrderLine where
  id : ℕ
  purchaseOrder : ℕ
  job : Option ℕ
  description : String
  quantity : ℚ
  unitCost : Option ℚ
  priceTbc : Bool
  itemCode : Option String
  receivedQuantity : ℚ
  metalType : Option String
  alloy : Option String
  specifics : Option String
  location : Option String
  dimensions : Option String
deriving DecidableEq, Repr

/-! ## Counts -/

/-- A dated observation of unassigned workshop material. -/
structure Stocktake where
  id : ℕ
  adjustmentJob : ℕ
  posted : Bool
  version : ℕ
  corrects : Option ℕ
deriving DecidableEq, Repr

/-- One observed identity, or newly found material that has none yet. -/
structure StocktakeLine where
  id : ℕ
  stocktake : ℕ
  stock : Option ℕ
  description : String
  location : Option String
  expectedQuantity : ℚ
  expectedVersion : ℕ
  countedQuantity : Option ℚ
  unitCost : ℚ
  reason : Option String
deriving DecidableEq, Repr

/-! ## The state -/

/-- The tables the purchasing services read and write. -/
structure Purchasing where
  costing : Costing
  stock : Table Stock.id
  movements : Table StockMovement.id
  orders : Table PurchaseOrder.id
  orderLines : Table PurchaseOrderLine.id
  stocktakes : Table Stocktake.id
  stocktakeLines : Table StocktakeLine.id
  /-- The job of the stocktake configuration, once it is set up. -/
  adjustmentJob : Option ℕ
  materialsMarkup : ℚ
  today : ℤ
  fresh : ℕ

abbrev PurchasingCall := Transaction Purchasing Refusal

namespace Purchasing

def costingPart : Transaction.Part Purchasing Costing where
  get := Purchasing.costing
  set costing db := { db with costing := costing }
  get_set _ _ := rfl

/-- A call on the costing tables. -/
def onCosting {α : Type} (x : CostingCall α) : PurchasingCall α :=
  .on costingPart x

/-- A fresh UUID, or a stamp no row carries yet. -/
def newId : PurchasingCall ℕ := do
  let id ← Transaction.read Purchasing.fresh
  .write fun db => { db with fresh := db.fresh + 1 }
  pure id

/-- Assign a column of `digits` digits, `places` of them after the point: the value is rounded,
and one too large is refused. -/
def column (digits places : ℕ) (q : ℚ) : PurchasingCall ℚ := do
  .require (|roundHalfAway places q| < 10 ^ (digits - places)) (.database "numeric field overflow")
  pure (roundHalfAway places q)

/-- Assign a nullable column. -/
def column? (digits places : ℕ) : Option ℚ → PurchasingCall (Option ℚ)
  | some q => do
      let q ← column digits places q
      pure (some q)
  | none => pure none

/-! ## Reading a row -/

def theJob (id : ℕ) : PurchasingCall Job := do
  let found ← Transaction.read (fun db => db.costing.jobs.find? id)
  .orRefuse found (.doesNotExist "Job")

def theCostSet (id : ℕ) : PurchasingCall CostSet := do
  let found ← Transaction.read (fun db => db.costing.costSets.find? id)
  .orRefuse found (.doesNotExist "CostSet")

def theStock (id : ℕ) : PurchasingCall Stock := do
  let found ← Transaction.read (fun db => db.stock.find? id)
  .orRefuse found (.doesNotExist "Stock")

def theMovement (id : ℕ) : PurchasingCall StockMovement := do
  let found ← Transaction.read (fun db => db.movements.find? id)
  .orRefuse found (.doesNotExist "StockMovement")

def theCostLine (id : ℕ) : PurchasingCall CostLine := do
  let found ← Transaction.read (fun db => db.costing.lines.find? id)
  .orRefuse found (.doesNotExist "CostLine")

/-- `Stock.get_stock_holding_job`: the job whose name holds general stock. -/
def stockHoldingJob : PurchasingCall Job := do
  let found ← Transaction.read
    (fun db => db.costing.jobs.rows.find? (fun job => job.name = "Worker Admin"))
  .orRefuse found (.doesNotExist "Job")

/-! ## Writing a stock row -/

/-- The checks of `Stock.save` and the columns it assigns beside the balance: the unit cost is
not negative, and an item code names one identity. -/
def stockColumns (stock : Stock) : PurchasingCall Stock := do
  .require (0 ≤ stock.unitCost) (.value "Unit cost cannot be negative")
  let unitCost ← column 10 2 stock.unitCost
  let unitRevenue ← column? 10 2 stock.unitRevenue
  let rows ← Transaction.read Purchasing.stock
  .require (∀ other ∈ rows.rows, other.id ≠ stock.id → stock.itemCode ≠ none →
    other.itemCode ≠ stock.itemCode) (.database "item_code")
  pure { stock with unitCost := unitCost, unitRevenue := unitRevenue }

/-- `stock.save()` on a stored identity, its balance as it was read. -/
def saveStock (stock : Stock) : PurchasingCall Unit := do
  let row ← stockColumns stock
  .write fun db => { db with stock := db.stock.put row }

/-- `stock.save()` on a new identity; the order line it names is a foreign key. -/
def insertStock (stock : Stock) : PurchasingCall Unit := do
  let row ← stockColumns stock
  let db ← Transaction.read (fun db => db)
  .require (∀ line ∈ stock.sourcePurchaseOrderLine, (db.orderLines.find? line).isSome)
    (.database "source_purchase_order_line_id")
  let inserted ← Transaction.orRefuse (db.stock.insert? row) (.database "purchasing_stock_pkey")
  .write fun db => { db with stock := inserted }

end Purchasing

end Docketworks
