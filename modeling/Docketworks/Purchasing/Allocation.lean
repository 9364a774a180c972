import Docketworks.Purchasing.StockMovement

/-!
# Allocations of received quantities

`apps/purchasing/services/allocation_service.py`: a received quantity goes to stock or, through
stock, to a job; an allocation can be reversed once; and the order's status follows its lines.

* `createStockFromAllocation` — an empty identity, then a delivery movement for the quantity.
* `createCostlineFromAllocation` — a job's material line, the identity and its delivery, and the
  issue of the whole quantity to the job.
* `reverseAllocation` — the job's issue returned if there is one, the quantity taken off the order
  line, and a movement that takes it off the balance.
* `recomputePurchaseOrderStatus` — the status the received totals say, and a new stamp.
-/

namespace Docketworks

open Library Library.Transaction

namespace Purchasing

/-! ## Rows of an order -/

def theOrder (id : ℕ) : PurchasingCall PurchaseOrder := do
  let found ← Transaction.read (fun db => db.orders.find? id)
  .orRefuse found (.doesNotExist "PurchaseOrder")

def theOrderLine (id order : ℕ) : PurchasingCall PurchaseOrderLine := do
  let found ← Transaction.read (fun db => db.orderLines.find? id)
  .orRefuse (found.filter fun line => line.purchaseOrder = order)
    (.doesNotExist "PurchaseOrderLine")

/-- A strong ETag of an order: the order and the stamp of its version. -/
abbrev PurchaseOrderETag := ℕ × ℕ

def purchaseOrderEtag (po : PurchaseOrder) : PurchaseOrderETag := (po.id, po.updatedAt)

/-- `require_current_etag`: the header's tags name this version. -/
def requireCurrentEtag (po : PurchaseOrder) (ifMatch : List PurchaseOrderETag) :
    PurchasingCall Unit :=
  .require (purchaseOrderEtag po ∈ ifMatch)
    (.preconditionFailed "Purchase order modified since it was fetched.")

/-- Derive the status from the line totals and stamp the order, whether it moved or not. -/
def recomputePurchaseOrderStatus (po : PurchaseOrder) : PurchasingCall PurchaseOrder := do
  let rows ← Transaction.read Purchasing.orderLines
  let lines := rows.rows.filter fun line => line.purchaseOrder = po.id
  let newStatus : PurchaseOrderStatus :=
    if ¬(∃ line ∈ lines, 0 < line.receivedQuantity) then
      if po.status = .deleted then .deleted else .submitted
    else if ∃ line ∈ lines, line.receivedQuantity < line.quantity then .partiallyReceived
    else .fullyReceived
  let stamp ← newId
  let po := if newStatus ≠ po.status
    then { po with status := newStatus, xeroPushDue := true, updatedAt := stamp }
    else { po with updatedAt := stamp }
  .write fun db => { db with orders := db.orders.put po }
  pure po

/-! ## Materialising -/

structure AllocationMetadata where
  metalType : Option String
  alloy : Option String
  specifics : Option String
  location : Option String
deriving DecidableEq, Repr

/-- Absent inherits the line's value, blank clears, anything else is stored. -/
def AllocationMetadata.pick (payload : List (String × String)) (key : String)
    (lineValue : Option String) : Option String :=
  let orNone := fun (value : Option String) => value.filter (· ≠ "")
  match payload.find? (fun entry => entry.1 = key) with
  | none => orNone lineValue
  | some entry => orNone (some entry.2)

def AllocationMetadata.resolve (payload : List (String × String)) (line : PurchaseOrderLine) :
    AllocationMetadata where
  metalType := pick payload "metal_type" line.metalType
  alloy := pick payload "alloy" line.alloy
  specifics := pick payload "specifics" line.specifics
  location := pick payload "location" line.location

def AllocationMetadata.fromLine (line : PurchaseOrderLine) : AllocationMetadata :=
  resolve [] line

/-- The validated destination, quantity and material details of a receipt. -/
structure MaterialAllocation where
  job : Job
  quantity : ℚ
  materialMetadata : AllocationMetadata
  retailRatePct : ℚ

/-- A markup percentage as a rate to four places. -/
def retailPctToRate (pct : ℚ) : ℚ := roundHalfEven 4 (pct / 100)

/-- The company's materials markup, as a percentage. -/
def defaultRetailRatePct : PurchasingCall ℚ := do
  let markup ← Transaction.read Purchasing.materialsMarkup
  pure (markup * 100)

/-- The job's actual cost set, created as revision 1 when it is missing. -/
def ensureActualCostSet (job : Job) : PurchasingCall ℕ :=
  match job.latestActual with
  | some existing => pure existing
  | none => do
      let id ← newId
      onCosting (CostSet.create ⟨id, job.id, .actual, 1, ⟨0, 0, 0⟩⟩)
      onCosting (.write fun db => { db with jobs := db.jobs.put { job with latestActual := some id } })
      pure id

/-- Materialise a received quantity as a stock identity and a receipt movement. -/
def createStockFromAllocation (line : PurchaseOrderLine) (allocation : MaterialAllocation)
    (staff : ℕ) : PurchasingCall ℕ := do
  let unitCost ← Transaction.orRefuse line.unitCost (.value
    ("Price not confirmed for line %(line_id)s (%(description)s); " ++
      "cannot create a stock allocation."))
  .require (0 < unitCost)
    (.value "Unit cost must be set and greater than zero to set retail rate")
  let id ← newId
  insertStock
    { id := id
      job := some allocation.job.id
      itemCode := none
      description := line.description
      quantity := 0
      inventoryVersion := 0
      unitCost := unitCost
      unitRevenue := some (unitCost * (1 + retailPctToRate allocation.retailRatePct))
      source := .purchaseOrder
      sourcePurchaseOrderLine := some line.id
      location := allocation.materialMetadata.location
      metalType := allocation.materialMetadata.metalType
      alloy := allocation.materialMetadata.alloy
      specifics := allocation.materialMetadata.specifics
      isActive := true }
  let po ← theOrder line.purchaseOrder
  let _ ← moveStock id allocation.quantity
    { kind := .delivery
      reason := "Received on PO " ++ po.poNumber
      actor := some staff }
  pure id

/-- Materialise a received quantity as a material line of a job: the job is charged, and the
quantity passes through an identity of the stock-holding job. -/
def createCostlineFromAllocation (po : PurchaseOrder) (line : PurchaseOrderLine) (job : Job)
    (qty retailRatePct : ℚ) (staff : ℕ) : PurchasingCall ℕ := do
  let unitCost ← Transaction.orRefuse line.unitCost (.value
    ("Price not confirmed for line %(line_id)s (%(description)s); " ++
      "cannot create a job allocation."))
  let rate := retailPctToRate retailRatePct
  let unitRevenue := if job.shopJob then 0 else roundHalfEven 2 (unitCost * (1 + rate))
  let costSet ← ensureActualCostSet job
  let id ← newId
  let today ← Transaction.read Purchasing.today
  let costLine :=
    { materialLine id costSet (some line.description) qty unitCost unitRevenue today .stock with
      extRefs := [("purchase_order_line_id", .string (toString line.id)),
        ("purchase_order_id", .string (toString po.id))]
      payload := [("source", .string "delivery_receipt"), ("retail_rate", .number rate),
        ("po_number", .string po.poNumber)] }
  onCosting (costLine.save true none)
  let holding ← stockHoldingJob
  let stock ← createStockFromAllocation line
    ⟨holding, qty, AllocationMetadata.fromLine line, retailRatePct⟩ staff
  let _ ← moveStock stock (-qty)
    { kind := .issue
      reason := "Receipt allocated to job from PO " ++ po.poNumber
      actor := some staff
      counterpartJob := some job.id
      costLine := some costLine }
  pure id

/-! ## Reversing -/

/-- A handle of an allocation: the stock it went to, or the job line it was charged on. -/
inductive AllocationHandle where
  | stock (id : ℕ)
  | job (costLine : ℕ)
deriving DecidableEq, Repr

/-- Whether a purchase-order line belongs to the order. -/
def isLineOf (lines : Table PurchaseOrderLine.id) (line? : Option ℕ) (po : ℕ) : Bool :=
  (line?.bind lines.find?).any fun line => line.purchaseOrder = po

def getStockOrError (po stock : ℕ) : PurchasingCall Stock := do
  let db ← Transaction.read (fun db => db)
  .orRefuse ((db.stock.find? stock).filter fun s =>
      s.source = .purchaseOrder && isLineOf db.orderLines s.sourcePurchaseOrderLine po)
    (.value "Stock allocation %(stock_id)s not found or not from PO %(po_id)s")

/-- The text of a string member. -/
def textOf (members : Json.Members) (key : String) : Option String :=
  match members.get? key with
  | some (.string text) => some text
  | _ => none

/-- `_get_costline_or_error`: the line, the movement that issued it and the stock it came from. -/
def getCostlineOrError (po costLine : ℕ) : PurchasingCall (CostLine × StockMovement × Stock) := do
  let db ← Transaction.read (fun db => db)
  .orRefuse (do
      let line ← db.costing.lines.find? costLine
      let movement ← db.movements.rows.find? (fun m => m.costLine = some line.id)
      let stock ← db.stock.find? movement.stock
      if isReturnableIssue movement && isLineOf db.orderLines stock.sourcePurchaseOrderLine po &&
          textOf line.extRefs "purchase_order_id" = some (toString po)
        then some (line, movement, stock) else none)
    (.value "Job allocation %(cost_line_id)s not found on PO %(po_id)s")

/-- The stock behind a handle, and the job line with its issue if it is a job's. -/
def resolveHandle (po : ℕ) : AllocationHandle → PurchasingCall (Stock × Option (CostLine × StockMovement))
  | .stock id => do
      let stock ← getStockOrError po id
      pure (stock, none)
  | .job costLine => do
      let (line, movement, stock) ← getCostlineOrError po costLine
      pure (stock, some (line, movement))

/-- The one movement that received an identity. -/
def receiptOf (stock : ℕ) : PurchasingCall StockMovement := do
  let rows ← Transaction.read Purchasing.movements
  match rows.rows.filter (fun m =>
      m.stock = stock && (m.kind = .delivery || m.kind = .deliveryOpening)) with
  | [receipt] => pure receipt
  | [] => .refuse (.doesNotExist "StockMovement")
  | _ => .refuse (.database "StockMovement.MultipleObjectsReturned")

/-- `_decrement_received`: the stored total is lowered where it covers the quantity. -/
def decrementReceived (poLine : ℕ) (quantity : ℚ) : PurchasingCall Unit := do
  let found ← Transaction.read (fun db => db.orderLines.find? poLine)
  let stored ← Transaction.orRefuse (found.filter fun line => quantity ≤ line.receivedQuantity)
    (.value "The allocation exceeds the recorded received quantity.")
  let received ← column 10 2 (stored.receivedQuantity - quantity)
  .write fun db => { db with
    orderLines := db.orderLines.put { stored with receivedQuantity := received } }

/-- A recorded reversal, or a repeat that made no changes. -/
structure ReversalResult where
  alreadyReversed : Bool
  reversedQuantity : ℚ
deriving DecidableEq, Repr

/-- Reverse a receipt once, retaining its stock and any original job charge. -/
def reverseAllocation (poId lineId : ℕ) (allocation : AllocationHandle)
    (ifMatch : List PurchaseOrderETag) (staff : ℕ) : PurchasingCall ReversalResult := do
  let found ← Transaction.read (fun db => db.orders.find? poId)
  let po ← Transaction.orRefuse found (.value "Purchase Order %(po_id)s not found")
  let (stock, charge?) ← resolveHandle po.id allocation
  .require (stock.sourcePurchaseOrderLine = some lineId)
    (.value "The allocation does not belong to this purchase order line.")
  let poLine ← theOrderLine lineId po.id
  let receipt ← receiptOf stock.id
  let rows ← Transaction.read Purchasing.movements
  if ∃ m ∈ rows.rows, m.reverses = some receipt.id then
    pure ⟨true, 0⟩
  else do
    let quantity ← deliveryQuantity receipt
    requireCurrentEtag po ifMatch
    (match charge? with
      | some (_, issue) => do
          let _ ← reverseIssue issue.id staff "Reverse job receipt allocation"
          pure ()
      | none => pure ())
    decrementReceived poLine.id quantity
    let _ ← moveStock stock.id (-quantity)
      { kind := .deliveryReversal
        reason := "Receipt on PO " ++ po.poNumber ++ " reversed"
        actor := some staff
        reverses := some receipt.id }
    let _ ← recomputePurchaseOrderStatus po
    pure ⟨false, quantity⟩

end Purchasing

end Docketworks
