import Docketworks.Purchasing.DeliveryReceipt

/-!
# Writing purchase orders

`apps/purchasing/services/purchase_order_service.py`: creating an order with its lines, and
updating one under its ETag.  A line edit writes the supplied fields and is refused where the
ordered quantity would fall below what has been received; the received total itself is not a
field a client writes.

**Design.**  The header fields no modelled function reads (supplier, pickup address, reference,
dates) are left out; the status and the lines are here.
-/

namespace Docketworks

open Library Library.Transaction

namespace Purchasing

/-- The line fields a payload may carry: a field that is absent is not written. -/
structure PurchaseOrderLineWriteData where
  id : Option ℕ := none
  jobId : Option (Option ℕ) := none
  description : Option String := none
  quantity : Option ℚ := none
  unitCost : Option (Option ℚ) := none
  priceTbc : Option Bool := none
  itemCode : Option (Option String) := none
  metalType : Option (Option String) := none
  alloy : Option (Option String) := none
  specifics : Option (Option String) := none
  location : Option (Option String) := none
  dimensions : Option (Option String) := none

/-- The order fields an update payload may carry. -/
structure PurchaseOrderUpdateData where
  status : Option PurchaseOrderStatus := none
  linesToDelete : List ℕ := []
  lines : Option (List PurchaseOrderLineWriteData) := none

/-- Amend the order without contradicting its net supplier receipts. -/
def validateOrderedQuantity (line : PurchaseOrderLine) (quantity : ℚ) : PurchasingCall Unit :=
  .require (line.receivedQuantity ≤ quantity) (.invalidInput
    ("%(description)s: ordered quantity %(quantity)s cannot be below " ++
      "net received quantity %(received)s. Reverse the receipt first."))

def requireAStockItemCode (data : PurchaseOrderLineWriteData) : PurchasingCall Unit := do
  let rows ← Transaction.read Purchasing.stock
  .require (data.itemCode.join = none ∨ ∃ s ∈ rows.rows, s.itemCode = data.itemCode.join)
    (.invalidInput ("Item code '%(item_code)s' is not a stock item. Pick a stock item, or leave " ++
      "the code off and describe the line."))

/-- The supplied fields on a line; a price to be confirmed has no unit cost. -/
def withLineFields (line : PurchaseOrderLine) (data : PurchaseOrderLineWriteData) :
    PurchaseOrderLine :=
  let priceTbc := data.priceTbc.getD line.priceTbc
  { line with
    job := data.jobId.getD line.job
    description := data.description.getD line.description
    quantity := data.quantity.getD line.quantity
    unitCost := if priceTbc then none else data.unitCost.getD line.unitCost
    priceTbc := priceTbc
    itemCode := data.itemCode.getD line.itemCode
    metalType := data.metalType.getD line.metalType
    alloy := data.alloy.getD line.alloy
    specifics := data.specifics.getD line.specifics
    location := data.location.getD line.location
    dimensions := data.dimensions.getD line.dimensions }

def applyLineFields (line : PurchaseOrderLine) (data : PurchaseOrderLineWriteData) :
    PurchasingCall PurchaseOrderLine := do
  requireAStockItemCode data
  let line := withLineFields line data
  validateOrderedQuantity line line.quantity
  pure line

/-- The decimal columns of a saved line; the received total is stored as it was read. -/
def lineColumns (line : PurchaseOrderLine) : PurchasingCall PurchaseOrderLine := do
  let quantity ← column 10 2 line.quantity
  let unitCost ← column? 10 2 line.unitCost
  pure { line with quantity := quantity, unitCost := unitCost }

/-- A line that carries an id is updated, any other created. -/
def writeLine (po : PurchaseOrder) (data : PurchaseOrderLineWriteData) : PurchasingCall Unit :=
  match data.id with
  | none => do
      let id ← newId
      let line ← applyLineFields
        { id := id
          purchaseOrder := po.id
          job := none
          description := ""
          quantity := 0
          unitCost := none
          priceTbc := false
          itemCode := none
          receivedQuantity := 0
          metalType := none
          alloy := none
          specifics := none
          location := none
          dimensions := none } data
      let row ← lineColumns line
      let rows ← Transaction.read Purchasing.orderLines
      let inserted ← Transaction.orRefuse (rows.insert? row) (.database "purchaseorderline_pkey")
      .write fun db => { db with orderLines := inserted }
  | some lineId => do
      let found ← Transaction.read (fun db => db.orderLines.find? lineId)
      let stored ← Transaction.orRefuse (found.filter fun line => line.purchaseOrder = po.id)
        (.validation "Line ID %(line_id)s not found on PO %(po_number)s")
      let line ← applyLineFields stored data
      let row ← lineColumns line
      .write fun db => { db with orderLines := db.orderLines.put row }

def writeLines (po : PurchaseOrder) (lines : List PurchaseOrderLineWriteData) :
    PurchasingCall Unit :=
  lines.forM (writeLine po)

/-- `po.save()`: a new stamp with every save. -/
def saveOrder (po : PurchaseOrder) : PurchasingCall PurchaseOrder := do
  let stamp ← newId
  let po := { po with updatedAt := stamp }
  .write fun db => { db with orders := db.orders.put po }
  pure po

def createPurchaseOrder (poNumber : String) (lines : List PurchaseOrderLineWriteData) :
    PurchasingCall Unit := do
  let rows ← Transaction.read Purchasing.orders
  .require (∀ other ∈ rows.rows, other.poNumber ≠ poNumber) (.database "po_number")
  let id ← newId
  let stamp ← newId
  let po : PurchaseOrder := ⟨id, poNumber, .draft, false, stamp⟩
  let inserted ← Transaction.orRefuse (rows.insert? po) (.database "purchaseorder_pkey")
  .write fun db => { db with orders := inserted }
  writeLines po (lines.map fun line => { line with id := none })

/-- Delete the named lines of the order; one that generated stock is kept. -/
def deleteLines (po : PurchaseOrder) (ids : List ℕ) : PurchasingCall Unit := do
  let db ← Transaction.read (fun db => db)
  .require (∀ s ∈ db.stock.rows, ∀ line ∈ db.orderLines.rows, line.id ∈ ids →
      line.purchaseOrder = po.id → s.sourcePurchaseOrderLine ≠ some line.id)
    (.validation ("This purchase order line can't be deleted: goods received on it are " ++
      "recorded on jobs or in stock, and DocketWorks keeps that record. See " ++
      "where the received goods went."))
  (db.orderLines.rows.filter fun line => line.id ∈ ids && line.purchaseOrder = po.id).forM
    fun line => .write fun db => { db with orderLines := db.orderLines.erase line.id }

/-- Settle the status after the lines and the header are written: `fully_received` receives what
is outstanding, and a line edit on a received order derives the status again. -/
def settleStatus (mirror : Mirror) (po : PurchaseOrder) (data : PurchaseOrderUpdateData)
    (staff : ℕ) : PurchasingCall Unit := do
  let rows ← Transaction.read Purchasing.orderLines
  if data.status = some .fullyReceived then
    receiveOutstandingOrder mirror po.id staff [purchaseOrderEtag po]
  else
    .when (data.lines.isSome ∧
        ∃ line ∈ rows.rows, line.purchaseOrder = po.id ∧ 0 < line.receivedQuantity) do
      let _ ← recomputePurchaseOrderStatus po
      pure ()

def updatePurchaseOrder (mirror : Mirror) (poId : ℕ) (data : PurchaseOrderUpdateData) (staff : ℕ)
    (ifMatch : List PurchaseOrderETag) : PurchasingCall Unit := do
  let po ← theOrder poId
  requireCurrentEtag po ifMatch
  deleteLines po data.linesToDelete
  writeLines po (data.lines.getD [])
  let saved ← saveOrder { po with status := data.status.getD po.status }
  settleStatus mirror saved data staff
  let after ← theOrder poId
  .when (after.status ≠ po.status) do
    let due := { after with xeroPushDue := true }
    .write fun db => { db with orders := db.orders.put due }
    sendStateChange mirror due

end Purchasing

end Docketworks
