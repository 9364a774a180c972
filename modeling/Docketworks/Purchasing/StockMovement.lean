import Docketworks.Purchasing.Models

/-!
# The single writer of inventory balances

`apps/purchasing/services/stock_movement_service.py`: a balance changes by a movement, and the
movement and the balance are written together.

* `moveStock` — lock the identity, record the movement, project it onto the balance.
* `deliveryQuantity` — what a delivery supplied, from a posting or a cutover observation.
* `reverseIssue` — return a complete issue with a linked opposite cost.
-/

namespace Docketworks

open Library Library.Transaction

namespace Purchasing

/-- Provenance supplied by the workflow that owns the movement. -/
structure MovementContext where
  kind : StockMovementKind
  reason : String
  actor : Option ℕ := none
  counterpartJob : Option ℕ := none
  costLine : Option CostLine := none
  stocktakeLine : Option ℕ := none
  reverses : Option ℕ := none

/-- What `move_stock` refuses before it writes. -/
def checkMovement (change : ℚ) (context : MovementContext) : PurchasingCall Unit := do
  .require (roundHalfEven 3 change = change)
    (.invalidInput "Stock quantities support at most three decimal places.")
  .require (pythonStrip context.reason ≠ "") (.invalidInput "A stock movement requires a reason.")
  .when context.kind.needsJob do
    .require (context.counterpartJob ≠ none)
      (.invalidInput "Pick the job this stock is going to or coming back from.")
    let mismatch := Refusal.invalidInput "The movement requires its matching job cost quantity."
    let cost ← Transaction.orRefuse context.costLine mismatch
    .require (cost.quantity = -change) mismatch
    let costSet ← theCostSet cost.costSet
    .require (some costSet.job = context.counterpartJob ∧ costSet.kind = .actual)
      (.invalidInput "The movement cost must belong to its counterpart job's actuals.")

/-- The columns a movement is stored in, under a fresh key. -/
def movementRow (movement : StockMovement) : PurchasingCall StockMovement := do
  let quantityChange ← column 11 3 movement.quantityChange
  let quantityBefore ← column 11 3 movement.quantityBefore
  let quantityAfter ← column 11 3 movement.quantityAfter
  let unitCost ← column 10 2 movement.unitCost
  let id ← newId
  pure { movement with
    id := id
    quantityChange := quantityChange
    quantityBefore := quantityBefore
    quantityAfter := quantityAfter
    unitCost := unitCost }

/-- The table's constraints: the balance equation, the job at the other end, and that a cost line
and a reversed movement are linked once. -/
def movementConstraints (row : StockMovement) : PurchasingCall Unit := do
  .require (row.quantityAfter = row.quantityBefore + row.quantityChange)
    (.database "movement_balance_equation")
  .require (row.kind.standsAlone ∨ row.counterpartJob ≠ none) (.database "movement_job_counterpart")
  let rows ← Transaction.read Purchasing.movements
  .require (∀ other ∈ rows.rows, row.costLine ≠ none → other.costLine ≠ row.costLine)
    (.database "cost_line_id")
  .require (∀ other ∈ rows.rows, row.reverses ≠ none → other.reverses ≠ row.reverses)
    (.database "reverses_id")

/-- `StockMovement.objects.create`. -/
def insertMovement (movement : StockMovement) : PurchasingCall StockMovement := do
  let row ← movementRow movement
  movementConstraints row
  let rows ← Transaction.read Purchasing.movements
  let inserted ← Transaction.orRefuse (rows.insert? row) (.database "stockmovement_pkey")
  .write fun db => { db with movements := inserted }
  pure row

/-- `locked.save(update_fields=["quantity", "inventory_version", "is_active"])`. -/
def saveBalance (locked : Stock) : PurchasingCall Unit := do
  .require (0 ≤ locked.unitCost) (.value "Unit cost cannot be negative")
  let quantity ← column 11 3 locked.quantity
  .write fun db => { db with stock := db.stock.put { locked with quantity := quantity } }

/-- The identity after a movement that left `quantity`: a balance that is not zero is active. -/
def projected (locked : Stock) (quantity : ℚ) : Stock :=
  { locked with
    quantity := quantity
    inventoryVersion := locked.inventoryVersion + 1
    isActive := if quantity ≠ 0 then true else locked.isActive }

/-- Lock, record and project one movement; negative inventory remains permitted. -/
def moveStock (stock : ℕ) (change : ℚ) (context : MovementContext) :
    PurchasingCall StockMovement := do
  .require (context.kind.isOpening = false)
    (.invalidInput "Opening observations belong to the inventory cutover migration.")
  let locked ← theStock stock
  checkMovement change context
  let movement ← insertMovement
    { id := 0
      stock := locked.id
      quantityChange := change
      quantityBefore := locked.quantity
      quantityAfter := locked.quantity + change
      openingQuantity := none
      unitCost := (context.costLine.map CostLine.unitCost).getD locked.unitCost
      kind := context.kind
      reason := context.reason
      actor := context.actor
      counterpartJob := context.counterpartJob
      costLine := context.costLine.map CostLine.id
      stocktakeLine := context.stocktakeLine
      reverses := context.reverses }
  saveBalance (projected locked (locked.quantity + change))
  pure movement

/-- The supplied quantity of a posting, or of an explicit cutover observation. -/
def deliveryQuantity (movement : StockMovement) : PurchasingCall ℚ :=
  if movement.kind = .delivery then
    pure movement.quantityChange
  else if movement.kind ≠ .deliveryOpening then
    .refuse (.invalidInput "This movement is not receipt evidence.")
  else
    .orRefuse movement.openingQuantity (.invalidInput "This movement is not receipt evidence.")

/-- A job position. -/
def isReturnableIssue (movement : StockMovement) : Bool :=
  movement.kind = .issue || movement.kind = .jobOpening

/-- The immutable cost evidence of a job position. -/
def returnableIssueCost (movement : StockMovement) : PurchasingCall CostLine := do
  .require (isReturnableIssue movement)
    (.invalidInput "Only a job issue can be returned through this action.")
  let incomplete := Refusal.invalidInput "The issued material has incomplete movement evidence."
  let line ← Transaction.orRefuse movement.costLine incomplete
  .require (movement.counterpartJob ≠ none) incomplete
  let cost ← theCostLine line
  .require (0 < cost.quantity)
    (.invalidInput "A return requires a positive movement job quantity.")
  .require (movement.kind = .issue → movement.quantityChange = -cost.quantity)
    (.invalidInput "The issue quantity does not match its movement job cost.")
  .require (movement.kind = .jobOpening → movement.quantityChange = 0)
    (.invalidInput "A job opening must not change the workshop balance.")
  pure cost

/-- A material line built in memory, with the model's defaults. -/
def materialLine (id costSet : ℕ) (desc : Option String) (quantity unitCost unitRev : ℚ)
    (accountingDate : ℤ) (managedBy : CostLineOwner) : CostLine where
  id := id
  costSet := costSet
  kind := .material
  desc := desc
  quantity := quantity
  unitCost := unitCost
  unitRev := unitRev
  extRefs := []
  payload := []
  accountingDate := accountingDate
  approved := true
  staff := none
  entrySeq := none
  xeroPayItem := none
  labourSubtype := none
  managedBy := some managedBy

/-- Return a complete issue with a linked opposite cost; a retry returns the first reversal. -/
def reverseIssue (movement staff : ℕ) (reason : String) : PurchasingCall StockMovement := do
  let original ← theMovement movement
  let existing ← Transaction.read
    (fun db => db.movements.rows.find? (fun m => m.reverses = some original.id))
  match existing with
  | some reversal => pure reversal
  | none => do
      let cost ← returnableIssueCost original
      let id ← newId
      let today ← Transaction.read Purchasing.today
      let credit := materialLine id cost.costSet cost.desc (-cost.quantity) cost.unitCost
        cost.unitRev today .stock
      onCosting (credit.save true none)
      moveStock original.stock cost.quantity
        { kind := .return
          reason := reason
          actor := some staff
          counterpartJob := original.counterpartJob
          costLine := some credit
          reverses := some original.id }

end Purchasing

end Docketworks
