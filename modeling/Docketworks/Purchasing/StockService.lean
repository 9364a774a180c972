import Docketworks.Purchasing.Allocation

/-!
# Stock inventory writes

`apps/purchasing/services/stock_service.py`: creating and editing an identity, retiring an empty
one, and taking a quantity off it as a material cost of a job.

* `createStock`, `updateStock`, `deactivateStock` — none of them touches a balance.
* `consumeStock` — a new material line, or an existing draft approved and repriced in place, with
  the issue movement that takes the quantity off.
* `isCountable` — the physical, unassigned, active identities a count may name.
-/

namespace Docketworks

open Library Library.Transaction

namespace Purchasing

/-- Editable metadata of an identity: a field that is absent is not written. -/
structure StockWriteData where
  description : Option String := none
  itemCode : Option (Option String) := none
  unitRevenue : Option (Option ℚ) := none
  location : Option (Option String) := none
  metalType : Option (Option String) := none
  alloy : Option (Option String) := none
  specifics : Option (Option String) := none

def applyStockFields (stock : Stock) (data : StockWriteData) : Stock :=
  { stock with
    description := data.description.getD stock.description
    itemCode := data.itemCode.getD stock.itemCode
    unitRevenue := data.unitRevenue.getD stock.unitRevenue
    location := data.location.getD stock.location
    metalType := data.metalType.getD stock.metalType
    alloy := data.alloy.getD stock.alloy
    specifics := data.specifics.getD stock.specifics }

/-- Create an empty manual identity on the stock-holding job. -/
def createStock (data : StockWriteData) (unitCost : ℚ) : PurchasingCall Unit := do
  let holding ← stockHoldingJob
  let id ← newId
  insertStock (applyStockFields
    { id := id
      job := some holding.id
      itemCode := none
      description := ""
      quantity := 0
      inventoryVersion := 0
      unitCost := unitCost
      unitRevenue := none
      source := .manual
      sourcePurchaseOrderLine := none
      location := none
      metalType := none
      alloy := none
      specifics := none
      isActive := true } data)

/-- Update metadata under the inventory writer's row lock. -/
def updateStock (stock : ℕ) (data : StockWriteData) : PurchasingCall Unit := do
  let locked ← theStock stock
  saveStock (applyStockFields locked data)

/-- Retire an empty identity while preserving its history. -/
def deactivateStock (stock : ℕ) : PurchasingCall Unit := do
  let locked ← theStock stock
  .require (locked.quantity = 0) (.invalidInput
    "This stock item still has stock on hand. Count it to zero before retiring it.")
  .require (0 ≤ locked.unitCost) (.value "Unit cost cannot be negative")
  .write fun db => { db with stock := db.stock.put { locked with isActive := false } }

/-- `countable_stock().filter(pk=…).exists()`. -/
def isCountable (stock : Stock) : PurchasingCall Bool := do
  let holding ← stockHoldingJob
  pure (stock.isActive && stock.job = some holding.id && stock.source ≠ .productCatalog)

/-- The draft a consumption approves: a material line of the job's actuals for this identity and
quantity. -/
def matchesSelection (line : CostLine) (costSet : CostSet) (item : Stock) (job : Job) (qty : ℚ) :
    Bool :=
  line.kind = .material && costSet.kind = .actual && line.quantity = qty &&
    costSet.job = job.id && textOf line.extRefs "stock_id" = some (toString item.id)

/-- What the issued quantity is charged at: no revenue on a shop job, the company's markup where
the caller names no price. -/
def resolvedRev (job : Job) (locked : Stock) (unitRev : Option ℚ) : PurchasingCall ℚ := do
  let markup ← Transaction.read Purchasing.materialsMarkup
  if job.shopJob then pure 0
  else pure (unitRev.getD (roundHalfEven 2 (locked.unitCost * (1 + markup))))

/-- Book the issue: the cost line, new or approved in place, and the movement. -/
def bookIssue (item : ℕ) (job : Job) (qty : ℚ) (user : ℕ) (unitCost unitRev : Option ℚ)
    (line : Option CostLine) : PurchasingCall ℕ := do
  let locked ← theStock item
  let resolvedCost := unitCost.getD locked.unitCost
  let resolvedRev ← resolvedRev job locked unitRev
  let costSet ← ensureActualCostSet job
  let consumedMeta : Json.Members := [("consumed_by", .string (toString user))]
  let extRefs : Json.Members := [("stock_id", .string (toString locked.id))]
  let today ← Transaction.read Purchasing.today
  match line with
  | none => do
      let id ← newId
      let costLine :=
        { materialLine id costSet (some locked.description) qty resolvedCost resolvedRev today
            .stock with
          extRefs := extRefs
          payload := consumedMeta }
      onCosting (costLine.save true none)
      let _ ← moveStock locked.id (-qty)
        { kind := .issue
          reason := "Material issued to job"
          actor := some user
          counterpartJob := some job.id
          costLine := some costLine }
      pure id
  | some line => do
      let approved :=
        { line with
          managedBy := some .stock
          approved := true
          quantity := qty
          desc := some locked.description
          unitCost := resolvedCost
          unitRev := resolvedRev
          accountingDate := today
          extRefs := extRefs
          payload := consumedMeta }
      onCosting (approved.save false (some [.approved, .managedBy, .quantity, .desc, .unitCost,
        .unitRev, .accountingDate, .extRefs, .payload, .updatedAt]))
      let _ ← moveStock locked.id (-qty)
        { kind := .issue
          reason := "Workshop material approved"
          actor := some user
          counterpartJob := some job.id
          costLine := some approved }
      pure approved.id

/-- Take `qty` off an identity and book it as a material cost line; a `line` is approved and
repriced in place, and one already issued is answered as it is. -/
def consumeStock (item job : ℕ) (qty : ℚ) (user : ℕ) (unitCost unitRev : Option ℚ)
    (line : Option ℕ) : PurchasingCall ℕ := do
  .require (0 < qty) (.value "Quantity must be positive")
  let item ← theStock item
  let job ← theJob job
  match line with
  | none => bookIssue item.id job qty user unitCost unitRev none
  | some lineId => do
      let line ← theCostLine lineId
      let costSet ← theCostSet line.costSet
      .require (matchesSelection line costSet item job qty)
        (.value "This material selection changed. Reload before approving it.")
      if line.managedBy = some .stock then
        pure line.id
      else do
        .require (¬(line.approved = true ∨ line.managedBy ≠ none))
          (.value "Only unissued material drafts can be approved.")
        bookIssue item.id job qty user unitCost unitRev (some line)

end Purchasing

end Docketworks
