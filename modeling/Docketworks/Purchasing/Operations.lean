import Docketworks.Library.Runs
import Docketworks.Purchasing.PurchaseOrderService
import Docketworks.Purchasing.StocktakeService

/-!
# The purchasing operations

Everything a client can ask of inventory and orders, as one step function over the purchasing
tables.  Writes to costing that are not purchasing's own are among them: a cost line can be edited
between any two inventory operations.
-/

namespace Docketworks

open Library Library.Transaction

namespace Purchasing

/-- What a client of the purchasing services can ask for. -/
inductive Op where
  | createStock (data : StockWriteData) (unitCost : ℚ)
  | updateStock (stock : ℕ) (data : StockWriteData)
  | deactivateStock (stock : ℕ)
  | consumeStock (item job : ℕ) (qty : ℚ) (user : ℕ) (unitCost unitRev : Option ℚ)
  /-- Issue to a job by approving a pending material line. -/
  | approveCostLine (item job : ℕ) (qty : ℚ) (user line : ℕ)
  | reverseIssue (movement staff : ℕ) (reason : String)
  | createPurchaseOrder (poNumber : String) (lines : List PurchaseOrderLineWriteData)
  | updatePurchaseOrder (mirror : Mirror) (po : ℕ) (data : PurchaseOrderUpdateData) (staff : ℕ)
      (ifMatch : List PurchaseOrderETag)
  | processDeliveryReceipt (mirror : Mirror) (po : ℕ) (lineAllocations : LineAllocations)
      (staff : ℕ) (ifMatch : List PurchaseOrderETag)
  | receiveOutstandingOrder (mirror : Mirror) (po staff : ℕ) (ifMatch : List PurchaseOrderETag)
  | reverseAllocation (po line : ℕ) (allocation : AllocationHandle)
      (ifMatch : List PurchaseOrderETag) (staff : ℕ)
  | createStocktake (stock : Option ℕ)
  | saveStocktake (count : ℕ) (lines : List StocktakeLineWrite) (ifMatch : List StocktakeETag)
  | postStocktake (count : ℕ) (ifMatch : List StocktakeETag) (staff : ℕ)
  | correctStocktake (count : ℕ) (ifMatch : List StocktakeETag)
  | costing (op : CostingOp)
  | newDay (today : ℤ)

/-- The receipt schema's `ge=0`: no total and no allocation is negative. -/
def LineAllocations.Nonnegative (lineAllocations : LineAllocations) : Prop :=
  ∀ entry ∈ lineAllocations.rows, 0 ≤ entry.2.totalReceived ∧
    ∀ alloc ∈ entry.2.allocations, 0 ≤ alloc.quantity

instance (lineAllocations : LineAllocations) : Decidable lineAllocations.Nonnegative :=
  inferInstanceAs (Decidable (∀ _ ∈ _, _))

/-- A line an inventory movement is linked to cannot be deleted. -/
def protectsLine (movements : Table StockMovement.id) : CostingOp → Bool
  | .deleteLine line => movements.rows.any fun m => m.costLine = some line.id
  | _ => false

/-- One operation on the purchasing tables. -/
def step : Op → PurchasingCall Unit
  | .createStock data unitCost => createStock data unitCost
  | .updateStock stock data => updateStock stock data
  | .deactivateStock stock => deactivateStock stock
  | .consumeStock item job qty user unitCost unitRev => do
      let _ ← consumeStock item job qty user unitCost unitRev none
      pure ()
  | .approveCostLine item job qty user line => do
      let _ ← consumeStock item job qty user none none (some line)
      pure ()
  | .reverseIssue movement staff reason => do
      let _ ← reverseIssue movement staff reason
      pure ()
  | .createPurchaseOrder poNumber lines => createPurchaseOrder poNumber lines
  | .updatePurchaseOrder mirror po data staff ifMatch =>
      updatePurchaseOrder mirror po data staff ifMatch
  | .processDeliveryReceipt mirror po lineAllocations staff ifMatch => do
      .require lineAllocations.Nonnegative (.validation "Input should be greater than or equal to 0")
      processDeliveryReceipt mirror po lineAllocations staff ifMatch
  | .receiveOutstandingOrder mirror po staff ifMatch =>
      receiveOutstandingOrder mirror po staff ifMatch
  | .reverseAllocation po line allocation ifMatch staff => do
      let _ ← reverseAllocation po line allocation ifMatch staff
      pure ()
  | .createStocktake stock => createStocktake stock
  | .saveStocktake count lines ifMatch => saveStocktake count lines ifMatch
  | .postStocktake count ifMatch staff => postStocktake count ifMatch staff
  | .correctStocktake count ifMatch => correctStocktake count ifMatch
  | .costing op => do
      let movements ← Transaction.read Purchasing.movements
      .require (protectsLine movements op = false) (.database "ProtectedError")
      onCosting (Costing.step op)
  | .newDay today => .write fun db => { db with today := today }

end Purchasing

end Docketworks
