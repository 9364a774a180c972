import Docketworks.Purchasing.Ledger

/-!
# Invariants of the inventory

What an invariant of identities, movements and order lines must survive, and the services that
preserve every such invariant.  A service that receives or reverses a supplier's delivery, or that
writes an order line, is not among them: it needs an argument of its own.

* `WorkshopRules I` — `I` survives writes elsewhere, a movement within the workshop, a new empty
  identity without an order line, an edit of metadata and a retirement.
* `BookRules I` — the part of them for booking material: `BookRules.consumeStock_keeps`,
  `BookRules.reverseIssue_keeps`.
* `WorkshopRules.postStocktake_keeps`, … — the services, one lemma each.
* `InventoryRules I` — `I` survives writes of an order's row as well; the services on orders
  preserve it where their line writes and deliveries do.
-/

namespace Docketworks

open Library Library.Transaction

/-- The kinds that record what a supplier delivered, or took back. -/
def StockMovementKind.isSupply : StockMovementKind → Bool
  | .delivery | .deliveryOpening | .deliveryReversal => true
  | _ => false

namespace Purchasing

/-- The operations on orders: they write order lines, or receive or reverse deliveries. -/
def Op.onOrders : Op → Bool
  | .createPurchaseOrder .. | .updatePurchaseOrder .. | .processDeliveryReceipt ..
  | .receiveOutstandingOrder .. | .reverseAllocation .. => true
  | _ => false

/-! ## Calls that only read -/

lemma readOnly_returnableIssueCost {movement : StockMovement} :
    ReadOnly (returnableIssueCost movement) :=
  .bind .require fun _ => .bind .orRefuse fun _ => .bind .require fun _ =>
    .bind readOnly_theCostLine fun _ => .bind .require fun _ => .bind .require fun _ =>
      .bind .require fun _ => .pure

lemma readOnly_resolveHandle {po : ℕ} {allocation : AllocationHandle} :
    ReadOnly (resolveHandle po allocation) := by
  cases allocation with
  | stock id => exact .bind (.bind .read fun _ => .orRefuse) fun _ => .pure
  | job costLine => exact .bind (.bind .read fun _ => .orRefuse) fun _ => .pure

lemma readOnly_receiptOf {stock : ℕ} : ReadOnly (receiptOf stock) := by
  refine .bind .read fun _ => ?_
  split
  · exact .pure
  · exact .refuse
  · exact .refuse

lemma readOnly_deliveryQuantity {movement : StockMovement} :
    ReadOnly (deliveryQuantity movement) :=
  .ite .pure (.ite .refuse .orRefuse)

lemma readOnly_theOrderLine {id order : ℕ} : ReadOnly (theOrderLine id order) :=
  .bind .read fun _ => .orRefuse

lemma readOnly_validateAndPrepareAllocations {line : PurchaseOrderLine}
    {request : ReceiptLineRequest} {jobs : List Job} :
    ReadOnly (validateAndPrepareAllocations line request jobs) :=
  .bind .require fun _ => .bind (.bind .read fun _ => .pure) fun _ => .bind .orRefuse fun _ =>
    .bind .require fun _ => .bind .require fun _ => .pure

lemma readOnly_applyLineFields {line : PurchaseOrderLine} {data : PurchaseOrderLineWriteData} :
    ReadOnly (applyLineFields line data) :=
  .bind (.bind .read fun _ => .require) fun _ => .bind .require fun _ => .pure

lemma readOnly_lineColumns {line : PurchaseOrderLine} : ReadOnly (lineColumns line) :=
  .bind readOnly_column fun _ => .bind readOnly_column? fun _ => .pure

lemma readOnly_requireWorkshopStock {stock : Stock} : ReadOnly (requireWorkshopStock stock) :=
  .bind (.bind readOnly_stockHoldingJob fun _ => .pure) fun _ => .require

lemma readOnly_theStocktake {id : ℕ} : ReadOnly (theStocktake id) := .bind .read fun _ => .orRefuse

lemma readOnly_requireDraft {count : Stocktake} {ifMatch : List StocktakeETag} :
    ReadOnly (requireDraft count ifMatch) :=
  .bind .require fun _ => .require

/-! ## Booking material -/

/-- What the invariant `I` must survive for material to be booked to a job and back. -/
structure BookRules (I : Purchasing → Prop) : Prop where
  newId : Keeps I newId
  actuals : ∀ {job : Job}, Keeps I (ensureActualCostSet job)
  new : ∀ {line : CostLine}, Keeps I (onCosting (line.save true none))
  stored : ∀ {line : CostLine} {updateFields : Option (List CostLine.Column)},
    Keeps I (onCosting (line.save false updateFields))
  movement : ∀ {stock : ℕ} {change : ℚ} {context : MovementContext},
    context.kind.isSupply = false → Keeps I (moveStock stock change context)

namespace BookRules

variable {I : Purchasing → Prop} (hI : BookRules I)

include hI

lemma reverseIssue_keeps {movement staff : ℕ} {reason : String} :
    Keeps I (reverseIssue movement staff reason) := by
  refine .bind readOnly_theMovement.keeps fun original => .bind .read fun existing => ?_
  split
  · exact .pure
  · exact .bind readOnly_returnableIssueCost.keeps fun _ => .bind hI.newId fun _ =>
      .bind .read fun _ => .bind hI.new fun _ => hI.movement rfl

lemma bookIssue_keeps {item user : ℕ} {job : Job} {qty : ℚ} {unitCost unitRev : Option ℚ}
    {line : Option CostLine} : Keeps I (bookIssue item job qty user unitCost unitRev line) := by
  refine .bind readOnly_theStock.keeps fun _ => .bind (ReadOnly.keeps ?_) fun _ =>
    .bind hI.actuals fun _ => .bind .read fun _ => ?_
  · exact .bind .read fun _ => .ite .pure .pure
  · split
    · exact .bind hI.newId fun _ => .bind hI.new fun _ =>
        .bind (hI.movement rfl) fun _ => .pure
    · exact .bind hI.stored fun _ => .bind (hI.movement rfl) fun _ => .pure

lemma consumeStock_keeps {item job user : ℕ} {qty : ℚ} {unitCost unitRev : Option ℚ}
    {line : Option ℕ} : Keeps I (consumeStock item job qty user unitCost unitRev line) := by
  refine .bind .require fun _ => .bind readOnly_theStock.keeps fun _ =>
    .bind readOnly_theJob.keeps fun _ => ?_
  split
  · exact hI.bookIssue_keeps
  · refine .bind readOnly_theCostLine.keeps fun _ => .bind readOnly_theCostSet.keeps fun _ =>
      .bind .require fun _ => .ite (fun _ => .pure) fun _ => ?_
    exact .bind .require fun _ => hI.bookIssue_keeps

end BookRules

/-! ## The workshop's rules -/

/-- What the invariant `I` must survive for every service that touches no order to preserve it. -/
structure WorkshopRules (I : Purchasing → Prop) : Prop where
  /-- It is about identities, movements, orders and order lines. -/
  elsewhere : ∀ {db db' : Purchasing}, db'.stock = db.stock → db'.movements = db.movements →
    db'.orders = db.orders → db'.orderLines = db.orderLines → I db → I db'
  movement : ∀ {stock : ℕ} {change : ℚ} {context : MovementContext},
    context.kind.isSupply = false → Keeps I (moveStock stock change context)
  identity : ∀ {stock : Stock}, stock.quantity = 0 → stock.inventoryVersion = 0 →
    stock.sourcePurchaseOrderLine = none → Keeps I (insertStock stock)
  edit : ∀ {stock : ℕ} {data : StockWriteData}, Keeps I (updateStock stock data)
  retire : ∀ {stock : ℕ}, Keeps I (deactivateStock stock)

namespace WorkshopRules

variable {I : Purchasing → Prop} (hI : WorkshopRules I)

/-! ## Small calls -/

include hI

lemma keeps_write {f : Purchasing → Purchasing} (hstock : ∀ db, (f db).stock = db.stock)
    (hmovements : ∀ db, (f db).movements = db.movements)
    (horders : ∀ db, (f db).orders = db.orders)
    (hlines : ∀ db, (f db).orderLines = db.orderLines) :
    Keeps I (Transaction.write f : PurchasingCall Unit) :=
  Keeps.write fun db => hI.elsewhere (hstock db) (hmovements db) (horders db) (hlines db)

lemma newId_keeps : Keeps I newId :=
  .bind .read fun _ =>
    .bind (hI.keeps_write (fun _ => rfl) (fun _ => rfl) (fun _ => rfl) fun _ => rfl) fun _ => .pure

lemma onCosting_keeps {α : Type} {x : CostingCall α} : Keeps I (onCosting x) :=
  keeps_on fun _ _ => hI.elsewhere rfl rfl rfl rfl

lemma ensureActualCostSet_keeps {job : Job} : Keeps I (ensureActualCostSet job) := by
  unfold ensureActualCostSet
  split
  · exact .pure
  · exact .bind hI.newId_keeps fun _ => .bind hI.onCosting_keeps fun _ =>
      .bind hI.onCosting_keeps fun _ => .pure

/-! ## Stock -/

lemma createStock_keeps {data : StockWriteData} {unitCost : ℚ} :
    Keeps I (createStock data unitCost) :=
  .bind readOnly_stockHoldingJob.keeps fun _ => .bind hI.newId_keeps fun _ =>
    hI.identity rfl rfl rfl

lemma books : BookRules I where
  newId := hI.newId_keeps
  actuals := hI.ensureActualCostSet_keeps
  new := hI.onCosting_keeps
  stored := hI.onCosting_keeps
  movement := hI.movement

/-! ## Counts -/

lemma storeLine_keeps {line : StocktakeLine} : Keeps I (storeLine line) := by
  refine .bind .require fun _ => .bind .require fun _ => .bind .require fun _ =>
    .bind .require fun _ => .bind .read fun _ => ?_
  split
  · exact hI.keeps_write (fun _ => rfl) (fun _ => rfl) (fun _ => rfl) fun _ => rfl
  · exact .bind .orRefuse fun _ => hI.keeps_write (fun _ => rfl) (fun _ => rfl) (fun _ => rfl) fun _ => rfl

lemma insertStocktake_keeps {count : Stocktake} : Keeps I (insertStocktake count) :=
  .bind .read fun _ => .bind .require fun _ => .bind .orRefuse fun _ =>
    hI.keeps_write (fun _ => rfl) (fun _ => rfl) (fun _ => rfl) fun _ => rfl

lemma createStocktake_keeps {stock : Option ℕ} : Keeps I (createStocktake stock) := by
  refine .bind .read fun _ => .bind .orRefuse fun _ => .bind hI.newId_keeps fun _ =>
    .bind hI.insertStocktake_keeps fun _ => ?_
  split
  · exact .pure
  · exact .bind readOnly_theStock.keeps fun _ => .bind readOnly_requireWorkshopStock.keeps fun _ =>
      .bind hI.newId_keeps fun _ => hI.storeLine_keeps

lemma saveLine_keeps {count : Stocktake} {data : StocktakeLineWrite} :
    Keeps I (saveLine count data) := by
  refine .bind (ReadOnly.keeps ?_) fun _ => .bind .read fun _ => .bind .require fun _ =>
    .bind readOnly_column.keeps fun _ => .bind readOnly_column?.keeps fun _ =>
      .bind readOnly_column.keeps fun _ => hI.storeLine_keeps
  unfold checkObservation
  split
  · exact .bind readOnly_theStock fun _ => .bind readOnly_requireWorkshopStock fun _ =>
      .bind .require fun _ => .require
  · exact .require

lemma saveStocktake_keeps {count : ℕ} {lines : List StocktakeLineWrite}
    {ifMatch : List StocktakeETag} : Keeps I (saveStocktake count lines ifMatch) :=
  .bind readOnly_theStocktake.keeps fun _ => .bind readOnly_requireDraft.keeps fun _ =>
    .bind .require fun _ => .bind (.forM fun _ _ => hI.saveLine_keeps) fun _ => .bind .read fun _ =>
      .bind (.forM fun _ _ => hI.keeps_write (fun _ => rfl) (fun _ => rfl) (fun _ => rfl) fun _ => rfl) fun _ =>
        hI.keeps_write (fun _ => rfl) (fun _ => rfl) (fun _ => rfl) fun _ => rfl

lemma postDifference_keeps {line : StocktakeLine} {difference : ℚ} {staff : ℕ} {job : Job} :
    Keeps I (postDifference line difference staff job) := by
  refine .bind .orRefuse fun _ => .bind ?_ fun _ => .bind hI.ensureActualCostSet_keeps fun _ =>
    .bind hI.newId_keeps fun _ => .bind .read fun _ => .bind hI.onCosting_keeps fun _ =>
      .bind (hI.movement rfl) fun _ => .pure
  unfold postedStock
  split
  · exact .pure
  · exact .bind readOnly_stockHoldingJob.keeps fun _ => .bind hI.newId_keeps fun _ =>
      .bind (hI.identity rfl rfl rfl) fun _ =>
        .bind (hI.keeps_write (fun _ => rfl) (fun _ => rfl) (fun _ => rfl) fun _ => rfl) fun _ => .pure

lemma checkAndPostLine_keeps {staff job : ℕ} {line : StocktakeLine} :
    Keeps I (checkAndPostLine staff job line) := by
  refine .bind ?_ fun _ => ?_
  · split
    · exact .bind readOnly_theStock.keeps fun _ => .bind readOnly_requireWorkshopStock.keeps fun _ =>
        .require
    · exact .pure
  · unfold postLine
    split
    · exact .pure
    · exact .ite (fun _ => .pure) fun _ => .bind readOnly_theJob.keeps fun _ =>
        hI.postDifference_keeps

lemma postStocktake_keeps {count staff : ℕ} {ifMatch : List StocktakeETag} :
    Keeps I (postStocktake count ifMatch staff) :=
  .bind readOnly_theStocktake.keeps fun _ => .ite (fun _ => .require) fun _ =>
    .bind readOnly_requireDraft.keeps fun _ => .bind .read fun _ => .bind .require fun _ =>
      .bind readOnly_theJob.keeps fun _ => .bind .require fun _ =>
        .bind (.forM fun _ _ => hI.checkAndPostLine_keeps) fun _ =>
          hI.keeps_write (fun _ => rfl) (fun _ => rfl) (fun _ => rfl) fun _ => rfl

lemma correctStocktake_keeps {count : ℕ} {ifMatch : List StocktakeETag} :
    Keeps I (correctStocktake count ifMatch) := by
  refine .bind readOnly_theStocktake.keeps fun _ => .bind .require fun _ => .bind .require fun _ =>
    .bind .read fun _ => .when fun _ => .bind hI.newId_keeps fun _ =>
      .bind hI.insertStocktake_keeps fun _ => .forM fun line _ => ?_
  split
  · exact .pure
  · exact .bind readOnly_theStock.keeps fun _ => .bind hI.newId_keeps fun _ => hI.storeLine_keeps

/-! ## The operations of the workshop -/

/-- **Every operation that writes no order line and receives no delivery** preserves `I`. -/
lemma step_keeps {op : Op} (hop : op.onOrders = false) : Keeps I (step op) := by
  cases op with
  | createStock data unitCost => exact hI.createStock_keeps
  | updateStock stock data => exact hI.edit
  | deactivateStock stock => exact hI.retire
  | consumeStock item job qty user unitCost unitRev =>
      exact .bind hI.books.consumeStock_keeps fun _ => .pure
  | approveCostLine item job qty user line => exact .bind hI.books.consumeStock_keeps fun _ => .pure
  | reverseIssue movement staff reason => exact .bind hI.books.reverseIssue_keeps fun _ => .pure
  | createStocktake stock => exact hI.createStocktake_keeps
  | saveStocktake count lines ifMatch => exact hI.saveStocktake_keeps
  | postStocktake count ifMatch staff => exact hI.postStocktake_keeps
  | correctStocktake count ifMatch => exact hI.correctStocktake_keeps
  | costing op => exact .bind .read fun _ => .bind .require fun _ => hI.onCosting_keeps
  | newDay today => exact hI.keeps_write (fun _ => rfl) (fun _ => rfl) (fun _ => rfl) fun _ => rfl
  | _ => cases hop

end WorkshopRules

/-! ## The rules with orders -/

/-- What the invariant `I` must survive for the services that write an order's row as well. -/
structure InventoryRules (I : Purchasing → Prop) : Prop where
  /-- It is about identities, movements and order lines. -/
  elsewhere : ∀ {db db' : Purchasing}, db'.stock = db.stock → db'.movements = db.movements →
    db'.orderLines = db.orderLines → I db → I db'
  movement : ∀ {stock : ℕ} {change : ℚ} {context : MovementContext},
    context.kind.isSupply = false → Keeps I (moveStock stock change context)
  identity : ∀ {stock : Stock}, stock.quantity = 0 → stock.inventoryVersion = 0 →
    stock.sourcePurchaseOrderLine = none → Keeps I (insertStock stock)
  edit : ∀ {stock : ℕ} {data : StockWriteData}, Keeps I (updateStock stock data)
  retire : ∀ {stock : ℕ}, Keeps I (deactivateStock stock)

namespace InventoryRules

variable {I : Purchasing → Prop} (hI : InventoryRules I)

include hI

lemma workshop : WorkshopRules I where
  elsewhere hstock hmovements _ hlines := hI.elsewhere hstock hmovements hlines
  movement := hI.movement
  identity := hI.identity
  edit := hI.edit
  retire := hI.retire

lemma keeps_orders {f : Purchasing → Purchasing} (hstock : ∀ db, (f db).stock = db.stock)
    (hmovements : ∀ db, (f db).movements = db.movements)
    (hlines : ∀ db, (f db).orderLines = db.orderLines) :
    Keeps I (Transaction.write f : PurchasingCall Unit) :=
  Keeps.write fun db => hI.elsewhere (hstock db) (hmovements db) (hlines db)

lemma recomputePurchaseOrderStatus_keeps {po : PurchaseOrder} :
    Keeps I (recomputePurchaseOrderStatus po) :=
  .bind .read fun _ => .bind hI.workshop.newId_keeps fun _ =>
    .bind (hI.keeps_orders (fun _ => rfl) (fun _ => rfl) fun _ => rfl) fun _ => .pure

lemma sendStateChange_keeps {mirror : Mirror} {po : PurchaseOrder} :
    Keeps I (sendStateChange mirror po) :=
  .bind readOnly_theOrder.keeps fun _ => .when fun _ => .bind .require fun _ => .when fun _ =>
    hI.keeps_orders (fun _ => rfl) (fun _ => rfl) fun _ => rfl

lemma saveOrder_keeps {po : PurchaseOrder} : Keeps I (saveOrder po) :=
  .bind hI.workshop.newId_keeps fun _ =>
    .bind (hI.keeps_orders (fun _ => rfl) (fun _ => rfl) fun _ => rfl) fun _ => .pure

lemma processDeliveryReceipt_keeps {mirror : Mirror} {po staff : ℕ}
    {lineAllocations : LineAllocations} {ifMatch : List PurchaseOrderETag}
    (h : ∀ entry ∈ lineAllocations.rows, ∀ po lines jobs holding,
      Keeps I (receiveLine po lines jobs holding staff entry)) :
    Keeps I (processDeliveryReceipt mirror po lineAllocations staff ifMatch) := by
  refine .bind (ReadOnly.keeps ?_) fun _ => .bind .require fun _ => .bind .require fun _ =>
    .bind readOnly_stockHoldingJob.keeps fun _ => .bind (ReadOnly.keeps ?_) fun _ =>
      .bind (.forM fun entry hentry => h entry hentry _ _ _ _) fun _ =>
        .bind hI.recomputePurchaseOrderStatus_keeps fun _ => .when fun _ =>
          hI.sendStateChange_keeps
  · exact .bind .read fun _ => .bind .orRefuse fun _ => .bind .require fun _ => .pure
  · exact .bind .read fun _ => .bind .require fun _ => .pure

/-- An order update preserves `I` where its deletions, its line writes and the receipt of what is
outstanding do. -/
lemma updatePurchaseOrder_keeps {mirror : Mirror} {po staff : ℕ} {data : PurchaseOrderUpdateData}
    {ifMatch : List PurchaseOrderETag} (hdelete : ∀ order, Keeps I (deleteLines order data.linesToDelete))
    (hwrite : ∀ order line, Keeps I (writeLine order line))
    (hreceive : ∀ order tag, Keeps I (receiveOutstandingOrder mirror order staff tag)) :
    Keeps I (updatePurchaseOrder mirror po data staff ifMatch) := by
  refine .bind readOnly_theOrder.keeps fun _ => .bind .require fun _ => .bind (hdelete _) fun _ =>
    .bind (.forM fun _ _ => hwrite _ _) fun _ => .bind hI.saveOrder_keeps fun _ => .bind ?_ fun _ =>
      .bind readOnly_theOrder.keeps fun _ => .when fun _ =>
        .bind (hI.keeps_orders (fun _ => rfl) (fun _ => rfl) fun _ => rfl) fun _ =>
          hI.sendStateChange_keeps
  refine .bind .read fun _ => .ite (fun _ => hreceive _ _) fun _ => ?_
  exact .when fun _ => .bind hI.recomputePurchaseOrderStatus_keeps fun _ => .pure

lemma createPurchaseOrder_keeps {poNumber : String} {lines : List PurchaseOrderLineWriteData}
    (hwrite : ∀ order line, Keeps I (writeLine order line)) :
    Keeps I (createPurchaseOrder poNumber lines) :=
  .bind .read fun _ => .bind .require fun _ => .bind hI.workshop.newId_keeps fun _ =>
    .bind hI.workshop.newId_keeps fun _ => .bind .orRefuse fun _ =>
      .bind (hI.keeps_orders (fun _ => rfl) (fun _ => rfl) fun _ => rfl) fun _ =>
        .forM fun _ _ => hwrite _ _

end InventoryRules

end Purchasing

end Docketworks
