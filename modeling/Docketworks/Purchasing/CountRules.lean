import Docketworks.Purchasing.InventoryRules

/-!
# Invariants of the counts

What an invariant of the identities and the counts must survive for every service that is not a
count's own to preserve it: no receipt, issue, order or edit writes a count, and each of them
keeps the identities a count names.

* `CountRules I` — `I` survives writes elsewhere, an identity's row rewritten and a new, empty one.
* `CountRules.step_keeps` — every operation but the four of the counts preserves `I`.
-/

namespace Docketworks

open Library Library.Transaction

namespace Purchasing

def Op.onCounts : Op → Bool
  | .createStocktake .. | .saveStocktake .. | .postStocktake .. | .correctStocktake .. => true
  | _ => false

/-- What the invariant `I` must survive for every service that touches no count to preserve it. -/
structure CountRules (I : Purchasing → Prop) : Prop where
  elsewhere : ∀ {db db' : Purchasing}, db'.stock = db.stock → db'.stocktakes = db.stocktakes →
    db'.stocktakeLines = db.stocktakeLines → I db → I db'
  /-- An identity's row rewritten: its balance stays, or is another of the column's scale. -/
  rewritten : ∀ {db : Purchasing} {stored row : Stock}, db.stock.find? row.id = some stored →
    row.quantity = stored.quantity ∨ IsDecimal 3 row.quantity → I db →
      I { db with stock := db.stock.put row }
  identity : ∀ {db : Purchasing} {row : Stock} {stock : Table Stock.id}, row.quantity = 0 →
    db.stock.insert? row = some stock → I db → I { db with stock := stock }

namespace CountRules

variable {I : Purchasing → Prop} (hI : CountRules I)

/-! ## Small calls -/

include hI

lemma keeps_write {f : Purchasing → Purchasing} (hstock : ∀ db, (f db).stock = db.stock)
    (hcounts : ∀ db, (f db).stocktakes = db.stocktakes)
    (hlines : ∀ db, (f db).stocktakeLines = db.stocktakeLines) :
    Keeps I (Transaction.write f : PurchasingCall Unit) :=
  Keeps.write fun db => hI.elsewhere (hstock db) (hcounts db) (hlines db)

lemma newId_keeps : Keeps I newId :=
  .bind .read fun _ => .bind (hI.keeps_write (fun _ => rfl) (fun _ => rfl) fun _ => rfl) fun _ => .pure

lemma onCosting_keeps {α : Type} {x : CostingCall α} : Keeps I (onCosting x) :=
  keeps_on fun _ _ => hI.elsewhere rfl rfl rfl

lemma ensureActualCostSet_keeps {job : Job} : Keeps I (ensureActualCostSet job) := by
  unfold ensureActualCostSet
  split
  · exact .pure
  · exact .bind hI.newId_keeps fun _ => .bind hI.onCosting_keeps fun _ =>
      .bind hI.onCosting_keeps fun _ => .pure

lemma moveStock_keeps {stock : ℕ} {change : ℚ} {context : MovementContext} :
    Keeps I (moveStock stock change context) := by
  intro db hdb row db' h
  obtain ⟨locked, movements, hlocked, -, -, -, -, -, -, hscale, -, -, -, rfl⟩ := run_moveStock h
  have hid : locked.id = stock := Table.key_of_find? hlocked
  subst hid
  have hmoved : db.stock.find? (afterMovement locked row).id = some locked := hlocked
  refine hI.elsewhere ?_ ?_ ?_ (hI.rewritten hmoved (.inr hscale) hdb)
  all_goals rfl

lemma insertStock_keeps {stock : Stock} (hempty : stock.quantity = 0) :
    Keeps I (insertStock stock) := by
  intro db hdb _ db' h
  simp only [insertStock, run_bind, run_read, run_require, run_orRefuse, run_write] at h
  obtain ⟨row, _, hrow, _, _, ⟨rfl, rfl⟩, _, _, ⟨-, rfl⟩, inserted, _, ⟨hinsert, rfl⟩, rfl⟩ := h
  obtain ⟨rfl, -, hquantity, -⟩ := run_stockColumns hrow
  exact hI.identity (hquantity.trans hempty) hinsert hdb

/-! ## Stock -/

lemma createStock_keeps {data : StockWriteData} {unitCost : ℚ} :
    Keeps I (createStock data unitCost) :=
  .bind readOnly_stockHoldingJob.keeps fun _ => .bind hI.newId_keeps fun _ =>
    hI.insertStock_keeps rfl

lemma updateStock_keeps {stock : ℕ} {data : StockWriteData} :
    Keeps I (updateStock stock data) := by
  intro db hdb _ db' h
  simp only [updateStock, saveStock, run_bind, run_theStock, run_write] at h
  obtain ⟨locked, _, ⟨hlocked, rfl⟩, row, _, hrow, rfl⟩ := h
  obtain ⟨rfl, hid, hquantity, -⟩ := run_stockColumns hrow
  rename_i db
  have hkey : locked.id = stock := Table.key_of_find? hlocked
  have hstored : db.stock.find? row.id = some locked := by
    rw [hid]
    exact hkey ▸ hlocked
  exact hI.rewritten hstored (.inl hquantity) hdb

lemma deactivateStock_keeps {stock : ℕ} : Keeps I (deactivateStock stock) := by
  intro db hdb _ db' h
  simp only [deactivateStock, run_bind, run_theStock, run_require, run_write] at h
  obtain ⟨locked, _, ⟨hlocked, rfl⟩, _, _, ⟨-, rfl⟩, _, _, ⟨-, rfl⟩, rfl⟩ := h
  have hkey : locked.id = stock := Table.key_of_find? hlocked
  subst hkey
  have hretired : db.stock.find? ({ locked with isActive := false } : Stock).id = some locked :=
    hlocked
  exact hI.rewritten hretired (.inl rfl) hdb

lemma books : BookRules I where
  newId := hI.newId_keeps
  actuals := hI.ensureActualCostSet_keeps
  new := hI.onCosting_keeps
  stored := hI.onCosting_keeps
  movement _ := hI.moveStock_keeps

/-! ## Receipts -/

lemma createStockFromAllocation_keeps {line : PurchaseOrderLine} {allocation : MaterialAllocation}
    {staff : ℕ} : Keeps I (createStockFromAllocation line allocation staff) :=
  .bind .orRefuse fun _ => .bind .require fun _ => .bind hI.newId_keeps fun _ =>
    .bind (hI.insertStock_keeps rfl) fun _ => .bind readOnly_theOrder.keeps fun _ =>
      .bind hI.moveStock_keeps fun _ => .pure

lemma createCostlineFromAllocation_keeps {po : PurchaseOrder} {line : PurchaseOrderLine} {job : Job}
    {qty retailRatePct : ℚ} {staff : ℕ} :
    Keeps I (createCostlineFromAllocation po line job qty retailRatePct staff) :=
  .bind .orRefuse fun _ => .bind hI.ensureActualCostSet_keeps fun _ => .bind hI.newId_keeps fun _ =>
    .bind .read fun _ => .bind hI.onCosting_keeps fun _ => .bind readOnly_stockHoldingJob.keeps fun _ =>
      .bind hI.createStockFromAllocation_keeps fun _ => .bind hI.moveStock_keeps fun _ => .pure

lemma keeps_orderLines {f : Purchasing → Table PurchaseOrderLine.id} :
    Keeps I (.write fun db => { db with orderLines := f db } : PurchasingCall Unit) :=
  hI.keeps_write (fun _ => rfl) (fun _ => rfl) fun _ => rfl

lemma keeps_orders {f : Purchasing → Table PurchaseOrder.id} :
    Keeps I (.write fun db => { db with orders := f db } : PurchasingCall Unit) :=
  hI.keeps_write (fun _ => rfl) (fun _ => rfl) fun _ => rfl

lemma receiveLine_keeps {po : PurchaseOrder} {lines : List PurchaseOrderLine} {jobs : List Job}
    {stockHoldingJobId staff : ℕ} {entry : ℕ × ReceiptLineRequest} :
    Keeps I (receiveLine po lines jobs stockHoldingJobId staff entry) := by
  refine .bind .orRefuse fun _ => .bind readOnly_validateAndPrepareAllocations.keeps fun _ =>
    .bind ?_ fun _ => .forM fun alloc _ => .ite (fun _ => ?_) fun _ => ?_
  · exact .bind .read fun _ => .bind .orRefuse fun _ => .bind readOnly_column.keeps fun _ =>
      hI.keeps_orderLines
  · exact .bind hI.createStockFromAllocation_keeps fun _ => .pure
  · exact .bind readOnly_theJob.keeps fun _ =>
      .bind hI.createCostlineFromAllocation_keeps fun _ => .pure

lemma recomputePurchaseOrderStatus_keeps {po : PurchaseOrder} :
    Keeps I (recomputePurchaseOrderStatus po) :=
  .bind .read fun _ => .bind hI.newId_keeps fun _ => .bind hI.keeps_orders fun _ => .pure

lemma sendStateChange_keeps {mirror : Mirror} {po : PurchaseOrder} :
    Keeps I (sendStateChange mirror po) :=
  .bind readOnly_theOrder.keeps fun _ => .when fun _ => .bind .require fun _ => .when fun _ =>
    hI.keeps_orders

lemma processDeliveryReceipt_keeps {mirror : Mirror} {po staff : ℕ}
    {lineAllocations : LineAllocations} {ifMatch : List PurchaseOrderETag} :
    Keeps I (processDeliveryReceipt mirror po lineAllocations staff ifMatch) := by
  refine .bind (ReadOnly.keeps ?_) fun _ => .bind .require fun _ => .bind .require fun _ =>
    .bind readOnly_stockHoldingJob.keeps fun _ => .bind (ReadOnly.keeps ?_) fun _ =>
      .bind (.forM fun _ _ => hI.receiveLine_keeps) fun _ =>
        .bind hI.recomputePurchaseOrderStatus_keeps fun _ => .when fun _ =>
          hI.sendStateChange_keeps
  · exact .bind .read fun _ => .bind .orRefuse fun _ => .bind .require fun _ => .pure
  · exact .bind .read fun _ => .bind .require fun _ => .pure

lemma receiveOutstandingOrder_keeps {mirror : Mirror} {po staff : ℕ}
    {ifMatch : List PurchaseOrderETag} :
    Keeps I (receiveOutstandingOrder mirror po staff ifMatch) :=
  .bind readOnly_theOrder.keeps fun _ => .bind .require fun _ => .bind .read fun _ =>
    .bind readOnly_stockHoldingJob.keeps fun _ => .when fun _ => hI.processDeliveryReceipt_keeps

lemma reverseAllocation_keeps {po line staff : ℕ} {allocation : AllocationHandle}
    {ifMatch : List PurchaseOrderETag} :
    Keeps I (reverseAllocation po line allocation ifMatch staff) := by
  refine .bind .read fun _ => .bind .orRefuse fun _ => .bind readOnly_resolveHandle.keeps fun _ =>
    .bind .require fun _ => .bind readOnly_theOrderLine.keeps fun _ =>
      .bind readOnly_receiptOf.keeps fun _ => .bind .read fun _ => .ite (fun _ => .pure) fun _ => ?_
  refine .bind readOnly_deliveryQuantity.keeps fun _ => .bind .require fun _ => .bind ?_ fun _ =>
    .bind ?_ fun _ => .bind hI.moveStock_keeps fun _ =>
      .bind hI.recomputePurchaseOrderStatus_keeps fun _ => .pure
  · split
    · exact .bind hI.books.reverseIssue_keeps fun _ => .pure
    · exact .pure
  · exact .bind .read fun _ => .bind .orRefuse fun _ => .bind readOnly_column.keeps fun _ =>
      hI.keeps_orderLines

/-! ## Orders -/

lemma writeLine_keeps {po : PurchaseOrder} {data : PurchaseOrderLineWriteData} :
    Keeps I (writeLine po data) := by
  unfold writeLine
  split
  · exact .bind hI.newId_keeps fun _ => .bind readOnly_applyLineFields.keeps fun _ =>
      .bind readOnly_lineColumns.keeps fun _ => .bind .read fun _ => .bind .orRefuse fun _ =>
        hI.keeps_orderLines
  · exact .bind .read fun _ => .bind .orRefuse fun _ => .bind readOnly_applyLineFields.keeps fun _ =>
      .bind readOnly_lineColumns.keeps fun _ => hI.keeps_orderLines

lemma createPurchaseOrder_keeps {poNumber : String} {lines : List PurchaseOrderLineWriteData} :
    Keeps I (createPurchaseOrder poNumber lines) :=
  .bind .read fun _ => .bind .require fun _ => .bind hI.newId_keeps fun _ =>
    .bind hI.newId_keeps fun _ => .bind .orRefuse fun _ => .bind hI.keeps_orders fun _ =>
      .forM fun _ _ => hI.writeLine_keeps

lemma updatePurchaseOrder_keeps {mirror : Mirror} {po staff : ℕ} {data : PurchaseOrderUpdateData}
    {ifMatch : List PurchaseOrderETag} :
    Keeps I (updatePurchaseOrder mirror po data staff ifMatch) := by
  refine .bind readOnly_theOrder.keeps fun _ => .bind .require fun _ => .bind ?_ fun _ =>
    .bind (.forM fun _ _ => hI.writeLine_keeps) fun _ => .bind ?_ fun _ => .bind ?_ fun _ =>
      .bind readOnly_theOrder.keeps fun _ => .when fun _ => .bind hI.keeps_orders fun _ =>
        hI.sendStateChange_keeps
  · exact .bind .read fun _ => .bind .require fun _ => .forM fun _ _ => hI.keeps_orderLines
  · exact .bind hI.newId_keeps fun _ => .bind hI.keeps_orders fun _ => .pure
  · refine .bind .read fun _ => .ite (fun _ => hI.receiveOutstandingOrder_keeps) fun _ => ?_
    exact .when fun _ => .bind hI.recomputePurchaseOrderStatus_keeps fun _ => .pure

/-! ## The operations beside the counts -/

/-- **Every operation that is not a count's own** preserves `I`. -/
lemma step_keeps {op : Op} (hop : op.onCounts = false) : Keeps I (step op) := by
  cases op with
  | createStock data unitCost => exact hI.createStock_keeps
  | updateStock stock data => exact hI.updateStock_keeps
  | deactivateStock stock => exact hI.deactivateStock_keeps
  | consumeStock item job qty user unitCost unitRev =>
      exact .bind hI.books.consumeStock_keeps fun _ => .pure
  | approveCostLine item job qty user line => exact .bind hI.books.consumeStock_keeps fun _ => .pure
  | reverseIssue movement staff reason => exact .bind hI.books.reverseIssue_keeps fun _ => .pure
  | createPurchaseOrder poNumber lines => exact hI.createPurchaseOrder_keeps
  | updatePurchaseOrder mirror po data staff ifMatch => exact hI.updatePurchaseOrder_keeps
  | processDeliveryReceipt mirror po lineAllocations staff ifMatch =>
      exact .bind .require fun _ => hI.processDeliveryReceipt_keeps
  | receiveOutstandingOrder mirror po staff ifMatch => exact hI.receiveOutstandingOrder_keeps
  | reverseAllocation po line allocation ifMatch staff =>
      exact .bind hI.reverseAllocation_keeps fun _ => .pure
  | costing op => exact .bind .read fun _ => .bind .require fun _ => hI.onCosting_keeps
  | newDay today => exact hI.keeps_write (fun _ => rfl) (fun _ => rfl) fun _ => rfl
  | createStocktake stock => cases hop
  | saveStocktake count lines ifMatch => cases hop
  | postStocktake count ifMatch staff => cases hop
  | correctStocktake count ifMatch => cases hop

end CountRules

end Purchasing

end Docketworks
