import Docketworks.Purchasing.InventoryRules

/-!
# The ledger over every run

Each purchasing operation preserves `LedgerInvariant`, so every reachable state has a sound
ledger.  Three calls write a stock row beside a movement: a new identity starts empty with no
movements, an edit of metadata leaves the balance, and an identity is retired only when it is
empty.  Everything else reads, or writes tables the ledger is not about.
-/

namespace Docketworks

open Library Library.Transaction

namespace Purchasing

/-! ## Writes beside a movement -/

/-- A movement of an identity that is not there would not be in the ledger. -/
lemma ledger_eq_nil {db : Purchasing} (hdb : LedgerInvariant db) {id : ℕ}
    (h : db.stock.find? id = none) : ledger db.movements id = [] := by
  unfold ledger
  rw [List.map_eq_nil_iff, List.filter_eq_nil_iff]
  intro m hm hstock
  have hfound := hdb.known m hm
  rw [of_decide_eq_true hstock, h] at hfound
  cases hfound

/-- **A new identity** starts empty, at version zero, with no movements. -/
lemma insertStock_keeps {stock : Stock} (hquantity : stock.quantity = 0)
    (hversion : stock.inventoryVersion = 0) : Keeps LedgerInvariant (insertStock stock) := by
  intro db hdb _ db' h
  simp only [insertStock, run_bind, run_read, run_require, run_orRefuse, run_write] at h
  obtain ⟨row, _, hrow, _, _, ⟨rfl, rfl⟩, _, _, ⟨-, rfl⟩, inserted, _, ⟨hinsert, rfl⟩, rfl⟩ := h
  obtain ⟨rfl, -, hquantity', hversion', -⟩ := run_stockColumns hrow
  rename_i db
  have hnil := ledger_eq_nil hdb (Table.find?_of_insert? hinsert)
  constructor
  · intro s hs
    rcases (Table.mem_insert? hinsert).mp hs with hold | rfl
    · exact hdb.sound s hold
    · constructor
      · rw [hnil, hquantity', hquantity]
        rfl
      · rw [hnil]
        trivial
      · rw [hnil, hversion', hversion]
        rfl
      · rw [hquantity', hquantity]
        exact fun hne => absurd rfl hne
  · intro s hs
    rcases (Table.mem_insert? hinsert).mp hs with hold | rfl
    · exact hdb.scale s hold
    · rw [hquantity', hquantity]
      exact isDecimal_zero
  · intro m hm
    have hfound := hdb.known m hm
    obtain ⟨s, hs⟩ := Option.isSome_iff_exists.mp hfound
    rw [Table.find?_eq_some_iff] at hs
    have hs' : inserted.find? m.stock = some s :=
      Table.find?_eq_some_iff.mpr ⟨(Table.mem_insert? hinsert).mpr (.inl hs.1), hs.2⟩
    show (inserted.find? m.stock).isSome
    rw [hs']
    rfl

/-- Replacing an identity's row by one with the same balance and version, no less active unless
it is empty. -/
lemma put_keeps {db : Purchasing} (hdb : LedgerInvariant db) (stored row : Stock)
    (hstored : db.stock.find? row.id = some stored) (hquantity : row.quantity = stored.quantity)
    (hversion : row.inventoryVersion = stored.inventoryVersion)
    (hactive : row.quantity ≠ 0 → row.isActive = stored.isActive) :
    LedgerInvariant { db with stock := db.stock.put row } := by
  have hid : stored.id = row.id := Table.key_of_find? hstored
  have hmem : stored ∈ db.stock.rows := Table.mem_of_find? hstored
  constructor
  · intro s hs
    rcases Table.mem_put.mp hs with ⟨hold, -⟩ | ⟨rfl, -⟩
    · exact hdb.sound s hold
    · obtain ⟨hbalance, hchain, hcount, hon⟩ := hdb.sound stored hmem
      rw [hid] at hbalance hchain hcount
      refine ⟨hquantity.trans hbalance, hchain, hversion.trans hcount, fun hne => ?_⟩
      rw [hactive hne]
      exact hon (hquantity ▸ hne)
  · intro s hs
    rcases Table.mem_put.mp hs with ⟨hold, -⟩ | ⟨rfl, -⟩
    · exact hdb.scale s hold
    · rw [hquantity]
      exact hdb.scale stored hmem
  · intro m hm
    have hfound := hdb.known m hm
    show ((db.stock.put row).find? m.stock).isSome
    by_cases hsame : m.stock = row.id
    · rw [hsame, Table.find?_put_self hstored]
      rfl
    · rwa [Table.find?_put_of_ne hsame]

/-- **An edit of metadata** leaves the balance, the version and the activity. -/
lemma updateStock_keeps {stock : ℕ} {data : StockWriteData} :
    Keeps LedgerInvariant (updateStock stock data) := by
  intro db hdb _ db' h
  simp only [updateStock, saveStock, run_bind, run_theStock, run_write] at h
  obtain ⟨locked, _, ⟨hlocked, rfl⟩, row, _, hrow, rfl⟩ := h
  obtain ⟨rfl, hid, hquantity, hversion, hactive, -⟩ := run_stockColumns hrow
  rename_i db
  have hkey : locked.id = stock := Table.key_of_find? hlocked
  refine put_keeps hdb locked row ?_ hquantity hversion fun _ => hactive
  rw [hid]
  show db.stock.find? locked.id = some locked
  rw [hkey, hlocked]

/-- **An identity is retired** only when it is empty. -/
lemma deactivateStock_keeps {stock : ℕ} : Keeps LedgerInvariant (deactivateStock stock) := by
  intro db hdb _ db' h
  simp only [deactivateStock, run_bind, run_theStock, run_require, run_write] at h
  obtain ⟨locked, _, ⟨hlocked, rfl⟩, _, _, ⟨hempty, rfl⟩, _, _, ⟨-, rfl⟩, rfl⟩ := h
  have hkey : locked.id = stock := Table.key_of_find? hlocked
  refine put_keeps hdb locked { locked with isActive := false } ?_ rfl rfl ?_
  · show db.stock.find? locked.id = some locked
    rw [hkey, hlocked]
  · exact fun hne => absurd hempty hne

/-! ## Invariants of identities and movements -/

/-- What an invariant of identities and movements must survive for every operation to preserve
it. -/
structure StockRules (I : Purchasing → Prop) : Prop where
  elsewhere : ∀ {db db' : Purchasing}, db'.stock = db.stock → db'.movements = db.movements →
    I db → I db'
  movement : ∀ {stock : ℕ} {change : ℚ} {context : MovementContext},
    Keeps I (moveStock stock change context)
  identity : ∀ {stock : Stock}, stock.quantity = 0 → stock.inventoryVersion = 0 →
    Keeps I (insertStock stock)
  edit : ∀ {stock : ℕ} {data : StockWriteData}, Keeps I (updateStock stock data)
  retire : ∀ {stock : ℕ}, Keeps I (deactivateStock stock)

lemma ledgerInvariant_rules : StockRules LedgerInvariant where
  elsewhere hstock hmovements hdb := hdb.congr hstock hmovements
  movement := moveStock_keeps
  identity hquantity hversion := insertStock_keeps hquantity hversion
  edit := updateStock_keeps
  retire := deactivateStock_keeps

namespace StockRules

variable {I : Purchasing → Prop} (hI : StockRules I)

include hI

/-- An invariant that reads no order line survives the services that write none. -/
lemma inventory : InventoryRules I where
  elsewhere hstock hmovements _ := hI.elsewhere hstock hmovements
  movement _ := hI.movement
  identity hquantity hversion _ := hI.identity hquantity hversion
  edit := hI.edit
  retire := hI.retire

/-! ## Deliveries and order lines -/

lemma keeps_orderLines {f : Purchasing → Table PurchaseOrderLine.id} :
    Keeps I (.write fun db => { db with orderLines := f db } : PurchasingCall Unit) :=
  Keeps.write fun _ => hI.elsewhere rfl rfl

lemma createStockFromAllocation_keeps {line : PurchaseOrderLine} {allocation : MaterialAllocation}
    {staff : ℕ} : Keeps I (createStockFromAllocation line allocation staff) :=
  .bind .orRefuse fun _ => .bind .require fun _ => .bind hI.inventory.workshop.newId_keeps fun _ =>
    .bind (hI.identity rfl rfl) fun _ => .bind readOnly_theOrder.keeps fun _ =>
      .bind hI.movement fun _ => .pure

lemma createCostlineFromAllocation_keeps {po : PurchaseOrder} {line : PurchaseOrderLine} {job : Job}
    {qty retailRatePct : ℚ} {staff : ℕ} :
    Keeps I (createCostlineFromAllocation po line job qty retailRatePct staff) :=
  .bind .orRefuse fun _ => .bind hI.inventory.workshop.ensureActualCostSet_keeps fun _ =>
    .bind hI.inventory.workshop.newId_keeps fun _ => .bind .read fun _ =>
      .bind hI.inventory.workshop.onCosting_keeps fun _ =>
        .bind readOnly_stockHoldingJob.keeps fun _ =>
          .bind hI.createStockFromAllocation_keeps fun _ => .bind hI.movement fun _ => .pure

lemma receiveLine_keeps {po : PurchaseOrder} {lines : List PurchaseOrderLine} {jobs : List Job}
    {stockHoldingJobId staff : ℕ} {entry : ℕ × ReceiptLineRequest} :
    Keeps I (receiveLine po lines jobs stockHoldingJobId staff entry) := by
  refine .bind .orRefuse fun _ => .bind readOnly_validateAndPrepareAllocations.keeps fun _ =>
    .bind ?_ fun _ => .forM fun alloc _ => .ite (fun _ => ?_) fun _ => ?_
  · exact .bind .read fun _ => .bind .orRefuse fun _ => .bind readOnly_column.keeps fun _ =>
      hI.keeps_orderLines
  · exact .bind hI.createStockFromAllocation_keeps fun _ => .pure
  · exact .bind readOnly_theJob.keeps fun _ => .bind hI.createCostlineFromAllocation_keeps fun _ => .pure

lemma receiveOutstandingOrder_keeps {mirror : Mirror} {po staff : ℕ}
    {ifMatch : List PurchaseOrderETag} : Keeps I (receiveOutstandingOrder mirror po staff ifMatch) :=
  .bind readOnly_theOrder.keeps fun _ => .bind .require fun _ => .bind .read fun _ =>
    .bind readOnly_stockHoldingJob.keeps fun _ => .when fun _ =>
      hI.inventory.processDeliveryReceipt_keeps fun _ _ _ _ _ _ => hI.receiveLine_keeps

lemma reverseAllocation_keeps {po line staff : ℕ} {allocation : AllocationHandle}
    {ifMatch : List PurchaseOrderETag} :
    Keeps I (reverseAllocation po line allocation ifMatch staff) := by
  refine .bind .read fun _ => .bind .orRefuse fun _ => .bind readOnly_resolveHandle.keeps fun _ =>
    .bind .require fun _ => .bind readOnly_theOrderLine.keeps fun _ =>
      .bind readOnly_receiptOf.keeps fun _ => .bind .read fun _ => .ite (fun _ => .pure) fun _ => ?_
  refine .bind readOnly_deliveryQuantity.keeps fun _ => .bind .require fun _ => .bind ?_ fun _ =>
    .bind ?_ fun _ => .bind hI.movement fun _ =>
      .bind hI.inventory.recomputePurchaseOrderStatus_keeps fun _ => .pure
  · split
    · exact .bind hI.inventory.workshop.books.reverseIssue_keeps fun _ => .pure
    · exact .pure
  · exact .bind .read fun _ => .bind .orRefuse fun _ => .bind readOnly_column.keeps fun _ =>
      hI.keeps_orderLines

lemma writeLine_keeps {po : PurchaseOrder} {data : PurchaseOrderLineWriteData} :
    Keeps I (writeLine po data) := by
  unfold writeLine
  split
  · exact .bind hI.inventory.workshop.newId_keeps fun _ => .bind readOnly_applyLineFields.keeps fun _ =>
      .bind readOnly_lineColumns.keeps fun _ => .bind .read fun _ => .bind .orRefuse fun _ =>
        hI.keeps_orderLines
  · exact .bind .read fun _ => .bind .orRefuse fun _ => .bind readOnly_applyLineFields.keeps fun _ =>
      .bind readOnly_lineColumns.keeps fun _ => hI.keeps_orderLines

lemma deleteLines_keeps {po : PurchaseOrder} {ids : List ℕ} : Keeps I (deleteLines po ids) :=
  .bind .read fun _ => .bind .require fun _ => .forM fun _ _ => hI.keeps_orderLines

/-! ## Every run -/

/-- **Every operation** preserves an invariant of identities and movements. -/
lemma step_keeps (op : Op) : Keeps I (step op) := by
  cases op with
  | createPurchaseOrder poNumber lines =>
      exact hI.inventory.createPurchaseOrder_keeps fun _ _ => hI.writeLine_keeps
  | updatePurchaseOrder mirror po data staff ifMatch =>
      exact hI.inventory.updatePurchaseOrder_keeps (fun _ => hI.deleteLines_keeps)
        (fun _ _ => hI.writeLine_keeps) fun _ _ => hI.receiveOutstandingOrder_keeps
  | processDeliveryReceipt mirror po lineAllocations staff ifMatch =>
      exact .bind .require fun _ => hI.inventory.processDeliveryReceipt_keeps
        fun _ _ _ _ _ _ => hI.receiveLine_keeps
  | receiveOutstandingOrder mirror po staff ifMatch => exact hI.receiveOutstandingOrder_keeps
  | reverseAllocation po line allocation ifMatch staff =>
      exact .bind hI.reverseAllocation_keeps fun _ => .pure
  | _ => exact hI.inventory.workshop.step_keeps rfl

end StockRules

lemma step_keeps_ledger (op : Op) : Keeps LedgerInvariant (step op) :=
  ledgerInvariant_rules.step_keeps op

/-- Before the first stock operation: no identity and no movement. -/
def NoStock (db : Purchasing) : Prop :=
  db.stock.rows = [] ∧ db.movements.rows = []

lemma ledgerInvariant_of_noStock {db : Purchasing} (h : NoStock db) : LedgerInvariant db := by
  obtain ⟨hstock, hmovements⟩ := h
  constructor
  · intro stock hmem
    rw [hstock] at hmem
    cases hmem
  · intro stock hmem
    rw [hstock] at hmem
    cases hmem
  · intro m hmem
    rw [hmovements] at hmem
    cases hmem

/-- **The ledger of every reachable state.**  From a state without stock, whatever is asked and
whatever is refused: each stock row's quantity is the sum of its movements' changes, the movements
chain from zero in the order of posting, the version counts them, and a row with a balance is
active. -/
theorem ledger_sound_of_reachable (db : Purchasing) (h : Reachable step NoStock db) :
    LedgerSound db :=
  (h.keeps (fun _ => ledgerInvariant_of_noStock) step_keeps_ledger).sound

/-- A workshop with a job to charge, an order of six bars at 12.50, and no stock. -/
def newWorkshop : Purchasing where
  costing :=
    { jobs := ⟨[⟨1, "Worker Admin", 1, true, none⟩, ⟨2, "Gate", 2, false, none⟩], by decide⟩
      costSets := Table.empty
      lines := Table.empty
      leaveTypes := Table.empty }
  stock := Table.empty
  movements := Table.empty
  orders := ⟨[⟨3, "PO-0001", .submitted, false, 5⟩], by decide⟩
  orderLines := ⟨[⟨4, 3, none, "Flat bar", 6, some (25 / 2), false, none, 0, none, none, none,
    none, none⟩], by decide⟩
  stocktakes := Table.empty
  stocktakeLines := Table.empty
  adjustmentJob := none
  materialsMarkup := 1 / 5
  today := 0
  fresh := 10

/-- A receipt of some bars to stock and some to the job. -/
def sampleReceipt : LineAllocations :=
  ⟨[(4, ⟨5, [⟨1, 3, none, []⟩, ⟨2, 2, none, []⟩]⟩)], by decide⟩

/-- Five bars are received, three to stock and two to the job; four more than there are are
issued from stock, and a retirement is refused: two identities, one empty and one below zero. -/
theorem ledger_sound_after_a_receipt :
    let db := serveAll step newWorkshop
      [.processDeliveryReceipt (fun _ => .acknowledged) 3 sampleReceipt 9 [(3, 5)],
        .consumeStock 10 2 7 9 none none, .deactivateStock 10]
    LedgerSound db ∧
      db.stock.rows.map (fun stock => (stock.quantity, stock.inventoryVersion)) =
        [(-4, 2), (0, 2)] :=
  ⟨ledger_sound_of_reachable _ (reachable_serveAll ⟨rfl, rfl⟩ _), by decide +kernel⟩

end Purchasing

end Docketworks
