import Docketworks.Purchasing.SupplierRuns

/-!
# The status of an order

An order's status is derived from what its lines have ordered and received, on a receipt, on a
reversal and on an update that writes lines.  An update that writes none stores the status it
names, whatever the lines say; this is how an order is drafted, submitted and deleted.

* `derivedStatus` — what `recomputePurchaseOrderStatus` stores; `run_recompute` says so.
* `StatusFollows po` — an order with something received has the derived status.
* `Beside po I` — `I` reads no line of the order `po`.  What a call on `po` does to another order's
  status, and what it leaves of the order rows until it settles them, are both of this form.
* `SettlesStatus` — the condition on an update; `status_follows_of_run` — every run that meets it.
-/

namespace Docketworks

open Library Library.Transaction

namespace Purchasing

/-! ## The derived status -/

/-- Something was received on the order. -/
def Received (lines : Table PurchaseOrderLine.id) (po : ℕ) : Prop :=
  ∃ line ∈ lines.rows, line.purchaseOrder = po ∧ 0 < line.receivedQuantity

instance (lines : Table PurchaseOrderLine.id) (po : ℕ) : Decidable (Received lines po) :=
  inferInstanceAs (Decidable (∃ _ ∈ _, _))

/-- Something is still to come on the order. -/
def Outstanding (lines : Table PurchaseOrderLine.id) (po : ℕ) : Prop :=
  ∃ line ∈ lines.rows, line.purchaseOrder = po ∧ line.receivedQuantity < line.quantity

instance (lines : Table PurchaseOrderLine.id) (po : ℕ) : Decidable (Outstanding lines po) :=
  inferInstanceAs (Decidable (∃ _ ∈ _, _))

/-- The status the lines of an order say. -/
def derivedStatus (lines : Table PurchaseOrderLine.id) (po : PurchaseOrder) : PurchaseOrderStatus :=
  if ¬Received lines po.id then
    if po.status = .deleted then .deleted else .submitted
  else if Outstanding lines po.id then .partiallyReceived
  else .fullyReceived

/-- An order with something received has the status its lines say. -/
def StatusFollows (po : ℕ) (db : Purchasing) : Prop :=
  Received db.orderLines po →
    ∃ order ∈ db.orders.find? po, order.status = derivedStatus db.orderLines order

instance (po : ℕ) (db : Purchasing) : Decidable (StatusFollows po db) :=
  inferInstanceAs (Decidable (_ → _))

/-- **What the recomputation does**: it stores the derived status and nothing else of the order,
beside the push it may owe and its stamp. -/
lemma run_recompute {po saved : PurchaseOrder} {db db' : Purchasing}
    (h : (recomputePurchaseOrderStatus po).run db = .ok (saved, db')) :
    saved.id = po.id ∧ saved.status = derivedStatus db.orderLines po ∧
      db'.orders = db.orders.put saved ∧ db'.orderLines = db.orderLines := by
  simp only [recomputePurchaseOrderStatus, run_bind, run_read, run_newId, run_write, run_pure] at h
  obtain ⟨_, _, ⟨rfl, rfl⟩, stamp, _, ⟨-, rfl⟩, _, _, hput, hsaved, rfl⟩ := h
  rw [hsaved] at hput
  subst hput
  have hreceived : (∃ line ∈ db.orderLines.rows.filter fun line => line.purchaseOrder = po.id,
      0 < line.receivedQuantity) ↔ Received db.orderLines po.id := by
    simp [Received, and_assoc]
  have houtstanding : (∃ line ∈ db.orderLines.rows.filter fun line => line.purchaseOrder = po.id,
      line.receivedQuantity < line.quantity) ↔ Outstanding db.orderLines po.id := by
    simp [Outstanding, and_assoc]
  simp only [hreceived, houtstanding] at hsaved
  change (if derivedStatus db.orderLines po ≠ po.status then _ else _) = saved at hsaved
  refine ⟨?_, ?_, rfl, rfl⟩
  · rw [← hsaved]
    split <;> rfl
  · rw [← hsaved]
    split
    · rfl
    · rename_i hsame
      exact (not_not.mp hsame).symm

/-! ## Calls beside an order's lines -/

/-- `I` reads no line of the order `po`. -/
def Beside (po : ℕ) (I : Purchasing → Prop) : Prop :=
  ∀ db db' : Purchasing, db'.orders = db.orders →
    (∀ line : PurchaseOrderLine, line.purchaseOrder ≠ po →
      (line ∈ db'.orderLines.rows ↔ line ∈ db.orderLines.rows)) → I db → I db'

/-- The lines under these keys belong to the order. -/
def Owns (po : ℕ) (ids : List ℕ) (db : Purchasing) : Prop :=
  ∀ line ∈ db.orderLines.rows, line.id ∈ ids → line.purchaseOrder = po

lemma beside_owns {po : ℕ} {ids : List ℕ} : Beside po (Owns po ids) := by
  intro db db' _ hlines hdb line hline hid
  by_contra hother
  exact hother (hdb line ((hlines line hother).mp hline) hid)

lemma beside_orders {po : ℕ} {orders : Table PurchaseOrder.id} :
    Beside po fun db => db.orders = orders :=
  fun _ _ horders _ hdb => horders.trans hdb

lemma statusFollows_congr {po : ℕ} {db db' : Purchasing} (horders : db'.orders.find? po = db.orders.find? po)
    (hlines : ∀ line : PurchaseOrderLine, line.purchaseOrder = po →
      (line ∈ db'.orderLines.rows ↔ line ∈ db.orderLines.rows))
    (hdb : StatusFollows po db) : StatusFollows po db' := by
  have hreceived : Received db'.orderLines po ↔ Received db.orderLines po :=
    exists_congr fun line => and_congr_left fun h => hlines line h.1
  have houtstanding : Outstanding db'.orderLines po ↔ Outstanding db.orderLines po :=
    exists_congr fun line => and_congr_left fun h => hlines line h.1
  intro h
  obtain ⟨order, hfound, hstatus⟩ := hdb (hreceived.mp h)
  have hid : order.id = po := Table.key_of_find? hfound
  refine ⟨order, horders ▸ hfound, ?_⟩
  rw [hstatus]
  subst hid
  simp only [derivedStatus, hreceived, houtstanding]

lemma beside_statusFollows {po other : ℕ} (h : other ≠ po) : Beside po (StatusFollows other) :=
  fun _ _ horders hlines => statusFollows_congr (by rw [horders]) fun line hline =>
    hlines line (hline ▸ h)

namespace Beside

variable {po : ℕ} {I J : Purchasing → Prop}

lemma and (hI : Beside po I) (hJ : Beside po J) : Beside po fun db => I db ∧ J db :=
  fun _ _ horders hlines h => ⟨hI _ _ horders hlines h.1, hJ _ _ horders hlines h.2⟩

variable (hI : Beside po I)

include hI

lemma moveStock_keeps {stock : ℕ} {change : ℚ} {context : MovementContext} :
    Keeps I (moveStock stock change context) := by
  intro db hdb row db' h
  obtain ⟨locked, movements, -, -, -, -, -, -, -, -, -, -, -, rfl⟩ := run_moveStock h
  exact hI db _ rfl (fun _ _ => Iff.rfl) hdb

lemma keeps_write {f : Purchasing → Purchasing} (horders : ∀ db, (f db).orders = db.orders)
    (hlines : ∀ db, (f db).orderLines = db.orderLines) :
    Keeps I (Transaction.write f : PurchasingCall Unit) :=
  Keeps.write fun db => hI db _ (horders db) fun _ _ => by rw [hlines db]

lemma insertStock_keeps {stock : Stock} : Keeps I (insertStock stock) :=
  .bind readOnly_stockColumns.keeps fun _ => .bind .read fun _ => .bind .require fun _ =>
    .bind .orRefuse fun _ => hI.keeps_write (fun _ => rfl) fun _ => rfl

lemma workshop : WorkshopRules I where
  elsewhere _ _ horders hlines := hI _ _ horders fun _ _ => by rw [hlines]
  movement _ := hI.moveStock_keeps
  identity _ _ _ := hI.insertStock_keeps
  edit := .bind readOnly_theStock.keeps fun _ => .bind readOnly_stockColumns.keeps fun _ =>
    hI.keeps_write (fun _ => rfl) fun _ => rfl
  retire := .bind readOnly_theStock.keeps fun _ => .bind .require fun _ => .bind .require fun _ =>
    hI.keeps_write (fun _ => rfl) fun _ => rfl

/-! ### The order's lines -/

lemma putLine {db : Purchasing} {stored row : PurchaseOrderLine}
    (hstored : db.orderLines.find? row.id = some stored) (hown : stored.purchaseOrder = po)
    (hrow : row.purchaseOrder = po) (hdb : I db) :
    I { db with orderLines := db.orderLines.put row } := by
  have hid : stored.id = row.id := Table.key_of_find? hstored
  refine hI db _ rfl (fun line hother => ?_) hdb
  show line ∈ (db.orderLines.put row).rows ↔ _
  rw [Table.mem_put]
  constructor
  · rintro (⟨hline, -⟩ | ⟨rfl, -⟩)
    · exact hline
    · exact absurd hrow hother
  · refine fun hline => .inl ⟨hline, fun heq => hother ?_⟩
    rw [Table.eq_of_key_eq hline (Table.mem_of_find? hstored) (heq.trans hid.symm), hown]

lemma insertLine {db : Purchasing} {row : PurchaseOrderLine} {lines : Table PurchaseOrderLine.id}
    (hinsert : db.orderLines.insert? row = some lines) (hrow : row.purchaseOrder = po) (hdb : I db) :
    I { db with orderLines := lines } := by
  refine hI db _ rfl (fun line hother => ?_) hdb
  show line ∈ lines.rows ↔ _
  rw [Table.mem_insert? hinsert]
  constructor
  · rintro (hline | rfl)
    · exact hline
    · exact absurd hrow hother
  · exact .inl

lemma eraseLine {db : Purchasing} {id : ℕ} (hown : Owns po [id] db) (hdb : I db) :
    I { db with orderLines := db.orderLines.erase id } := by
  refine hI db _ rfl (fun line hother => ?_) hdb
  show line ∈ (db.orderLines.erase id).rows ↔ _
  rw [Table.mem_erase]
  refine ⟨And.left, fun hline => ⟨hline, fun heq => hother ?_⟩⟩
  exact hown line hline (List.mem_singleton.mpr heq)

/-! ### Receiving and writing lines -/

lemma createStockFromAllocation_keeps {line : PurchaseOrderLine} {allocation : MaterialAllocation}
    {staff : ℕ} : Keeps I (createStockFromAllocation line allocation staff) :=
  .bind .orRefuse fun _ => .bind .require fun _ => .bind hI.workshop.newId_keeps fun _ =>
    .bind hI.insertStock_keeps fun _ => .bind readOnly_theOrder.keeps fun _ =>
      .bind hI.moveStock_keeps fun _ => .pure

lemma createCostlineFromAllocation_keeps {order : PurchaseOrder} {line : PurchaseOrderLine}
    {job : Job} {qty retailRatePct : ℚ} {staff : ℕ} :
    Keeps I (createCostlineFromAllocation order line job qty retailRatePct staff) :=
  .bind .orRefuse fun _ => .bind hI.workshop.ensureActualCostSet_keeps fun _ =>
    .bind hI.workshop.newId_keeps fun _ => .bind .read fun _ =>
      .bind hI.workshop.onCosting_keeps fun _ => .bind readOnly_stockHoldingJob.keeps fun _ =>
        .bind hI.createStockFromAllocation_keeps fun _ => .bind hI.moveStock_keeps fun _ => .pure

lemma addReceived_keeps {ids : List ℕ} {line : ℕ} {total : ℚ} (hline : line ∈ ids) :
    Keeps (fun db => I db ∧ Owns po ids db) (addReceived line total) := by
  intro db hdb _ db' h
  simp only [addReceived, run_bind, run_read, run_orRefuse, run_column, run_write] at h
  obtain ⟨_, _, ⟨rfl, rfl⟩, stored, _, ⟨hstored, rfl⟩, _, _, ⟨-, rfl, rfl⟩, rfl⟩ := h
  have hid : stored.id = line := Table.key_of_find? hstored
  have hown : stored.purchaseOrder = po := hdb.2 stored (Table.mem_of_find? hstored) (hid ▸ hline)
  subst hid
  exact (hI.and beside_owns).putLine hstored hown hown hdb

lemma decrementReceived_keeps {ids : List ℕ} {line : ℕ} {quantity : ℚ} (hline : line ∈ ids) :
    Keeps (fun db => I db ∧ Owns po ids db) (decrementReceived line quantity) := by
  intro db hdb _ db' h
  simp only [decrementReceived, run_bind, run_read, run_orRefuse, run_column, run_write] at h
  obtain ⟨_, _, ⟨rfl, rfl⟩, stored, _, ⟨hstored, rfl⟩, _, _, ⟨-, rfl, rfl⟩, rfl⟩ := h
  obtain ⟨hfound, -⟩ := Option.filter_eq_some_iff.mp hstored
  have hid : stored.id = line := Table.key_of_find? hfound
  have hown : stored.purchaseOrder = po := hdb.2 stored (Table.mem_of_find? hfound) (hid ▸ hline)
  subst hid
  exact (hI.and beside_owns).putLine hfound hown hown hdb

/-- **A pass of a receipt** writes the lines it names. -/
lemma receiveLine_keeps {order : PurchaseOrder} {lines : List PurchaseOrderLine} {jobs : List Job}
    {stockHoldingJobId staff : ℕ} {entry : ℕ × ReceiptLineRequest} :
    Keeps (fun db => I db ∧ Owns po (lines.map PurchaseOrderLine.id) db)
      (receiveLine order lines jobs stockHoldingJobId staff entry) := by
  have hboth : Beside po fun db => I db ∧ Owns po (lines.map PurchaseOrderLine.id) db :=
    hI.and beside_owns
  intro db hdb u db' h
  obtain ⟨line, _, hfind, hrest⟩ := run_bind.mp h
  obtain ⟨hfound, rfl⟩ := run_orRefuse.mp hfind
  have hline : line.id ∈ lines.map PurchaseOrderLine.id :=
    List.mem_map_of_mem (List.mem_of_find?_eq_some hfound)
  refine (Keeps.bind readOnly_validateAndPrepareAllocations.keeps fun _ =>
    .bind (hI.addReceived_keeps hline) fun _ => .forM fun alloc _ => .ite (fun _ => ?_) fun _ => ?_)
    _ hdb u db' hrest
  · exact .bind hboth.createStockFromAllocation_keeps fun _ => .pure
  · exact .bind readOnly_theJob.keeps fun _ => .bind hboth.createCostlineFromAllocation_keeps
      fun _ => .pure

/-- **A line write** writes a line of the order. -/
lemma writeLine_keeps {order : PurchaseOrder} {data : PurchaseOrderLineWriteData}
    (horder : order.id = po) : Keeps I (writeLine order data) := by
  intro db hdb _ db' h
  unfold writeLine at h
  split at h
  · simp only [run_bind, run_newId, run_read, run_orRefuse, run_write] at h
    obtain ⟨id, _, ⟨-, rfl⟩, asked, _, happly, row, _, hcolumns, _, _, ⟨rfl, rfl⟩, lines, _,
      ⟨hinsert, rfl⟩, rfl⟩ := h
    obtain ⟨rfl, -, hrow, -⟩ := run_lineFields happly hcolumns
    exact hI.insertLine hinsert (hrow.trans horder) (hI db _ rfl (fun _ _ => Iff.rfl) hdb)
  · simp only [run_bind, run_read, run_orRefuse, run_write] at h
    obtain ⟨_, _, ⟨rfl, rfl⟩, stored, _, ⟨hstored, rfl⟩, asked, _, happly, row, _, hcolumns, rfl⟩ := h
    obtain ⟨rfl, hid, hrow, -⟩ := run_lineFields happly hcolumns
    obtain ⟨hfound, howner⟩ := Option.filter_eq_some_iff.mp hstored
    have hown : stored.purchaseOrder = po := (of_decide_eq_true howner).trans horder
    have hkey := Table.key_of_find? hfound
    exact hI.putLine (by rw [hid, hkey]; exact hfound) hown (hrow.trans hown) hdb

lemma writeLines_keeps {order : PurchaseOrder} {lines : List PurchaseOrderLineWriteData}
    (horder : order.id = po) : Keeps I (writeLines order lines) :=
  .forM fun _ _ => hI.writeLine_keeps horder

/-- **Lines are deleted** from the order alone. -/
lemma deleteLines_keeps {order : PurchaseOrder} {ids : List ℕ} (horder : order.id = po) :
    Keeps I (deleteLines order ids) := by
  intro db hdb u db' h
  simp only [deleteLines, run_bind, run_read, run_require] at h
  obtain ⟨_, _, ⟨rfl, rfl⟩, _, _, ⟨-, rfl⟩, hloop⟩ := h
  -- a pass before may have removed the line already: what is left under its key is the order's
  refine (Keeps.forM (I := fun t => I t ∧ ∀ line ∈ t.orderLines.rows, line ∈ db.orderLines.rows)
    (fun line hline => Keeps.write fun t ht => ?_) db ⟨hdb, fun _ => id⟩ u db' hloop).1
  obtain ⟨hmem, hdoomed⟩ := List.mem_filter.mp hline
  have hown : line.purchaseOrder = po :=
    (of_decide_eq_true (Bool.and_eq_true_iff.mp hdoomed).2).trans horder
  refine ⟨hI.eraseLine (fun other hother hid => ?_) ht.1, fun other hother => ?_⟩
  · rw [Table.eq_of_key_eq (ht.2 other hother) hmem (List.mem_singleton.mp hid), hown]
  · exact ht.2 other (Table.mem_erase.mp hother).1

end Beside

/-! ## Writing an order's row -/

lemma statusFollows_putOther {po : ℕ} {db : Purchasing} {row : PurchaseOrder} (h : po ≠ row.id)
    (hdb : StatusFollows po db) : StatusFollows po { db with orders := db.orders.put row } :=
  statusFollows_congr (Table.find?_put_of_ne h) (fun _ _ => Iff.rfl) hdb

lemma statusFollows_putSame {po : ℕ} {db : Purchasing} {stored row : PurchaseOrder}
    (hstored : db.orders.find? row.id = some stored) (hstatus : row.status = stored.status)
    (hdb : StatusFollows po db) : StatusFollows po { db with orders := db.orders.put row } := by
  by_cases hpo : po = row.id
  · subst hpo
    have hid : stored.id = row.id := Table.key_of_find? hstored
    intro hreceived
    obtain ⟨order, hfound, hfollows⟩ := hdb hreceived
    obtain rfl : order = stored := Option.some.inj (hfound.symm.trans hstored)
    refine ⟨row, Table.find?_put_self hstored, ?_⟩
    show row.status = derivedStatus db.orderLines row
    rw [hstatus, hfollows]
    simp only [derivedStatus, hid, hstatus]
  · exact statusFollows_putOther hpo hdb

lemma sendStateChange_follows {po : ℕ} {mirror : Mirror} {order : PurchaseOrder} :
    Keeps (StatusFollows po) (sendStateChange mirror order) := by
  intro db hdb u db' h
  simp only [sendStateChange, theOrder, run_bind, run_read, run_orRefuse, run_when, run_require,
    run_write] at h
  obtain ⟨row, _, ⟨_, _, ⟨rfl, rfl⟩, hrow, rfl⟩, h⟩ := h
  rcases h with ⟨-, _, _, ⟨-, rfl⟩, ⟨-, rfl⟩ | ⟨-, rfl⟩⟩ | ⟨-, rfl⟩
  · have hid : row.id = order.id := Table.key_of_find? hrow
    rw [← hid] at hrow
    exact statusFollows_putSame hrow rfl hdb
  · exact hdb
  · exact hdb

/-- A call on the order `po` has written no order's row yet, and the status of `other`, if that is
another order, follows its lines. -/
def Unsettled (po other : ℕ) (orders : Table PurchaseOrder.id) (db : Purchasing) : Prop :=
  db.orders = orders ∧ (other = po ∨ StatusFollows other db)

lemma beside_unsettled {po other : ℕ} {orders : Table PurchaseOrder.id} :
    Beside po (Unsettled po other orders) := by
  rintro db db' horders hlines ⟨hsame, hother⟩
  refine ⟨horders.trans hsame, ?_⟩
  by_cases h : other = po
  · exact .inl h
  · exact .inr (beside_statusFollows h db db' horders hlines (hother.resolve_left h))

/-- **The recomputation settles** the order's status, and no other's is touched. -/
lemma recompute_follows {order saved : PurchaseOrder} {other : ℕ} {db db' : Purchasing}
    (hstored : (db.orders.find? order.id).isSome)
    (hother : other = order.id ∨ StatusFollows other db)
    (h : (recomputePurchaseOrderStatus order).run db = .ok (saved, db')) :
    StatusFollows other db' := by
  obtain ⟨hid, hstatus, horders, hlines⟩ := run_recompute h
  by_cases hself : other = order.id
  · obtain ⟨stored, hfound⟩ := Option.isSome_iff_exists.mp hstored
    subst hself
    intro hreceived
    refine ⟨saved, ?_, ?_⟩
    · rw [horders, ← hid]
      exact Table.find?_put_self (hid ▸ hfound)
    · rw [hlines] at hreceived
      rw [hstatus, hlines]
      simp only [derivedStatus, hid, hreceived, not_true, if_false]
  · refine statusFollows_congr ?_ (fun _ _ => by rw [hlines]) (hother.resolve_left hself)
    rw [horders, Table.find?_put_of_ne (hid ▸ hself)]

/-! ## Receipts and reversals -/

/-- **A receipt settles** its order, and leaves the status of every other as its lines say. -/
lemma processDeliveryReceipt_follows {mirror : Mirror} {po other staff : ℕ}
    {lineAllocations : LineAllocations} {ifMatch : List PurchaseOrderETag} {u : Unit}
    {db db' : Purchasing} (hother : other = po ∨ StatusFollows other db)
    (h : (processDeliveryReceipt mirror po lineAllocations staff ifMatch).run db = .ok (u, db')) :
    StatusFollows other db' := by
  simp only [processDeliveryReceipt, loadPoAndLines, requireCurrentEtag, run_bind, run_read,
    run_orRefuse, run_require, run_pure] at h
  obtain ⟨⟨order, lines⟩, _, ⟨_, _, ⟨rfl, rfl⟩, order', _, ⟨horder, rfl⟩, _, _, ⟨-, rfl⟩, heq, rfl⟩,
    _, _, ⟨-, rfl⟩, _, _, ⟨-, rfl⟩, holding, db, hholding, jobs, _, hjobs, _, t, hloop, saved, t',
    hrecompute, hsend⟩ := h
  obtain ⟨rfl, rfl⟩ : order' = order ∧ _ = lines := Prod.mk.inj heq
  obtain rfl := readOnly_stockHoldingJob _ _ _ hholding
  have hid : order'.id = po := Table.key_of_find? horder
  simp only [loadJobs, run_bind, run_read, run_require, run_pure] at hjobs
  obtain ⟨_, _, ⟨rfl, rfl⟩, _, _, ⟨-, rfl⟩, -, rfl⟩ := hjobs
  subst hid
  -- no line of the receipt is another order's, whatever the passes before it wrote
  have hown : Owns order'.id ((db.orderLines.rows.filter fun line =>
      line.id ∈ lineAllocations.rows.map Prod.fst && line.purchaseOrder = order'.id).map
        PurchaseOrderLine.id) db := by
    intro line hline hmem
    obtain ⟨mine, hmine, hkey⟩ := List.mem_map.mp hmem
    obtain ⟨hrow, hkept⟩ := List.mem_filter.mp hmine
    rw [Table.eq_of_key_eq hline hrow hkey.symm]
    exact of_decide_eq_true (Bool.and_eq_true_iff.mp hkept).2
  obtain ⟨⟨horders, hsettle⟩, -⟩ := Keeps.forM (fun _ _ => beside_unsettled.receiveLine_keeps) db
    ⟨⟨rfl, hother⟩, hown⟩ _ t hloop
  have hsaved := recompute_follows (by rw [horders, horder]; rfl) hsettle hrecompute
  exact (Keeps.when fun _ => sendStateChange_follows) t' hsaved u db' hsend

lemma receiveOutstandingOrder_follows {mirror : Mirror} {po staff : ℕ}
    {ifMatch : List PurchaseOrderETag} {u : Unit} {db db' : Purchasing}
    (h : (receiveOutstandingOrder mirror po staff ifMatch).run db = .ok (u, db')) (other : ℕ) :
    (other ≠ po → StatusFollows other db → StatusFollows other db') ∧
      (StatusFollows po db' ∨ db' = db ∧ ¬Outstanding db.orderLines po) := by
  simp only [receiveOutstandingOrder, requireCurrentEtag, run_bind, run_read, run_require,
    run_when] at h
  obtain ⟨order, _, horder, _, _, ⟨-, rfl⟩, _, _, ⟨rfl, rfl⟩, holding, _, hholding, h⟩ := h
  simp only [theOrder, run_bind, run_read, run_orRefuse] at horder
  obtain ⟨_, _, ⟨rfl, rfl⟩, hfound, rfl⟩ := horder
  obtain rfl := readOnly_stockHoldingJob _ _ _ hholding
  have hid : order.id = po := Table.key_of_find? hfound
  rw [hid] at h
  rcases h with ⟨-, hreceipt⟩ | ⟨hnothing, rfl⟩
  · exact ⟨fun _ hdb => processDeliveryReceipt_follows (.inr hdb) hreceipt,
      .inl (processDeliveryReceipt_follows (.inl rfl) hreceipt)⟩
  · rename_i db
    refine ⟨fun _ hdb => hdb, .inr ⟨rfl, ?_⟩⟩
    rintro ⟨line, hline, hpo, hless⟩
    have hempty := List.map_eq_nil_iff.mp (not_not.mp hnothing)
    have hmem : line ∈ db.orderLines.rows.filter fun line =>
        line.purchaseOrder = po && line.receivedQuantity < line.quantity :=
      List.mem_filter.mpr ⟨hline, by simp [hpo, hless]⟩
    rw [hempty] at hmem
    cases hmem

/-- **A reversal settles** its order. -/
lemma reverseAllocation_follows {po line staff other : ℕ} {allocation : AllocationHandle}
    {ifMatch : List PurchaseOrderETag} :
    Keeps (StatusFollows other) (reverseAllocation po line allocation ifMatch staff) := by
  intro db hdb result db' h
  simp only [reverseAllocation, run_bind, run_read, run_orRefuse, run_require] at h
  obtain ⟨_, _, ⟨rfl, rfl⟩, order, _, ⟨horder, rfl⟩, ⟨stock, charge?⟩, _, hhandle, _, _, ⟨-, rfl⟩,
    poLine, _, hline, receipt, _, hreceipt, _, _, ⟨rfl, rfl⟩, h⟩ := h
  obtain rfl := readOnly_resolveHandle _ _ _ hhandle
  obtain rfl := readOnly_receiptOf _ _ _ hreceipt
  simp only [theOrderLine, run_bind, run_read, run_orRefuse] at hline
  obtain ⟨_, _, ⟨rfl, rfl⟩, hfound, rfl⟩ := hline
  obtain ⟨hpoLine, hmine⟩ := Option.filter_eq_some_iff.mp hfound
  simp only [run_ite, run_bind, run_pure] at h
  rcases h with ⟨-, -, rfl⟩ | ⟨-, quantity, _, hquantity, _, db, htag, _, t, hcharge, _, t₁,
    hdecrement, _, t₂, hmove, _, _, hstatus, -, rfl⟩
  · exact hdb
  obtain rfl := readOnly_deliveryQuantity _ _ _ hquantity
  obtain rfl := ReadOnly.require _ _ _ htag
  have hid : order.id = po := Table.key_of_find? horder
  have hkey : poLine.id = line := Table.key_of_find? hpoLine
  have hown : Owns order.id [line] db := by
    intro other hother hmem
    rw [Table.eq_of_key_eq hother (Table.mem_of_find? hpoLine)
      ((List.mem_singleton.mp hmem).trans hkey.symm)]
    exact of_decide_eq_true hmine
  have hboth : Beside order.id fun s => Unsettled order.id other db.orders s ∧ Owns order.id [line] s :=
    beside_unsettled.and beside_owns
  have hcharged : Unsettled order.id other db.orders t ∧ Owns order.id [line] t := by
    rcases charge? with _ | ⟨costLine, issue⟩
    · obtain ⟨-, rfl⟩ := run_pure.mp hcharge
      exact ⟨⟨rfl, .inr hdb⟩, hown⟩
    · exact (Keeps.bind hboth.workshop.books.reverseIssue_keeps fun _ => .pure) db
        ⟨⟨rfl, .inr hdb⟩, hown⟩ _ _ hcharge
  have hlowered := beside_unsettled.decrementReceived_keeps
    (by rw [hkey]; exact List.mem_singleton_self line) t hcharged _ _ hdecrement
  obtain ⟨⟨horders, hsettle⟩, -⟩ := hboth.moveStock_keeps t₁ hlowered _ _ hmove
  exact recompute_follows (by rw [horders, hid, horder]; rfl) hsettle hstatus

/-! ## Creating and updating orders -/

lemma writeLine_received {order : PurchaseOrder} {data : PurchaseOrderLineWriteData} {po : ℕ} :
    Keeps (fun db => ¬Received db.orderLines po) (writeLine order data) := by
  intro db hdb _ db' h
  unfold writeLine at h
  split at h
  · simp only [run_bind, run_newId, run_read, run_orRefuse, run_write] at h
    obtain ⟨id, _, ⟨-, rfl⟩, asked, _, happly, row, _, hcolumns, _, _, ⟨rfl, rfl⟩, lines, _,
      ⟨hinsert, rfl⟩, rfl⟩ := h
    obtain ⟨rfl, -, -, hreceived, -⟩ := run_lineFields happly hcolumns
    rintro ⟨line, hline, hpo, hpos⟩
    rcases (Table.mem_insert? hinsert).mp hline with hold | rfl
    · exact hdb ⟨line, hold, hpo, hpos⟩
    · rw [hreceived] at hpos
      exact lt_irrefl _ hpos
  · simp only [run_bind, run_read, run_orRefuse, run_write] at h
    obtain ⟨_, _, ⟨rfl, rfl⟩, stored, _, ⟨hstored, rfl⟩, asked, _, happly, row, _, hcolumns, rfl⟩ := h
    obtain ⟨rfl, -, hrow, hreceived, -⟩ := run_lineFields happly hcolumns
    obtain ⟨hfound, -⟩ := Option.filter_eq_some_iff.mp hstored
    rintro ⟨line, hline, hpo, hpos⟩
    rcases Table.mem_put.mp hline with ⟨hold, -⟩ | ⟨rfl, -⟩
    · exact hdb ⟨line, hold, hpo, hpos⟩
    · exact hdb ⟨stored, Table.mem_of_find? hfound, hrow ▸ hpo, hreceived ▸ hpos⟩

lemma writeLines_received {order : PurchaseOrder} {lines : List PurchaseOrderLineWriteData} {po : ℕ} :
    Keeps (fun db => ¬Received db.orderLines po) (writeLines order lines) :=
  .forM fun _ _ => writeLine_received

/-- **A new order** has received nothing. -/
lemma createPurchaseOrder_follows {poNumber : String} {lines : List PurchaseOrderLineWriteData}
    {other : ℕ} : Keeps (StatusFollows other) (createPurchaseOrder poNumber lines) := by
  intro db hdb u db' h
  simp only [createPurchaseOrder, run_bind, run_read, run_require, run_newId, run_orRefuse,
    run_write] at h
  obtain ⟨_, _, ⟨rfl, rfl⟩, _, _, ⟨-, rfl⟩, id, _, ⟨rfl, rfl⟩, stamp, _, ⟨rfl, rfl⟩, inserted, _,
    ⟨hinsert, rfl⟩, _, _, rfl, hlines⟩ := h
  by_cases hother : other = db.fresh
  · subst hother
    have habsent : db.orders.find? db.fresh = none := Table.find?_of_insert? hinsert
    have hnothing : ¬Received db.orderLines db.fresh := by
      intro hreceived
      obtain ⟨order, hfound, -⟩ := hdb hreceived
      rw [habsent] at hfound
      cases hfound
    refine fun hreceived => absurd hreceived (writeLines_received _ ?_ u db' hlines)
    exact hnothing
  · refine (beside_statusFollows hother).writeLines_keeps rfl _ ?_ u db' hlines
    exact statusFollows_congr (Table.find?_insert?_of_ne hinsert hother) (fun _ _ => Iff.rfl) hdb

lemma run_deleteLines {order : PurchaseOrder} {ids : List ℕ} {u : Unit} {db db' : Purchasing}
    (h : (deleteLines order ids).run db = .ok (u, db')) :
    db'.orders = db.orders ∧ (∀ line ∈ db'.orderLines.rows, line ∈ db.orderLines.rows) ∧
      (ids = [] → db' = db) := by
  simp only [deleteLines, run_bind, run_read, run_require] at h
  obtain ⟨_, db, ⟨rfl, rfl⟩, _, _, ⟨-, rfl⟩, hloop⟩ := h
  have hkept : db'.orders = db.orders ∧ ∀ line ∈ db'.orderLines.rows, line ∈ db.orderLines.rows := by
    refine Keeps.forM (I := fun t => t.orders = db.orders ∧
      ∀ line ∈ t.orderLines.rows, line ∈ db.orderLines.rows) (fun line _ => ?_) db
      ⟨rfl, fun _ => id⟩ u db' hloop
    refine Keeps.write fun t ht => ⟨ht.1, fun other hother => ?_⟩
    exact ht.2 other (Table.mem_erase.mp hother).1
  refine ⟨hkept.1, hkept.2, ?_⟩
  rintro rfl
  simp only [List.not_mem_nil, decide_false, Bool.false_and, List.filter_false] at hloop
  exact (run_forM_nil.mp hloop).symm

/-- **The condition** on an update of the order `po`.  It asks for a full receipt, or writes lines,
or comes before the first receipt; or it deletes no line and leaves the status as it is. -/
def SettlesStatus (po : ℕ) (db : Purchasing) : Op → Prop
  | .updatePurchaseOrder _ id data _ _ =>
      id = po → data.status = some .fullyReceived ∨ data.lines.isSome ∨
        ¬Received db.orderLines po ∨
        (data.linesToDelete = [] ∧
          ∀ order ∈ db.orders.find? po, data.status.getD order.status = order.status)
  | _ => True

instance (po : ℕ) (db : Purchasing) : (op : Op) → Decidable (SettlesStatus po db op)
  | .updatePurchaseOrder .. => inferInstanceAs (Decidable (_ → _))
  | .createStock .. | .updateStock .. | .deactivateStock .. | .consumeStock ..
  | .approveCostLine .. | .reverseIssue .. | .createPurchaseOrder .. | .processDeliveryReceipt ..
  | .receiveOutstandingOrder .. | .reverseAllocation .. | .createStocktake .. | .saveStocktake ..
  | .postStocktake .. | .correctStocktake .. | .costing .. | .newDay .. => .isTrue trivial

/-- **An update** settles its order under the condition, and touches no other's status. -/
lemma updatePurchaseOrder_follows {mirror : Mirror} {po staff other : ℕ}
    {data : PurchaseOrderUpdateData} {ifMatch : List PurchaseOrderETag} {u : Unit}
    {db db' : Purchasing} (hdb : StatusFollows other db)
    (hop : SettlesStatus other db (.updatePurchaseOrder mirror po data staff ifMatch))
    (h : (updatePurchaseOrder mirror po data staff ifMatch).run db = .ok (u, db')) :
    StatusFollows other db' := by
  unfold updatePurchaseOrder at h
  obtain ⟨order, _, horder, hrest⟩ := run_bind.mp h
  simp only [theOrder, run_bind, run_read, run_orRefuse] at horder
  obtain ⟨_, _, ⟨rfl, rfl⟩, hfound, rfl⟩ := horder
  obtain ⟨_, t, htag, hrest⟩ := run_bind.mp hrest
  obtain ⟨_, t₁, hdelete, hrest⟩ := run_bind.mp hrest
  obtain ⟨_, t₂, hwrite, hrest⟩ := run_bind.mp hrest
  obtain ⟨saved, t₃, hsave, hrest⟩ := run_bind.mp hrest
  obtain ⟨_, t₄, hsettle, htell⟩ := run_bind.mp hrest
  obtain rfl := ReadOnly.require _ _ _ htag
  have hid : order.id = po := Table.key_of_find? hfound
  -- the push and its answer move no status
  suffices hsettled : StatusFollows other t₄ by
    simp only [theOrder, run_bind, run_read, run_orRefuse, run_when, run_write] at htell
    obtain ⟨after, _, ⟨_, _, ⟨rfl, rfl⟩, hafter, rfl⟩, ⟨-, _, _, rfl, hsend⟩ | ⟨-, rfl⟩⟩ := htell
    · have hkey : after.id = po := Table.key_of_find? hafter
      refine sendStateChange_follows _ ?_ u db' hsend
      rw [← hkey] at hafter
      exact statusFollows_putSame hafter rfl hsettled
    · exact hsettled
  simp only [saveOrder, run_bind, run_newId, run_write, run_pure] at hsave
  obtain ⟨stamp, _, ⟨-, rfl⟩, _, t₃, hput, hsaved, rfl⟩ := hsave
  rw [hsaved] at hput
  have hsavedId : saved.id = po := by rw [← hsaved, ← hid]
  have hsavedStatus : saved.status = data.status.getD order.status := by rw [← hsaved]
  obtain ⟨hdeleted, hshrink, hnone⟩ := run_deleteLines hdelete
  have horders : t₂.orders = t.orders :=
    (beside_orders.writeLines_keeps hid t₁ rfl _ _ hwrite).trans hdeleted
  have hstored : t₂.orders.find? saved.id = some order := by rw [horders, hsavedId, hfound]
  have hfound₃ : t₃.orders.find? po = some saved := by
    rw [← hput]
    exact hsavedId ▸ Table.find?_put_self hstored
  have hlines₃ : t₃.orderLines = t₂.orderLines := by rw [← hput]
  simp only [settleStatus, run_bind, run_read, run_ite, run_when] at hsettle
  obtain ⟨_, t₃, ⟨rfl, rfl⟩, hsettle⟩ := hsettle
  by_cases hother : other = po
  · subst hother
    rcases hsettle with ⟨hfull, hreceive⟩ | ⟨hpart, ⟨hedited, _, _, hrecompute, hunit⟩ | ⟨hnot, rfl⟩⟩
    · rw [hsavedId] at hreceive
      rcases (receiveOutstandingOrder_follows hreceive other).2 with hsettled | ⟨rfl, hcomplete⟩
      · exact hsettled
      · refine fun hreceived => ⟨saved, hfound₃, ?_⟩
        rw [hsavedStatus, hfull, derivedStatus, hsavedId, if_neg (not_not.mpr hreceived),
          if_neg hcomplete]
        rfl
    · obtain ⟨-, rfl⟩ := run_pure.mp hunit
      exact recompute_follows (by rw [hsavedId, hfound₃]; rfl) (.inl hsavedId.symm) hrecompute
    · -- no line was written, so the lines are those the deletion left
      intro hreceived
      have hunwritten : data.lines = none := by
        by_contra hlines
        exact hnot ⟨Option.isSome_iff_ne_none.mpr hlines, hsavedId ▸ hreceived⟩
      rw [hunwritten] at hwrite
      obtain rfl : t₁ = t₂ := run_forM_nil.mp hwrite
      rw [hlines₃] at hreceived
      have hbefore : Received t.orderLines other := by
        obtain ⟨line, hline, hrow⟩ := hreceived
        exact ⟨line, hshrink line hline, hrow⟩
      rcases hop rfl with hfull | hlines | hempty | ⟨hkept, hsame⟩
      · exact absurd hfull hpart
      · rw [hunwritten] at hlines
        cases hlines
      · exact absurd hbefore hempty
      · obtain rfl := hnone hkept
        obtain ⟨order', hfound', hfollows⟩ := hdb hbefore
        obtain rfl : order' = order := Option.some.inj (hfound'.symm.trans hfound)
        have hstatus : saved.status = order'.status := hsavedStatus.trans (hsame order' hfound')
        refine ⟨saved, hfound₃, ?_⟩
        rw [hstatus, hfollows, hlines₃]
        simp only [derivedStatus, hsavedId, hid, hstatus]
  · have hlines := (beside_statusFollows hother).writeLines_keeps hid t₁
      ((beside_statusFollows hother).deleteLines_keeps hid _ hdb _ _ hdelete) _ _ hwrite
    have hother₃ : StatusFollows other t₃ := by
      rw [← hput]
      exact statusFollows_putOther (hsavedId ▸ hother) hlines
    rcases hsettle with ⟨-, hreceive⟩ | ⟨-, ⟨-, _, _, hrecompute, hunit⟩ | ⟨-, rfl⟩⟩
    · rw [hsavedId] at hreceive
      exact (receiveOutstandingOrder_follows hreceive other).1 hother hother₃
    · obtain ⟨-, rfl⟩ := run_pure.mp hunit
      exact recompute_follows (by rw [hsavedId, hfound₃]; rfl) (.inr hother₃) hrecompute
    · exact hother₃

/-! ## Every run -/

lemma workshop_follows {po : ℕ} : WorkshopRules (StatusFollows po) :=
  (beside_statusFollows (Nat.succ_ne_self po).symm).workshop

lemma step_follows (po : ℕ) (db : Purchasing) (op : Op) (hdb : StatusFollows po db)
    (hop : SettlesStatus po db op) (u : Unit) (db' : Purchasing)
    (h : (step op).run db = .ok (u, db')) : StatusFollows po db' := by
  cases op with
  | createPurchaseOrder poNumber lines => exact createPurchaseOrder_follows _ hdb _ _ h
  | updatePurchaseOrder mirror order data staff ifMatch => exact updatePurchaseOrder_follows hdb hop h
  | processDeliveryReceipt mirror order lineAllocations staff ifMatch =>
      simp only [step, run_bind, run_require] at h
      obtain ⟨_, _, ⟨-, rfl⟩, hreceipt⟩ := h
      exact processDeliveryReceipt_follows (.inr hdb) hreceipt
  | receiveOutstandingOrder mirror order staff ifMatch =>
      have hreceive := receiveOutstandingOrder_follows h po
      by_cases hpo : po = order
      · subst hpo
        rcases hreceive.2 with hsettled | ⟨rfl, -⟩
        · exact hsettled
        · exact hdb
      · exact hreceive.1 hpo hdb
  | reverseAllocation order line allocation ifMatch staff =>
      simp only [step, run_bind, run_pure] at h
      obtain ⟨result, _, hreverse, -, rfl⟩ := h
      exact reverseAllocation_follows _ hdb _ _ hreverse
  | _ => exact workshop_follows.step_keeps rfl _ hdb _ _ h

/-- **The status of every run.**  From a state in which the order's status follows its lines,
whatever is asked and whatever is refused, as long as every update of the order meets the
condition: once something is received on it, its status is the one its lines say. -/
theorem order_status_follows_of_run (po : ℕ) (db : Purchasing) (hdb : StatusFollows po db)
    (ops : List Op) (hops : AllMeet step (SettlesStatus po) db ops) :
    StatusFollows po (serveAll step db ops) :=
  serveAll_keeps_of_meet (step_follows po) hdb hops

/-- Five of six bars are received, the order is cut to five, and three of them are reversed. -/
theorem order_status_follows_after_an_edit :
    let db := serveAll step newWorkshop
      [.processDeliveryReceipt (fun _ => .acknowledged) 3 sampleReceipt 9 [(3, 5)],
        .updatePurchaseOrder (fun _ => .acknowledged) 3
          { lines := some [{ id := some 4, quantity := some 5 }] } 9 [(3, 17)],
        .reverseAllocation 3 4 (.stock 10) [(3, 19)] 9]
    StatusFollows 3 db ∧ db.orders.rows.map PurchaseOrder.status = [.partiallyReceived] ∧
      db.orderLines.rows.map PurchaseOrderLine.receivedQuantity = [2] :=
  ⟨order_status_follows_of_run 3 newWorkshop (by decide +kernel) _ (by decide +kernel),
    by decide +kernel, by decide +kernel⟩

/-- **A named status is stored** over what the lines say: the order has received five bars of six
and goes back to draft by an update that writes no line. -/
theorem order_status_strays :
    ∃ db, Reachable step NothingReceived db ∧ ∃ po, ¬StatusFollows po db := by
  refine ⟨serveAll step newWorkshop
    [.processDeliveryReceipt (fun _ => .acknowledged) 3 sampleReceipt 9 [(3, 5)],
      .updatePurchaseOrder (fun _ => .acknowledged) 3 { status := some .draft } 9 [(3, 17)]],
    reachable_serveAll ⟨⟨rfl, rfl⟩, by decide +kernel⟩ _, 3, by decide +kernel⟩

end Purchasing

end Docketworks
