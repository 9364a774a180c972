import Docketworks.Purchasing.SupplierTotals

/-!
# Supplier totals over every run

Each purchasing operation preserves the supplier totals, a receipt and a reversal under the
condition that what they add to the line is what they post.

* `addReceived_owes`, `createStockFromAllocation_pays`, `materialise_pays` — the two halves of a
  receipt; `receiveLine_totals` puts them together.
* `reverseAllocation_totals` — the line is lowered first and the ledger follows.
* `ExactSupply`, `step_keeps_totals`, `supplier_totals_agree_of_run` — every run.
-/

namespace Docketworks

open Library Library.Transaction

namespace Purchasing

variable {owed : ℕ → ℚ} {src : ℕ → Option ℕ}

/-! ## What a line has received -/

lemma SupplierTotals.putLine {db : Purchasing} {stored : PurchaseOrderLine} {q : ℚ}
    (hdb : SupplierTotals owed db) (row : PurchaseOrderLine)
    (hstored : db.orderLines.find? row.id = some stored)
    (hreceived : row.receivedQuantity = stored.receivedQuantity - q)
    (hscale : IsDecimal 2 row.receivedQuantity) (hnonneg : 0 ≤ row.receivedQuantity)
    (hordered : IsDecimal 2 row.quantity) :
    SupplierTotals (pay owed (some row.id) q)
      { db with orderLines := db.orderLines.put row } := by
  have hmem : stored ∈ db.orderLines.rows := Table.mem_of_find? hstored
  have hid : stored.id = row.id := Table.key_of_find? hstored
  have hlines : ∀ line ∈ (db.orderLines.put row).rows,
      (line ∈ db.orderLines.rows ∧ line.id ≠ row.id) ∨ line = row := by
    intro line hline
    rcases Table.mem_put.mp hline with ⟨hold, hne⟩ | ⟨heq, -⟩
    · exact .inl ⟨hold, hne⟩
    · exact .inr heq
  constructor
  · intro line hline
    show line.receivedQuantity = receipts db line.id + pay owed (some row.id) q line.id
    rcases hlines line hline with ⟨hold, hne⟩ | rfl
    · have hother : some row.id ≠ some line.id := fun heq => hne (Option.some.inj heq).symm
      rw [hdb.agree line hold, pay, if_neg hother, sub_zero]
    · have hagree := hdb.agree stored hmem
      rw [hid] at hagree
      rw [hreceived, hagree, pay, if_pos rfl]
      ring
  · intro line hline
    rcases hlines line hline with ⟨hold, -⟩ | rfl
    · exact hdb.scale line hold
    · exact hscale
  · intro line hline
    rcases hlines line hline with ⟨hold, -⟩ | rfl
    · exact hdb.nonneg line hold
    · exact hnonneg
  · intro line hline
    rcases hlines line hline with ⟨hold, -⟩ | rfl
    · exact hdb.ordered line hold
    · exact hordered
  · exact hdb.known
  · intro stock hstock line hline
    have hfound := hdb.sourced stock hstock line hline
    show ((db.orderLines.put row).find? line).isSome
    by_cases hsame : line = row.id
    · rw [hsame, Table.find?_put_self hstored]
      rfl
    · rwa [Table.find?_put_of_ne hsame]

/-- **A received total** is owed to the ledger, rounded as its column rounds it. -/
lemma addReceived_owes {line : ℕ} {total : ℚ} (htotal : 0 ≤ total) :
    Triple (SupplierTotals owed) (addReceived line total)
      (fun _ => SupplierTotals (pay owed (some line) (-roundHalfAway 2 total))) := by
  intro db hdb _ db' h
  simp only [addReceived, run_bind, run_read, run_orRefuse, run_column, run_write] at h
  obtain ⟨_, _, ⟨rfl, rfl⟩, stored, _, ⟨hstored, rfl⟩, _, _, ⟨-, rfl, rfl⟩, rfl⟩ := h
  have hid : stored.id = line := Table.key_of_find? hstored
  have hmem : stored ∈ db.orderLines.rows := Table.mem_of_find? hstored
  have hnonneg := hdb.nonneg stored hmem
  have hsum : roundHalfAway 2 (stored.receivedQuantity + total) =
      stored.receivedQuantity - -roundHalfAway 2 total := by
    rw [roundHalfAway_add (hdb.scale stored hmem) hnonneg htotal, sub_neg_eq_add]
  subst hid
  exact hdb.putLine
    { stored with receivedQuantity := roundHalfAway 2 (stored.receivedQuantity + total) } hstored
    hsum isDecimal_roundHalfAway (roundHalfAway_nonneg (add_nonneg hnonneg htotal))
    (hdb.ordered stored hmem)

/-- **A reversed quantity** in the column's scale is taken off the line as it is. -/
lemma decrementReceived_pays {line : ℕ} {quantity : ℚ} (hquantity : IsDecimal 2 quantity) :
    Triple (TotalsFrom owed src) (decrementReceived line quantity)
      (fun _ => TotalsFrom (pay owed (some line) quantity) src) := by
  rintro db ⟨hdb, rfl⟩ _ db' h
  simp only [decrementReceived, run_bind, run_read, run_orRefuse, run_column, run_write] at h
  obtain ⟨_, _, ⟨rfl, rfl⟩, stored, _, ⟨hstored, rfl⟩, _, _, ⟨-, rfl, rfl⟩, rfl⟩ := h
  obtain ⟨hfound, hcovers⟩ := Option.filter_eq_some_iff.mp hstored
  have hid : stored.id = line := Table.key_of_find? hfound
  have hmem : stored ∈ db.orderLines.rows := Table.mem_of_find? hfound
  have hscale : IsDecimal 2 (stored.receivedQuantity - quantity) :=
    (hdb.scale stored hmem).sub hquantity
  have hnonneg : 0 ≤ stored.receivedQuantity - quantity :=
    sub_nonneg.mpr (of_decide_eq_true hcovers)
  subst hid
  rw [roundHalfAway_of_isDecimal hscale]
  exact ⟨hdb.putLine { stored with receivedQuantity := stored.receivedQuantity - quantity } hfound
    rfl hscale hnonneg (hdb.ordered stored hmem), rfl⟩

/-! ## What is delivered on a line -/

/-- **A delivery to stock** pays its quantity on the line, and the identity is the line's. -/
lemma createStockFromAllocation_pays {line : PurchaseOrderLine} {allocation : MaterialAllocation}
    {staff : ℕ} :
    Triple (SupplierTotals owed) (createStockFromAllocation line allocation staff)
      (fun stock db => SupplierTotals (pay owed (some line.id) allocation.quantity) db ∧
        lineOf db stock = some line.id) := by
  intro db hdb stock db' h
  simp only [createStockFromAllocation, run_bind, run_orRefuse, run_require, run_pure] at h
  obtain ⟨_, _, ⟨-, rfl⟩, _, _, ⟨-, rfl⟩, id, _, hid, _, t, hinsert, _, _, horder, row, _, hmove,
    rfl, rfl⟩ := h
  have hdb' := (totalsFrom_rules (lineOf db)).workshop.newId_keeps _ ⟨hdb, rfl⟩ _ _ hid
  obtain ⟨htotals, hline, -, -⟩ := insertStock_totals _ hdb' _ _ hinsert
  obtain rfl := readOnly_theOrder _ _ _ horder
  obtain ⟨hpaid, hsource⟩ := moveStock_pays _ ⟨htotals, rfl⟩ _ _ hmove
  rw [hline] at hpaid
  exact ⟨hpaid, (congrFun hsource id).trans hline⟩

/-- **A delivery to a job** pays its quantity on the line: the issue that follows is no supplier's. -/
lemma createCostlineFromAllocation_pays {po : PurchaseOrder} {line : PurchaseOrderLine} {job : Job}
    {qty retailRatePct : ℚ} {staff : ℕ} :
    Triple (SupplierTotals owed) (createCostlineFromAllocation po line job qty retailRatePct staff)
      (fun _ => SupplierTotals (pay owed (some line.id) qty)) := by
  refine .bind (Keeps.orRefuse (I := SupplierTotals owed)) fun _ =>
    .bind supplierTotals_rules.workshop.ensureActualCostSet_keeps fun _ =>
      .bind supplierTotals_rules.workshop.newId_keeps fun _ => .bind Keeps.read fun _ =>
        .bind supplierTotals_rules.workshop.onCosting_keeps fun _ =>
          .bind readOnly_stockHoldingJob.keeps fun _ =>
            .bind createStockFromAllocation_pays fun _ =>
              .bind (Triple.conseq ?_ (fun _ h => h.1) fun _ _ h => h) fun _ => .pure fun _ h => h
  exact supplierTotals_rules.movement rfl

/-- **The allocations of a line** pay their sum on it. -/
lemma materialise_pays {po : PurchaseOrder} {line : PurchaseOrderLine}
    {allocations : List MaterialAllocation} {stockHoldingJobId staff : ℕ} :
    Triple (SupplierTotals owed) (materialise po line allocations stockHoldingJobId staff)
      (fun _ => SupplierTotals
        (pay owed (some line.id) (allocations.map MaterialAllocation.quantity).sum)) := by
  induction allocations generalizing owed with
  | nil => exact .pure fun db hdb => by simpa using hdb
  | cons alloc allocs ih =>
      rw [List.map_cons, List.sum_cons, ← pay_pay]
      refine Triple.bind (Q := fun _ => SupplierTotals (pay owed (some line.id) alloc.quantity)) ?_
        fun _ => ih
      refine .ite (fun _ => ?_) fun _ => ?_
      · exact .bind createStockFromAllocation_pays fun _ => .pure fun _ h => h.1
      · exact .bind readOnly_theJob.keeps fun _ =>
          .bind createCostlineFromAllocation_pays fun _ => .pure fun _ h => h

lemma quantity_of_prepare {line : PurchaseOrderLine} {jobs : List Job} {pct : ℚ}
    {requests : List ReceiptAllocationRequest} {prepared : List MaterialAllocation}
    (h : requests.mapM (prepare line jobs pct) = some prepared) :
    prepared.map MaterialAllocation.quantity = requests.map ReceiptAllocationRequest.quantity := by
  induction requests generalizing prepared with
  | nil =>
      obtain rfl : [] = prepared := by simpa using h
      rfl
  | cons alloc allocs ih =>
      rw [List.mapM_cons] at h
      obtain ⟨first, hfirst, h⟩ := Option.bind_eq_some_iff.mp h
      obtain ⟨rest, hrest, h⟩ := Option.bind_eq_some_iff.mp h
      obtain rfl : first :: rest = prepared := Option.some.inj h
      obtain ⟨job, -, rfl⟩ := Option.map_eq_some_iff.mp hfirst
      rw [List.map_cons, List.map_cons, ih hrest]

lemma sum_quantity_nonZero (requests : List ReceiptAllocationRequest) :
    ((requests.filter fun alloc => alloc.quantity ≠ 0).map ReceiptAllocationRequest.quantity).sum =
      (requests.map ReceiptAllocationRequest.quantity).sum := by
  induction requests with
  | nil => rfl
  | cons alloc allocs ih =>
      by_cases hzero : alloc.quantity = 0
      · rw [List.filter_cons_of_neg (by simpa using hzero), ih, List.map_cons, List.sum_cons, hzero,
          zero_add]
      · rw [List.filter_cons_of_pos (by simpa using hzero), List.map_cons, List.sum_cons, ih,
          List.map_cons, List.sum_cons]

lemma run_validateAndPrepareAllocations {line : PurchaseOrderLine} {request : ReceiptLineRequest}
    {jobs : List Job} {total : ℚ} {prepared : List MaterialAllocation} {db db' : Purchasing}
    (h : (validateAndPrepareAllocations line request jobs).run db = .ok ((total, prepared), db')) :
    db' = db ∧ total = request.totalReceived ∧
      (prepared.map MaterialAllocation.quantity).sum =
        (request.allocations.map ReceiptAllocationRequest.quantity).sum := by
  refine ⟨readOnly_validateAndPrepareAllocations _ _ _ h, ?_⟩
  simp only [validateAndPrepareAllocations, run_bind, run_require, run_orRefuse, run_pure,
    Prod.mk.injEq] at h
  obtain ⟨_, _, -, _, _, -, allocations, _, ⟨hprepared, -⟩, _, _, -, _, _, -, ⟨rfl, rfl⟩, -⟩ := h
  exact ⟨rfl, by rw [quantity_of_prepare hprepared, sum_quantity_nonZero]⟩

/-- A line of a receipt whose total, as its column stores it, is the sum of its allocations. -/
def ReceiptLineRequest.Exact (request : ReceiptLineRequest) : Prop :=
  roundHalfAway 2 request.totalReceived =
    (request.allocations.map ReceiptAllocationRequest.quantity).sum

instance (request : ReceiptLineRequest) : Decidable request.Exact :=
  inferInstanceAs (Decidable (_ = _))

/-- **One line of a receipt**: the line is raised by what the allocations pay. -/
lemma receiveLine_totals {po : PurchaseOrder} {lines : List PurchaseOrderLine} {jobs : List Job}
    {stockHoldingJobId staff : ℕ} {entry : ℕ × ReceiptLineRequest}
    (htotal : 0 ≤ entry.2.totalReceived) (hexact : entry.2.Exact) :
    Keeps (SupplierTotals owed) (receiveLine po lines jobs stockHoldingJobId staff entry) := by
  intro db hdb _ db' h
  simp only [receiveLine, run_bind, run_orRefuse] at h
  obtain ⟨line, _, ⟨-, rfl⟩, ⟨total, prepared⟩, _, hvalid, _, t, hadd, hmaterialise⟩ := h
  obtain ⟨rfl, rfl, hsum⟩ := run_validateAndPrepareAllocations hvalid
  have howed := addReceived_owes htotal _ hdb _ _ hadd
  have hpaid := materialise_pays _ howed _ _ hmaterialise
  rwa [pay_pay, hsum, ← hexact, neg_add_cancel, pay_zero] at hpaid

lemma exact_outstandingRequest {stockJob : ℕ} {line : PurchaseOrderLine}
    (hquantity : IsDecimal 2 line.quantity) (hreceived : IsDecimal 2 line.receivedQuantity) :
    (outstandingRequest stockJob line).Exact := by
  show roundHalfAway 2 (line.quantity - line.receivedQuantity) =
    [line.quantity - line.receivedQuantity].sum
  rw [roundHalfAway_of_isDecimal (hquantity.sub hreceived), List.sum_singleton]

lemma receiveOutstandingOrder_totals {mirror : Mirror} {po staff : ℕ}
    {ifMatch : List PurchaseOrderETag} :
    Keeps (SupplierTotals owed) (receiveOutstandingOrder mirror po staff ifMatch) := by
  intro db hdb _ db' h
  simp only [receiveOutstandingOrder, run_bind, run_read, run_when] at h
  obtain ⟨po, _, hpo, _, _, htag, _, _, ⟨rfl, rfl⟩, holding, _, hholding, h⟩ := h
  obtain rfl := readOnly_theOrder _ _ _ hpo
  obtain rfl := ReadOnly.require _ _ _ htag
  obtain rfl := readOnly_stockHoldingJob _ _ _ hholding
  rcases h with ⟨-, hreceive⟩ | ⟨-, rfl⟩
  · refine supplierTotals_rules.processDeliveryReceipt_keeps (fun entry hentry _ _ _ _ => ?_) _ hdb _ _
      hreceive
    obtain ⟨line, hline, rfl⟩ := List.mem_map.mp hentry
    obtain ⟨hmem, hopen⟩ := List.mem_filter.mp hline
    have hshort : line.receivedQuantity < line.quantity := by simp_all
    exact receiveLine_totals (sub_nonneg.mpr hshort.le)
      (exact_outstandingRequest (hdb.ordered line hmem) (hdb.scale line hmem))
  · exact hdb

/-! ## Order lines -/

lemma run_lineFields {line asked row : PurchaseOrderLine} {data : PurchaseOrderLineWriteData}
    {db t db' : Purchasing} (happly : (applyLineFields line data).run db = .ok (asked, t))
    (hcolumns : (lineColumns asked).run t = .ok (row, db')) :
    db' = db ∧ row.id = line.id ∧ row.purchaseOrder = line.purchaseOrder ∧
      row.receivedQuantity = line.receivedQuantity ∧ IsDecimal 2 row.quantity := by
  have hdb' : db' = db := by
    rw [readOnly_lineColumns _ _ _ hcolumns, readOnly_applyLineFields _ _ _ happly]
  simp only [applyLineFields, run_bind, run_pure] at happly
  obtain ⟨_, _, -, _, _, -, rfl, -⟩ := happly
  simp only [lineColumns, run_bind, run_column, run_pure] at hcolumns
  obtain ⟨_, _, ⟨-, rfl, -⟩, _, _, -, rfl, -⟩ := hcolumns
  exact ⟨hdb', rfl, rfl, rfl, isDecimal_roundHalfAway⟩

lemma receipts_of_absent {db : Purchasing} (hdb : SupplierTotals owed db) {line : ℕ}
    (h : db.orderLines.find? line = none) : receipts db line = 0 := by
  refine List.sum_eq_zero fun q hq => ?_
  obtain ⟨m, -, rfl⟩ := List.mem_map.mp hq
  refine if_neg fun hsource => ?_
  obtain ⟨stock, hstock, hline⟩ := Option.bind_eq_some_iff.mp hsource
  have hfound := hdb.sourced stock (Table.mem_of_find? hstock) line hline
  rw [h] at hfound
  cases hfound

lemma SupplierTotals.insertLine {db : Purchasing} {row : PurchaseOrderLine}
    {lines : Table PurchaseOrderLine.id} (hdb : SupplierTotals 0 db)
    (hinsert : db.orderLines.insert? row = some lines) (hreceived : row.receivedQuantity = 0)
    (hordered : IsDecimal 2 row.quantity) : SupplierTotals 0 { db with orderLines := lines } := by
  have hnew : receipts db row.id = 0 := receipts_of_absent hdb (Table.find?_of_insert? hinsert)
  constructor
  · intro line hline
    rcases (Table.mem_insert? hinsert).mp hline with hold | rfl
    · exact hdb.agree line hold
    · show line.receivedQuantity = receipts db line.id + 0
      rw [hreceived, hnew, add_zero]
  · intro line hline
    rcases (Table.mem_insert? hinsert).mp hline with hold | rfl
    · exact hdb.scale line hold
    · rw [hreceived]
      exact isDecimal_zero
  · intro line hline
    rcases (Table.mem_insert? hinsert).mp hline with hold | rfl
    · exact hdb.nonneg line hold
    · rw [hreceived]
  · intro line hline
    rcases (Table.mem_insert? hinsert).mp hline with hold | rfl
    · exact hdb.ordered line hold
    · exact hordered
  · exact hdb.known
  · intro stock hstock line hline
    obtain ⟨stored, hstored⟩ := Option.isSome_iff_exists.mp (hdb.sourced stock hstock line hline)
    obtain ⟨hmem, hid⟩ := Table.find?_eq_some_iff.mp hstored
    exact Option.isSome_iff_exists.mpr ⟨stored, Table.find?_eq_some_iff.mpr
      ⟨(Table.mem_insert? hinsert).mpr (.inl hmem), hid⟩⟩

/-- **A line write** leaves what the line has received. -/
lemma writeLine_totals {po : PurchaseOrder} {data : PurchaseOrderLineWriteData} :
    Keeps (SupplierTotals 0) (writeLine po data) := by
  intro db hdb _ db' h
  unfold writeLine at h
  split at h
  · simp only [run_bind, run_newId, run_read, run_orRefuse, run_write] at h
    obtain ⟨id, _, ⟨-, rfl⟩, asked, _, happly, row, _, hcolumns, _, _, ⟨rfl, rfl⟩, lines, _,
      ⟨hinsert, rfl⟩, rfl⟩ := h
    obtain ⟨rfl, -, -, hreceived, hordered⟩ := run_lineFields happly hcolumns
    refine SupplierTotals.insertLine ?_ hinsert hreceived hordered
    exact hdb.congr rfl rfl rfl
  · rename_i lineId _
    simp only [run_bind, run_read, run_orRefuse, run_write] at h
    obtain ⟨_, _, ⟨rfl, rfl⟩, stored, _, ⟨hstored, rfl⟩, asked, _, happly, row, _, hcolumns, rfl⟩ := h
    obtain ⟨rfl, hid, -, hreceived, hordered⟩ := run_lineFields happly hcolumns
    obtain ⟨hfound, -⟩ := Option.filter_eq_some_iff.mp hstored
    have hkey : stored.id = lineId := Table.key_of_find? hfound
    have hmem : stored ∈ _ := Table.mem_of_find? hfound
    have hput := hdb.putLine row (q := 0) (by rw [hid, hkey]; exact hfound)
      (by rw [hreceived, sub_zero]) (by rw [hreceived]; exact hdb.scale stored hmem)
      (by rw [hreceived]; exact hdb.nonneg stored hmem) hordered
    rwa [pay_zero] at hput

lemma SupplierTotals.eraseLine {db : Purchasing} (hdb : SupplierTotals owed db) {line : ℕ}
    (hfree : ∀ stock ∈ db.stock.rows, stock.sourcePurchaseOrderLine ≠ some line) :
    SupplierTotals owed { db with orderLines := db.orderLines.erase line } := by
  constructor
  · exact fun l hl => hdb.agree l (Table.mem_erase.mp hl).1
  · exact fun l hl => hdb.scale l (Table.mem_erase.mp hl).1
  · exact fun l hl => hdb.nonneg l (Table.mem_erase.mp hl).1
  · exact fun l hl => hdb.ordered l (Table.mem_erase.mp hl).1
  · exact hdb.known
  · intro stock hstock l hl
    have hne : l ≠ line := by
      rintro rfl
      exact hfree stock hstock hl
    show ((db.orderLines.erase line).find? l).isSome
    rw [Table.find?_erase_of_ne hne]
    exact hdb.sourced stock hstock l hl

/-- **Lines are deleted** only where no stock came from them. -/
lemma deleteLines_totals {po : PurchaseOrder} {ids : List ℕ} :
    Keeps (SupplierTotals owed) (deleteLines po ids) := by
  intro db hdb _ db' h
  simp only [deleteLines, run_bind, run_read, run_require] at h
  obtain ⟨_, _, ⟨rfl, rfl⟩, _, _, ⟨hfree, rfl⟩, hloop⟩ := h
  -- the stock table stays, so the check made before the loop holds in each of its passes
  refine (Keeps.forM (I := fun t => SupplierTotals owed t ∧ t.stock = db.stock) ?_ _ ⟨hdb, rfl⟩ _ _
    hloop).1
  intro line hline
  refine Keeps.write fun t hkept => ?_
  obtain ⟨ht, hstock⟩ := hkept
  obtain ⟨hmem, hdoomed⟩ := List.mem_filter.mp hline
  obtain ⟨hid, horder⟩ : line.id ∈ ids ∧ line.purchaseOrder = po.id := by simpa using hdoomed
  refine ⟨ht.eraseLine fun stock hs => ?_, hstock⟩
  exact hfree stock (hstock ▸ hs) line hmem hid horder

/-! ## Reversals -/

/-- The identity behind a handle. -/
def identityOf (db : Purchasing) : AllocationHandle → Option ℕ
  | .stock id => some id
  | .job costLine =>
      (db.movements.rows.find? fun m => m.costLine = some costLine).map StockMovement.stock

/-- A movement that received its identity. -/
def isReceipt (m : StockMovement) : Bool := m.kind = .delivery || m.kind = .deliveryOpening

/-- What the identity behind the handle received, unless it is reversed already, is a whole number
of the received column's units. -/
def ExactReversal (db : Purchasing) (allocation : AllocationHandle) : Prop :=
  ∀ m ∈ db.movements.rows, identityOf db allocation = some m.stock → isReceipt m = true →
    (∀ other ∈ db.movements.rows, other.reverses ≠ some m.id) → IsDecimal 2 (supplied m)

instance (db : Purchasing) (allocation : AllocationHandle) :
    Decidable (ExactReversal db allocation) :=
  inferInstanceAs (Decidable (∀ _ ∈ _, _))

lemma run_resolveHandle {po : ℕ} {allocation : AllocationHandle} {stock : Stock}
    {charge? : Option (CostLine × StockMovement)} {db db' : Purchasing}
    (h : (resolveHandle po allocation).run db = .ok ((stock, charge?), db')) :
    db' = db ∧ db.stock.find? stock.id = some stock ∧ identityOf db allocation = some stock.id := by
  refine ⟨readOnly_resolveHandle _ _ _ h, ?_⟩
  cases allocation with
  | stock id =>
      simp only [resolveHandle, getStockOrError, run_bind, run_read, run_orRefuse, run_pure,
        Prod.mk.injEq] at h
      obtain ⟨found, _, ⟨_, _, ⟨rfl, rfl⟩, hfound, rfl⟩, ⟨rfl, -⟩, -⟩ := h
      obtain ⟨hstock, -⟩ := Option.filter_eq_some_iff.mp hfound
      have hid : found.id = id := Table.key_of_find? hstock
      subst hid
      exact ⟨hstock, rfl⟩
  | job costLine =>
      simp only [resolveHandle, getCostlineOrError, run_bind, run_read, run_orRefuse, run_pure,
        Prod.mk.injEq, Prod.exists] at h
      obtain ⟨line, movement, found, _, ⟨_, _, ⟨rfl, rfl⟩, hfound, rfl⟩, ⟨rfl, -⟩, -⟩ := h
      obtain ⟨line', hline, hfound⟩ := Option.bind_eq_some_iff.mp hfound
      obtain ⟨movement', hmovement, hfound⟩ := Option.bind_eq_some_iff.mp hfound
      obtain ⟨stock', hstock, hfound⟩ := Option.bind_eq_some_iff.mp hfound
      split at hfound
      · obtain ⟨rfl, rfl, rfl⟩ : line' = line ∧ movement' = movement ∧ stock' = found := by
          simpa using hfound
        have hkey : line'.id = costLine := Table.key_of_find? hline
        have hid : stock'.id = movement'.stock := Table.key_of_find? hstock
        rw [hkey] at hmovement
        refine ⟨hid ▸ hstock, ?_⟩
        rw [hid]
        show (List.find? _ _).map StockMovement.stock = _
        rw [hmovement]
        rfl
      · cases hfound

lemma run_receiptOf {stock : ℕ} {receipt : StockMovement} {db db' : Purchasing}
    (h : (receiptOf stock).run db = .ok (receipt, db')) :
    db' = db ∧ receipt ∈ db.movements.rows ∧ receipt.stock = stock ∧ isReceipt receipt = true := by
  refine ⟨readOnly_receiptOf _ _ _ h, ?_⟩
  simp only [receiptOf, run_bind, run_read] at h
  obtain ⟨_, _, ⟨rfl, rfl⟩, h⟩ := h
  split at h
  · rename_i found hfilter
    obtain ⟨rfl, -⟩ := run_pure.mp h
    have hmem : found ∈ db.movements.rows.filter _ := hfilter ▸ List.mem_singleton_self found
    obtain ⟨hrow, hkind⟩ := List.mem_filter.mp hmem
    obtain ⟨hstock, hreceipt⟩ := Bool.and_eq_true_iff.mp hkind
    exact ⟨hrow, of_decide_eq_true hstock, hreceipt⟩
  · cases run_refuse.mp h
  · cases run_refuse.mp h

lemma run_deliveryQuantity {movement : StockMovement} {quantity : ℚ} {db db' : Purchasing}
    (h : (deliveryQuantity movement).run db = .ok (quantity, db')) : quantity = supplied movement := by
  simp only [deliveryQuantity, run_ite, run_pure, run_refuse, run_orRefuse] at h
  unfold supplied
  rcases h with ⟨hkind, rfl, -⟩ | ⟨-, ⟨-, ⟨⟩⟩ | ⟨hkind, hopening, -⟩⟩
  · rw [hkind]
  · rw [not_not.mp hkind, hopening]
    rfl

/-- **A reversal** takes off the line what it posts against the delivery. -/
lemma reverseAllocation_totals {po line staff : ℕ} {allocation : AllocationHandle}
    {ifMatch : List PurchaseOrderETag} {result : ReversalResult} {db db' : Purchasing}
    (hdb : SupplierTotals 0 db) (hexact : ExactReversal db allocation)
    (h : (reverseAllocation po line allocation ifMatch staff).run db = .ok (result, db')) :
    SupplierTotals 0 db' := by
  simp only [reverseAllocation, run_bind, run_read, run_orRefuse, run_require] at h
  obtain ⟨_, _, ⟨rfl, rfl⟩, order, _, ⟨-, rfl⟩, ⟨stock, charge?⟩, _, hhandle, h⟩ := h
  obtain ⟨rfl, hstock, hidentity⟩ := run_resolveHandle hhandle
  obtain ⟨_, _, ⟨hsource, rfl⟩, poLine, _, hline, receipt, _, hreceipt, _, _, ⟨rfl, rfl⟩, h⟩ := h
  simp only [theOrderLine, run_bind, run_read, run_orRefuse] at hline
  obtain ⟨_, _, ⟨rfl, rfl⟩, hfound, rfl⟩ := hline
  obtain ⟨hpoLine, -⟩ := Option.filter_eq_some_iff.mp hfound
  have hid : poLine.id = line := Table.key_of_find? hpoLine
  obtain ⟨rfl, hmem, hof, hkind⟩ := run_receiptOf hreceipt
  simp only [run_ite, run_bind, run_pure] at h
  rcases h with ⟨-, -, rfl⟩ | ⟨hopen, quantity, _, hquantity, _, db, htag, _, t, hcharge, _, _,
    hdecrement, _, _, hmove, _, _, hstatus, -, rfl⟩
  · exact hdb
  obtain rfl := run_deliveryQuantity hquantity
  obtain rfl := readOnly_deliveryQuantity _ _ _ hquantity
  obtain rfl := ReadOnly.require _ _ _ htag
  have hscale : IsDecimal 2 (supplied receipt) :=
    hexact receipt hmem (hof ▸ hidentity) hkind fun other hother heq => hopen ⟨other, hother, heq⟩
  have horigin : lineOf db stock.id = some line := by
    unfold lineOf
    rw [hstock]
    exact hsource
  have hcharged : TotalsFrom 0 (lineOf db) t := by
    rcases charge? with _ | ⟨costLine, issue⟩
    · obtain ⟨-, rfl⟩ := run_pure.mp hcharge
      exact ⟨hdb, rfl⟩
    · obtain ⟨_, _, hissue, hunit⟩ := run_bind.mp hcharge
      obtain ⟨-, rfl⟩ := run_pure.mp hunit
      exact (totalsFrom_rules (lineOf db)).workshop.books.reverseIssue_keeps _ ⟨hdb, rfl⟩ _ _ hissue
  have hlowered := decrementReceived_pays hscale _ hcharged _ _ hdecrement
  have hreversed := (moveStock_pays _ hlowered _ _ hmove).1
  -- what the line was lowered by is what the reversal posts
  have hnothing : pay (pay 0 (some poLine.id) (supplied receipt)) (lineOf db stock.id)
      (supplyOf .deliveryReversal (-supplied receipt)) = 0 := by
    rw [horigin, hid, pay_pay]
    simp [supplyOf]
  rw [hnothing] at hreversed
  exact supplierTotals_rules.recomputePurchaseOrderStatus_keeps _ hreversed _ _ hstatus

/-! ## Every run -/

/-- **The condition.**  Each received total, as its column stores it, is the sum of its line's
allocations; and a reversed delivery is a whole number of the column's units. -/
def ExactSupply (db : Purchasing) : Op → Prop
  | .processDeliveryReceipt _ _ lineAllocations _ _ =>
      ∀ entry ∈ lineAllocations.rows, entry.2.Exact
  | .reverseAllocation _ _ allocation _ _ => ExactReversal db allocation
  | _ => True

instance (db : Purchasing) : (op : Op) → Decidable (ExactSupply db op)
  | .processDeliveryReceipt .. => inferInstanceAs (Decidable (∀ _ ∈ _, _))
  | .reverseAllocation _ _ allocation _ _ => inferInstanceAs (Decidable (ExactReversal _ allocation))
  | .createStock .. | .updateStock .. | .deactivateStock .. | .consumeStock ..
  | .approveCostLine .. | .reverseIssue .. | .createPurchaseOrder .. | .updatePurchaseOrder ..
  | .receiveOutstandingOrder .. | .createStocktake .. | .saveStocktake .. | .postStocktake ..
  | .correctStocktake .. | .costing .. | .newDay .. => .isTrue trivial

lemma step_keeps_totals (db : Purchasing) (op : Op) (hdb : SupplierTotals 0 db)
    (hop : ExactSupply db op) (u : Unit) (db' : Purchasing)
    (h : (step op).run db = .ok (u, db')) : SupplierTotals 0 db' := by
  cases op with
  | createPurchaseOrder poNumber lines =>
      exact supplierTotals_rules.createPurchaseOrder_keeps (fun _ _ => writeLine_totals) _ hdb _ _ h
  | updatePurchaseOrder mirror po data staff ifMatch =>
      exact supplierTotals_rules.updatePurchaseOrder_keeps (fun _ => deleteLines_totals)
        (fun _ _ => writeLine_totals) (fun _ _ => receiveOutstandingOrder_totals) _ hdb _ _ h
  | processDeliveryReceipt mirror po lineAllocations staff ifMatch =>
      simp only [step, run_bind, run_require] at h
      obtain ⟨_, _, ⟨hnonneg, rfl⟩, hreceipt⟩ := h
      refine supplierTotals_rules.processDeliveryReceipt_keeps (fun entry hentry _ _ _ _ => ?_) _ hdb
        _ _ hreceipt
      exact receiveLine_totals (hnonneg entry hentry).1 (hop entry hentry)
  | receiveOutstandingOrder mirror po staff ifMatch =>
      exact receiveOutstandingOrder_totals _ hdb _ _ h
  | reverseAllocation po line allocation ifMatch staff =>
      simp only [step, run_bind, run_pure] at h
      obtain ⟨_, _, hreverse, -, rfl⟩ := h
      exact reverseAllocation_totals hdb hop hreverse
  | _ => exact supplierTotals_rules.workshop.step_keeps rfl _ hdb _ _ h

/-- Before the first delivery: no stock, no movement, and nothing received on any line. -/
def NothingReceived (db : Purchasing) : Prop :=
  NoStock db ∧ ∀ line ∈ db.orderLines.rows, line.receivedQuantity = 0 ∧ IsDecimal 2 line.quantity

lemma supplierTotals_of_nothingReceived {db : Purchasing} (h : NothingReceived db) :
    SupplierTotals 0 db := by
  obtain ⟨⟨hstock, hmovements⟩, hlines⟩ := h
  constructor
  · intro line hline
    rw [(hlines line hline).1, receipts, Table.sum, hmovements, List.map_nil, List.sum_nil, zero_add]
    rfl
  · intro line hline
    rw [(hlines line hline).1]
    exact isDecimal_zero
  · intro line hline
    rw [(hlines line hline).1]
  · exact fun line hline => (hlines line hline).2
  · intro m hm
    rw [hmovements] at hm
    cases hm
  · intro stock hmem
    rw [hstock] at hmem
    cases hmem

/-- **The supplier totals of every run.**  From a state with nothing received, whatever is asked and
whatever is refused, as long as every receipt and every reversal meets the condition: each line has
received what the ledger says was delivered on it. -/
theorem supplier_totals_agree_of_run (db : Purchasing) (hdb : NothingReceived db) (ops : List Op)
    (hops : AllMeet step ExactSupply db ops) : SupplierTotalsAgree (serveAll step db ops) := by
  have hinv : SupplierTotals 0 (serveAll step db ops) :=
    serveAll_keeps_of_meet step_keeps_totals (supplierTotals_of_nothingReceived hdb) hops
  intro line hline
  have hagree := hinv.agree line hline
  rwa [Pi.zero_apply, add_zero] at hagree

/-- Five bars are received, three to stock and two to a job, and the three are reversed. -/
theorem supplier_totals_agree_after_a_reversal :
    let db := serveAll step newWorkshop
      [.processDeliveryReceipt (fun _ => .acknowledged) 3 sampleReceipt 9 [(3, 5)],
        .reverseAllocation 3 4 (.stock 10) [(3, 17)] 9]
    SupplierTotalsAgree db ∧ db.orderLines.rows.map PurchaseOrderLine.receivedQuantity = [2] :=
  ⟨supplier_totals_agree_of_run newWorkshop ⟨⟨rfl, rfl⟩, by decide +kernel⟩ _ (by decide +kernel),
    by decide +kernel⟩

/-- A receipt of three metres with 2.999 allocated: within the tolerance. -/
def shortReceipt : LineAllocations :=
  ⟨[(4, ⟨3, [⟨1, 2999 / 1000, none, []⟩]⟩)], by decide⟩

/-- **The two totals differ** after a receipt that is accepted: the line has received 3.00 and the
ledger holds 2.999. -/
theorem supplier_totals_differ :
    ∃ db, Reachable step NothingReceived db ∧ ¬SupplierTotalsAgree db := by
  refine ⟨serveAll step newWorkshop
    [.processDeliveryReceipt (fun _ => .acknowledged) 3 shortReceipt 9 [(3, 5)]],
    reachable_serveAll ⟨⟨rfl, rfl⟩, by decide +kernel⟩ _, by decide +kernel⟩

end Purchasing

end Docketworks
