import Docketworks.Purchasing.OrderStatus
import Docketworks.Purchasing.ReceiptTotals

/-!
# Receipts as a whole

A receipt applies every line and allocation, or nothing.  Receiving what is outstanding is the
receipt of the missing quantities; any other receipt of the same quantities ends in the same
received totals, the same totals of stock and jobs, and the same status.

* `receivedBy` — an order line after a receipt; `receiveLines_brings` — the pass over the lines.
* `AppliesWhole` — what an accepted receipt has done.
* `completed` — a line with nothing outstanding; `SameQuantities` — another receipt of the same.
* `receipt_applies_whole_or_nothing` — every receipt, from every state.
-/

namespace Docketworks

open Library Library.Transaction

namespace Purchasing

variable {start db db' : Purchasing}

/-! ## The pass over the lines -/

/-- A line after the entries of a receipt: its total is raised by the one that names it. -/
def receivedBy (entries : List (ℕ × ReceiptLineRequest)) (line : PurchaseOrderLine) :
    PurchaseOrderLine :=
  match entries.find? fun entry => entry.1 = line.id with
  | some entry => { line with
      receivedQuantity := roundHalfAway 2 (line.receivedQuantity + entry.2.totalReceived) }
  | none => line

/-- What an entry of a receipt brings, at the price of the line it names. -/
def entryBrings (start : Purchasing) (holding : ℕ) (entry : ℕ × ReceiptLineRequest) : Account → ℚ :=
  (start.orderLines.find? entry.1).elim 0 fun line => entry.2.brings start holding line

lemma receivedBy_cons {entry : ℕ × ReceiptLineRequest} {entries : List (ℕ × ReceiptLineRequest)}
    (hnodup : entry.1 ∉ entries.map Prod.fst) {line : PurchaseOrderLine} :
    receivedBy (entry :: entries) line = receivedBy entries (receivedBy [entry] line) := by
  unfold receivedBy
  by_cases hline : entry.1 = line.id
  · have hnone : entries.find? (fun entry => entry.1 = line.id) = none := by
      refine List.find?_eq_none.mpr fun other hother hid => hnodup ?_
      rw [hline, ← of_decide_eq_true hid]
      exact List.mem_map_of_mem hother
    simp only [List.find?_cons, hline, decide_true, hnone]
  · simp only [List.find?_cons, hline, decide_false, List.find?_nil]

/-- **The lines of a receipt**, one after the other. -/
lemma receiveLines_brings {po : PurchaseOrder} {lines : List PurchaseOrderLine} {jobs : List Job}
    {holding staff : ℕ} {entries : List (ℕ × ReceiptLineRequest)} {u : Unit}
    (hlines : ∀ line ∈ lines, line ∈ start.orderLines.rows)
    (hnodup : (entries.map Prod.fst).Nodup) (hdb : Receiving start db)
    (h : (entries.forM (receiveLine po lines jobs holding staff)).run db = .ok (u, db')) :
    Brings ((entries.map (entryBrings start holding)).sum)
        (entries.flatMap fun entry => entry.2.posts holding) db db' ∧
      Receiving start db' ∧ db'.orderLines.rows = db.orderLines.rows.map (receivedBy entries) ∧
      ∀ entry ∈ entries, ∃ line ∈ lines, line.id = entry.1 := by
  induction entries generalizing db with
  | nil =>
      obtain rfl := run_forM_nil.mp h
      exact ⟨.refl _, hdb, (List.map_id _).symm, List.forall_mem_nil _⟩
  | cons entry entries ih =>
      obtain ⟨t, hone, hothers⟩ := run_forM_cons.mp h
      obtain ⟨hfresh, hnodup⟩ := List.nodup_cons.mp hnodup
      obtain ⟨line, hline, hbrings, hreceiving, stored, hstored, hput⟩ := receiveLine_brings hdb hone
      obtain ⟨hbrings', hreceiving', hrows, hnamed⟩ := ih hnodup hreceiving hothers
      have hmem : line ∈ lines := List.mem_of_find?_eq_some hline
      have hid : line.id = entry.1 := by simpa using List.find?_some hline
      have hentry : entryBrings start holding entry = entry.2.brings start holding line := by
        rw [entryBrings, ← hid, Table.find?_of_mem (hlines line hmem)]
        rfl
      have hkey : stored.id = entry.1 := Table.key_of_find? hstored
      have hrows₁ : t.orderLines.rows = db.orderLines.rows.map (receivedBy [entry]) := by
        rw [hput]
        refine List.map_congr_left fun other hother => ?_
        by_cases hsame : other.id = stored.id
        · obtain rfl := Table.eq_of_key_eq hother (Table.mem_of_find? hstored) hsame
          simp [receivedBy, hkey]
        · have hne : ¬entry.1 = other.id := fun heq => hsame (heq.symm.trans hkey.symm)
          simp [receivedBy, hsame, hne]
      rw [List.map_cons, List.sum_cons, List.flatMap_cons, hentry]
      refine ⟨hbrings.trans hbrings', hreceiving', ?_, ?_⟩
      · rw [hrows, hrows₁, List.map_map]
        exact List.map_congr_left fun other _ => (receivedBy_cons hfresh).symm
      · exact List.forall_mem_cons.mpr ⟨⟨line, hmem, hid⟩, hnamed⟩

/-! ## A whole receipt -/

def LineAllocations.brings (start : Purchasing) (holding : ℕ) (lineAllocations : LineAllocations) :
    Account → ℚ :=
  (lineAllocations.rows.map (entryBrings start holding)).sum

/-- The movements a receipt posts: a delivery for every allocation, and an issue for a job's. -/
def LineAllocations.posts (holding : ℕ) (lineAllocations : LineAllocations) :
    List (StockMovementKind × ℚ) :=
  lineAllocations.rows.flatMap fun entry => entry.2.posts holding

/-- **What an accepted receipt has done**: every line it names is a line of the order and has its
total, every allocation has reached its stock or its job, and the status is the one the lines
say. -/
structure AppliesWhole (po : ℕ) (lineAllocations : LineAllocations) (db db' : Purchasing) :
    Prop where
  lines : db'.orderLines.rows = db.orderLines.rows.map (receivedBy lineAllocations.rows)
  named : ∀ entry ∈ lineAllocations.rows,
    ∃ line ∈ db.orderLines.find? entry.1, line.purchaseOrder = po
  brings : ∃ holding, stockHoldingJob.run db = .ok (holding, db) ∧
    Brings (lineAllocations.brings db holding.id) (lineAllocations.posts holding.id) db db'
  status : ∃ order ∈ db.orders.find? po, ∃ after ∈ db'.orders.find? po,
    after.status = derivedStatus db'.orderLines order

lemma run_recompute_frame {po saved : PurchaseOrder}
    (h : (recomputePurchaseOrderStatus po).run db = .ok (saved, db')) :
    ∃ fresh, db' = { db with orders := db.orders.put saved, fresh := fresh } := by
  simp only [recomputePurchaseOrderStatus, run_bind, run_read, run_newId, run_write, run_pure] at h
  obtain ⟨_, _, ⟨rfl, rfl⟩, stamp, _, ⟨-, rfl⟩, _, _, hput, hsaved, rfl⟩ := h
  rw [hsaved] at hput
  exact ⟨_, hput.symm⟩

lemma run_sendStateChange {mirror : Mirror} {po : PurchaseOrder} {u : Unit}
    (h : (sendStateChange mirror po).run db = .ok (u, db')) :
    ∃ orders, db' = { db with orders := orders } ∧ ∀ id,
      (orders.find? id).map PurchaseOrder.status = (db.orders.find? id).map PurchaseOrder.status := by
  simp only [sendStateChange, theOrder, run_bind, run_read, run_orRefuse, run_when, run_require,
    run_write] at h
  obtain ⟨row, _, ⟨_, _, ⟨rfl, rfl⟩, hrow, rfl⟩, ⟨-, _, _, ⟨-, rfl⟩, ⟨-, rfl⟩ | ⟨-, rfl⟩⟩ |
    ⟨-, rfl⟩⟩ := h
  · have hid : row.id = po.id := Table.key_of_find? hrow
    rw [← hid] at hrow
    refine ⟨db.orders.put { row with xeroPushDue := false }, rfl, fun id => ?_⟩
    by_cases hsame : id = row.id
    · have hput : (db.orders.put { row with xeroPushDue := false }).find? row.id =
          some { row with xeroPushDue := false } :=
        Table.find?_put_self (r := { row with xeroPushDue := false }) hrow
      rw [hsame, hput, hrow]
      rfl
    · exact congrArg _ (Table.find?_put_of_ne (r := { row with xeroPushDue := false }) hsame)
  · exact ⟨_, rfl, fun _ => rfl⟩
  · exact ⟨_, rfl, fun _ => rfl⟩

/-- **A receipt that is accepted** is applied whole. -/
lemma processDeliveryReceipt_appliesWhole {mirror : Mirror} {po staff : ℕ}
    {lineAllocations : LineAllocations} {ifMatch : List PurchaseOrderETag} {u : Unit}
    (howned : Owned db.costing)
    (h : (processDeliveryReceipt mirror po lineAllocations staff ifMatch).run db = .ok (u, db')) :
    AppliesWhole po lineAllocations db db' := by
  simp only [processDeliveryReceipt, loadPoAndLines, requireCurrentEtag, run_bind, run_read,
    run_orRefuse, run_require, run_pure] at h
  obtain ⟨⟨order, lines⟩, _, ⟨_, _, ⟨rfl, rfl⟩, order', _, ⟨horder, rfl⟩, _, _, ⟨-, rfl⟩, heq, rfl⟩,
    _, _, ⟨-, rfl⟩, _, _, ⟨-, rfl⟩, holding, db, hholding, jobs, _, hjobs, _, t, hloop, saved, t',
    hrecompute, hsend⟩ := h
  obtain ⟨rfl, rfl⟩ : order' = order ∧ _ = lines := Prod.mk.inj heq
  obtain rfl := readOnly_stockHoldingJob _ _ _ hholding
  have hid : order'.id = po := Table.key_of_find? horder
  simp only [loadJobs, run_bind, run_read, run_require, run_pure] at hjobs
  obtain ⟨_, _, ⟨rfl, rfl⟩, _, _, ⟨-, rfl⟩, -, rfl⟩ := hjobs
  subst hid
  have hmine : ∀ line ∈ db.orderLines.rows.filter (fun line =>
      line.id ∈ lineAllocations.rows.map Prod.fst && line.purchaseOrder = order'.id),
      line ∈ db.orderLines.rows ∧ line.purchaseOrder = order'.id := by
    intro line hline
    obtain ⟨hrow, hkept⟩ := List.mem_filter.mp hline
    exact ⟨hrow, of_decide_eq_true (Bool.and_eq_true_iff.mp hkept).2⟩
  obtain ⟨hbrings, -, hrows, hnamed⟩ := receiveLines_brings (fun line hline => (hmine line hline).1)
    lineAllocations.nodup (.refl howned) hloop
  have hown : Owns order'.id ((db.orderLines.rows.filter fun line =>
      line.id ∈ lineAllocations.rows.map Prod.fst && line.purchaseOrder = order'.id).map
        PurchaseOrderLine.id) db := by
    intro line hline hmem
    obtain ⟨mine, hmem', hkey⟩ := List.mem_map.mp hmem
    obtain ⟨hrow, howner⟩ := hmine mine hmem'
    rwa [Table.eq_of_key_eq hline hrow hkey.symm]
  obtain ⟨horders, -⟩ := Keeps.forM (fun _ _ => beside_orders.receiveLine_keeps) db
    ⟨rfl, hown⟩ _ t hloop
  obtain ⟨hsaved, hstatus, -, -⟩ := run_recompute hrecompute
  obtain ⟨fresh, rfl⟩ := run_recompute_frame hrecompute
  have hput : (t.orders.put saved).find? order'.id = some saved := by
    rw [← hsaved]
    exact Table.find?_put_self (by rw [hsaved, horders, horder])
  obtain ⟨orders, rfl, hsame⟩ : ∃ orders, db' = { t with orders := orders, fresh := fresh } ∧ ∀ id,
      (orders.find? id).map PurchaseOrder.status =
        ((t.orders.put saved).find? id).map PurchaseOrder.status := by
    rcases run_when.mp hsend with ⟨-, hsend⟩ | ⟨-, rfl⟩
    · exact run_sendStateChange hsend
    · exact ⟨_, rfl, fun _ => rfl⟩
  refine ⟨hrows, fun entry hentry => ?_, ⟨holding, hholding, hbrings.tally, hbrings.ledger⟩,
    order', horder, ?_⟩
  · obtain ⟨line, hline, hkey⟩ := hnamed entry hentry
    obtain ⟨hrow, howner⟩ := hmine line hline
    exact ⟨line, hkey ▸ Table.find?_of_mem hrow, howner⟩
  · have hafter := hsame order'.id
    rw [hput] at hafter
    obtain ⟨after, hfound, hafter⟩ := Option.map_eq_some_iff.mp hafter
    exact ⟨after, hfound, hafter.trans hstatus⟩

/-! ## The outstanding quantities -/

/-- A line of the order with nothing outstanding: what was short is received, and what was received
over its ordered quantity stays. -/
def completed (po : ℕ) (line : PurchaseOrderLine) : PurchaseOrderLine :=
  if line.purchaseOrder = po then
    { line with receivedQuantity := max line.receivedQuantity line.quantity }
  else line

/-- A line the order waits for. -/
def Short (po : ℕ) (line : PurchaseOrderLine) : Prop :=
  line.purchaseOrder = po ∧ line.receivedQuantity < line.quantity

/-- A receipt of exactly what the order waits for, to the lines' own jobs at the company's
markup, in any order and any parts. -/
structure SameQuantities (db : Purchasing) (holding po : ℕ) (lineAllocations : LineAllocations) :
    Prop where
  every : ∀ line ∈ db.orderLines.rows, Short po line → line.id ∈ lineAllocations.rows.map Prod.fst
  only : ∀ entry ∈ lineAllocations.rows, ∃ line ∈ db.orderLines.find? entry.1, Short po line ∧
    entry.2.totalReceived = line.quantity - line.receivedQuantity ∧
    (entry.2.allocations.map ReceiptAllocationRequest.quantity).sum = entry.2.totalReceived ∧
    ∀ alloc ∈ entry.2.allocations, alloc.jobId = line.job.getD holding ∧
      alloc.retailRate.getD (db.materialsMarkup * 100) = db.materialsMarkup * 100

lemma sameQuantities_outstandingRequests (db : Purchasing) (holding po : ℕ) :
    SameQuantities db holding po (outstandingRequests holding db.orderLines po) := by
  constructor
  · rintro line hline ⟨hpo, hshort⟩
    have hmem : line ∈ db.orderLines.rows.filter fun line =>
        line.purchaseOrder = po && line.receivedQuantity < line.quantity :=
      List.mem_filter.mpr ⟨hline, by simp [hpo, hshort]⟩
    exact List.mem_map_of_mem (f := Prod.fst) (List.mem_map_of_mem hmem)
  · intro entry hentry
    obtain ⟨line, hline, rfl⟩ := List.mem_map.mp hentry
    obtain ⟨hrow, hkept⟩ := List.mem_filter.mp hline
    obtain ⟨hpo, hshort⟩ := Bool.and_eq_true_iff.mp hkept
    refine ⟨line, Table.find?_of_mem hrow, ⟨of_decide_eq_true hpo, of_decide_eq_true hshort⟩, rfl,
      List.sum_singleton, ?_⟩
    intro alloc halloc
    obtain rfl := List.mem_singleton.mp halloc
    exact ⟨rfl, rfl⟩

section Same

variable {holding po : ℕ} {lineAllocations other : LineAllocations}

lemma SameQuantities.receivedBy_eq (h : SameQuantities db holding po lineAllocations)
    {line : PurchaseOrderLine} (hline : line ∈ db.orderLines.rows)
    (hquantity : IsDecimal 2 line.quantity) :
    receivedBy lineAllocations.rows line = completed po line := by
  unfold receivedBy completed
  split
  · rename_i entry hentry
    have hid : entry.1 = line.id := by simpa using List.find?_some hentry
    obtain ⟨mine, hmine, ⟨hpo, hshort⟩, htotal, -⟩ := h.only entry (List.mem_of_find?_eq_some hentry)
    rw [hid, Table.find?_of_mem hline] at hmine
    obtain rfl := Option.some.inj hmine
    rw [if_pos hpo, htotal, add_sub_cancel, roundHalfAway_of_isDecimal hquantity,
      max_eq_right hshort.le]
  · rename_i hnone
    split
    · rename_i hpo
      have hfull : line.quantity ≤ line.receivedQuantity := by
        by_contra hshort
        obtain ⟨entry, hentry, hid⟩ := List.mem_map.mp (h.every line hline ⟨hpo, not_le.mp hshort⟩)
        exact absurd hid (by simpa using List.find?_eq_none.mp hnone entry hentry)
      rw [max_eq_left hfull]
    · rfl

lemma sum_broughtBy {line : PurchaseOrderLine} {job : ℕ} {pct : ℚ} (quantities : List ℚ) :
    (quantities.map (broughtBy db holding line job pct)).sum =
      broughtBy db holding line job pct quantities.sum := by
  induction quantities with
  | nil => exact broughtBy_zero.symm
  | cons q qs ih => rw [List.map_cons, List.sum_cons, List.sum_cons, ih, broughtBy_add]

/-- What the outstanding quantity of a line brings. -/
def missingBrings (db : Purchasing) (holding line : ℕ) : Account → ℚ :=
  (db.orderLines.find? line).elim 0 fun line => broughtBy db holding line (line.job.getD holding)
    (db.materialsMarkup * 100) (line.quantity - line.receivedQuantity)

lemma SameQuantities.brings_eq (h : SameQuantities db holding po lineAllocations) :
    lineAllocations.brings db holding =
      ((lineAllocations.rows.map Prod.fst).map (missingBrings db holding)).sum := by
  unfold LineAllocations.brings
  rw [List.map_map]
  refine congrArg List.sum (List.map_congr_left fun entry hentry => ?_)
  obtain ⟨line, hline, -, htotal, hsum, hallocs⟩ := h.only entry hentry
  have hfound : db.orderLines.find? entry.1 = some line := hline
  have hparts : entry.2.allocations.map (fun alloc => broughtBy db holding line alloc.jobId
      (alloc.retailRate.getD (db.materialsMarkup * 100)) alloc.quantity) =
      (entry.2.allocations.map ReceiptAllocationRequest.quantity).map
        (broughtBy db holding line (line.job.getD holding) (db.materialsMarkup * 100)) := by
    rw [List.map_map]
    refine List.map_congr_left fun alloc halloc => ?_
    obtain ⟨hjob, hrate⟩ := hallocs alloc halloc
    rw [hjob, hrate]
    rfl
  rw [entryBrings, Function.comp_apply, missingBrings, hfound, Option.elim_some, Option.elim_some,
    ReceiptLineRequest.brings, hparts, sum_broughtBy, hsum, htotal]

/-- **Two receipts of the same quantities** bring the same. -/
lemma SameQuantities.brings_unique (h : SameQuantities db holding po lineAllocations)
    (h' : SameQuantities db holding po other) :
    lineAllocations.brings db holding = other.brings db holding := by
  have hnamed : ∀ {l : LineAllocations}, SameQuantities db holding po l → ∀ id,
      id ∈ l.rows.map Prod.fst ↔ ∃ line ∈ db.orderLines.rows, Short po line ∧ line.id = id := by
    intro l hl id
    constructor
    · intro hid
      obtain ⟨entry, hentry, rfl⟩ := List.mem_map.mp hid
      obtain ⟨line, hline, hshort, -⟩ := hl.only entry hentry
      exact ⟨line, Table.mem_of_find? hline, hshort, Table.key_of_find? hline⟩
    · rintro ⟨line, hline, hshort, rfl⟩
      exact hl.every line hline hshort
  have hperm : (lineAllocations.rows.map Prod.fst).Perm (other.rows.map Prod.fst) :=
    (List.perm_ext_iff_of_nodup lineAllocations.nodup other.nodup).mpr fun id =>
      (hnamed h id).trans (hnamed h' id).symm
  rw [h.brings_eq, h'.brings_eq]
  exact (hperm.map _).sum_eq

end Same

/-! ## Receiving what is outstanding -/

/-- **Receiving what is outstanding** is the receipt of the missing quantities, and nothing where
none is missing. -/
lemma receiveOutstandingOrder_brings {mirror : Mirror} {po staff : ℕ}
    {ifMatch : List PurchaseOrderETag} {u : Unit} (howned : Owned db.costing)
    (h : (receiveOutstandingOrder mirror po staff ifMatch).run db = .ok (u, db')) :
    ∃ holding, stockHoldingJob.run db = .ok (holding, db) ∧
      (AppliesWhole po (outstandingRequests holding.id db.orderLines po) db db' ∨
        db' = db ∧ ¬Outstanding db.orderLines po) := by
  simp only [receiveOutstandingOrder, requireCurrentEtag, run_bind, run_read, run_require,
    run_when] at h
  obtain ⟨order, _, horder, _, _, ⟨-, rfl⟩, _, _, ⟨rfl, rfl⟩, holding, _, hholding, h⟩ := h
  simp only [theOrder, run_bind, run_read, run_orRefuse] at horder
  obtain ⟨_, _, ⟨rfl, rfl⟩, hfound, rfl⟩ := horder
  obtain rfl := readOnly_stockHoldingJob _ _ _ hholding
  have hid : order.id = po := Table.key_of_find? hfound
  rw [hid] at h
  rcases h with ⟨-, hreceipt⟩ | ⟨hnothing, rfl⟩
  · exact ⟨holding, hholding, .inl (processDeliveryReceipt_appliesWhole howned hreceipt)⟩
  · refine ⟨holding, hholding, .inr ⟨rfl, ?_⟩⟩
    rintro ⟨line, hline, hshort⟩
    have hnamed := (sameQuantities_outstandingRequests _ holding.id po).every line hline hshort
    rw [not_not.mp hnothing] at hnamed
    cases hnamed

/-- **With nothing outstanding** the order is left as it is, whoever asks. -/
lemma serve_receiveOutstandingOrder {mirror : Mirror} {po staff : ℕ}
    {ifMatch : List PurchaseOrderETag} (h : ¬Outstanding db.orderLines po) :
    serve step db (.receiveOutstandingOrder mirror po staff ifMatch) = db := by
  refine serve_keeps_at (I := (· = db)) (fun u db' hrun => ?_) rfl
  simp only [step, receiveOutstandingOrder, requireCurrentEtag, run_bind, run_read, run_require,
    run_when] at hrun
  obtain ⟨order, _, horder, _, _, ⟨-, rfl⟩, _, _, ⟨rfl, rfl⟩, holding, _, hholding, hrun⟩ := hrun
  simp only [theOrder, run_bind, run_read, run_orRefuse] at horder
  obtain ⟨_, _, ⟨rfl, rfl⟩, hfound, rfl⟩ := horder
  obtain rfl := readOnly_stockHoldingJob _ _ _ hholding
  have hid : order.id = po := Table.key_of_find? hfound
  rw [hid] at hrun
  rcases hrun with ⟨hsome, -⟩ | ⟨-, rfl⟩
  · obtain ⟨entry, hentry⟩ := List.exists_mem_of_ne_nil _ hsome
    obtain ⟨line, hline, hshort, -⟩ := (sameQuantities_outstandingRequests _ holding.id po).only
      entry hentry
    exact absurd ⟨line, Table.mem_of_find? hline, hshort⟩ h
  · rfl

lemma not_outstanding_of_completed {po : ℕ}
    (h : db'.orderLines.rows = db.orderLines.rows.map (completed po)) :
    ¬Outstanding db'.orderLines po := by
  rintro ⟨line, hline, hpo, hshort⟩
  rw [h] at hline
  obtain ⟨before, -, rfl⟩ := List.mem_map.mp hline
  unfold completed at hpo hshort
  split at hshort
  · exact absurd hshort (not_lt.mpr (le_max_right _ _))
  · rename_i hother
    rw [if_neg hother] at hpo
    exact hother hpo

/-! ## Every receipt -/

lemma holding_unique {holding holding' : Job} (h : stockHoldingJob.run db = .ok (holding, db))
    (h' : stockHoldingJob.run db = .ok (holding', db)) : holding = holding' := by
  rw [h] at h'
  injection h' with heq
  exact (Prod.mk.inj heq).1

lemma AppliesWhole.brings_at {po : ℕ} {lineAllocations : LineAllocations} {holding : Job}
    (h : AppliesWhole po lineAllocations db db') (hholding : stockHoldingJob.run db = .ok (holding, db)) :
    Brings (lineAllocations.brings db holding.id) (lineAllocations.posts holding.id) db db' := by
  obtain ⟨holding', hholding', hbrings⟩ := h.brings
  obtain rfl := holding_unique hholding hholding'
  exact hbrings

lemma derivedStatus_of_rows {lines lines' : Table PurchaseOrderLine.id} (h : lines.rows = lines'.rows)
    (po : PurchaseOrder) : derivedStatus lines po = derivedStatus lines' po := by
  have hreceived : Received lines po.id ↔ Received lines' po.id := by rw [Received, Received, h]
  have houtstanding : Outstanding lines po.id ↔ Outstanding lines' po.id := by
    rw [Outstanding, Outstanding, h]
  simp only [derivedStatus, hreceived, houtstanding]

structure SameTotals (db db' : Purchasing) : Prop where
  lines : db.orderLines.rows = db'.orderLines.rows
  tally : tally db = tally db'

/-- **Whole or not at all.**  From every state of the tables, a receipt that is accepted is applied
whole and one that is refused changes nothing.  Once receiving what is outstanding is accepted,
every line of the order that was short has its ordered quantity and the others are left; a second
call changes nothing; and any accepted receipt of the same quantities would have left the same
lines and totals, and the same status where something was outstanding. -/
theorem receipt_applies_whole_or_nothing (db : Purchasing)
    (hquantity : ∀ line ∈ db.orderLines.rows, IsDecimal 2 line.quantity)
    (howned : Owned db.costing) (po : ℕ) :
    (∀ mirror lineAllocations staff ifMatch,
      let receipt : Op := .processDeliveryReceipt mirror po lineAllocations staff ifMatch
      (∀ u db', (step receipt).run db = .ok (u, db') → AppliesWhole po lineAllocations db db') ∧
        ∀ refusal, (step receipt).run db = .error refusal → serve step db receipt = db) ∧
    ∀ mirror staff ifMatch u db',
      (step (.receiveOutstandingOrder mirror po staff ifMatch)).run db = .ok (u, db') →
      db'.orderLines.rows = db.orderLines.rows.map (completed po) ∧
        (∀ mirror staff ifMatch,
          serve step db' (.receiveOutstandingOrder mirror po staff ifMatch) = db') ∧
        ∀ mirror holding lineAllocations staff ifMatch u manual,
          stockHoldingJob.run db = .ok (holding, db) →
          SameQuantities db holding.id po lineAllocations →
          (step (.processDeliveryReceipt mirror po lineAllocations staff ifMatch)).run db =
            .ok (u, manual) →
          SameTotals manual db' ∧ (Outstanding db.orderLines po →
            (manual.orders.find? po).map PurchaseOrder.status =
              (db'.orders.find? po).map PurchaseOrder.status) := by
  have happlied : ∀ mirror lineAllocations staff ifMatch u db',
      (step (.processDeliveryReceipt mirror po lineAllocations staff ifMatch)).run db = .ok (u, db') →
      AppliesWhole po lineAllocations db db' := by
    intro mirror lineAllocations staff ifMatch u db' h
    simp only [step, run_bind, run_require] at h
    obtain ⟨_, _, ⟨-, rfl⟩, hreceipt⟩ := h
    exact processDeliveryReceipt_appliesWhole howned hreceipt
  have hlines : ∀ {holding lineAllocations}, SameQuantities db holding po lineAllocations →
      db.orderLines.rows.map (receivedBy lineAllocations.rows) =
        db.orderLines.rows.map (completed po) := fun hsame =>
    List.map_congr_left fun line hline => hsame.receivedBy_eq hline (hquantity line hline)
  refine ⟨fun mirror lineAllocations staff ifMatch => ⟨happlied mirror lineAllocations staff ifMatch,
    fun refusal hrefused => ?_⟩, fun mirror staff ifMatch u db' h => ?_⟩
  · unfold serve
    rw [hrefused]
  obtain ⟨holding, hholding, houtcome⟩ := receiveOutstandingOrder_brings howned h
  have hsent := sameQuantities_outstandingRequests db holding.id po
  -- with nothing to send, nothing is what the empty receipt would have brought
  obtain ⟨hrows, htally⟩ : db'.orderLines.rows = db.orderLines.rows.map (completed po) ∧
      tally db' = tally db + (outstandingRequests holding.id db.orderLines po).brings db holding.id := by
    rcases houtcome with hwhole | ⟨rfl, hnothing⟩
    · exact ⟨hwhole.lines.trans (hlines hsent), (hwhole.brings_at hholding).tally⟩
    · have hempty : (outstandingRequests holding.id db'.orderLines po).rows = [] := by
        refine List.eq_nil_iff_forall_not_mem.mpr fun entry hentry => hnothing ?_
        obtain ⟨line, hline, hshort, -⟩ := hsent.only entry hentry
        exact ⟨line, Table.mem_of_find? hline, hshort⟩
      refine ⟨?_, ?_⟩
      · rw [← hlines hsent, hempty]
        exact (List.map_id _).symm
      · rw [LineAllocations.brings, hempty]
        exact (add_zero _).symm
  refine ⟨hrows, fun _ _ _ => serve_receiveOutstandingOrder (not_outstanding_of_completed hrows),
    fun mirror holding' lineAllocations staff ifMatch u manual hholding' hsame hmanual => ?_⟩
  obtain rfl := holding_unique hholding hholding'
  have hwhole := happlied _ _ _ _ _ _ hmanual
  have hrows' : manual.orderLines.rows = db'.orderLines.rows := by
    rw [hwhole.lines, hlines hsame, hrows]
  refine ⟨⟨hrows', ?_⟩, fun houtstanding => ?_⟩
  · rw [htally, (hwhole.brings_at hholding).tally, hsame.brings_unique hsent]
  · obtain ⟨order, horder, after, hafter, hstatus⟩ := hwhole.status
    obtain ⟨order', horder', after', hafter', hstatus'⟩ :=
      (houtcome.resolve_right fun h => h.2 houtstanding).status
    have hsame := derivedStatus_of_rows hrows' order
    obtain rfl : order = order' := Option.some.inj (horder.symm.trans horder')
    rw [show manual.orders.find? po = some after from hafter,
      show db'.orders.find? po = some after' from hafter', Option.map_some, Option.map_some, hstatus,
      hstatus', hsame]

/-- Six bars are received at once; a manual receipt of two and four in the other order leaves the
same. -/
theorem six_bars_received_either_way :
    ∃ u db', (step (.receiveOutstandingOrder (fun _ => .acknowledged) 3 9 [(3, 5)])).run newWorkshop =
        .ok (u, db') ∧
      db'.orderLines.rows.map PurchaseOrderLine.receivedQuantity = [6] ∧
      ∃ v manual, (step (.processDeliveryReceipt (fun _ => .postponed) 3
          ⟨[(4, ⟨6, [⟨1, 2, none, []⟩, ⟨1, 4, none, []⟩]⟩)], by decide⟩ 8 [(3, 5)])).run newWorkshop =
          .ok (v, manual) ∧
        SameTotals manual db' := by
  obtain ⟨u, db', hrun, hreceived⟩ := exists_of_endsIn
    (x := step (.receiveOutstandingOrder (fun _ => .acknowledged) 3 9 [(3, 5)])) (s := newWorkshop)
    (p := fun _ db => db.orderLines.rows.map PurchaseOrderLine.receivedQuantity == [6])
    (by decide +kernel)
  obtain ⟨v, manual, hmanual, -⟩ := exists_of_endsIn
    (x := step (.processDeliveryReceipt (fun _ => .postponed) 3
      ⟨[(4, ⟨6, [⟨1, 2, none, []⟩, ⟨1, 4, none, []⟩]⟩)], by decide⟩ 8 [(3, 5)])) (s := newWorkshop)
    (p := fun _ _ => true) (by decide +kernel)
  refine ⟨u, db', hrun, eq_of_beq hreceived, v, manual, hmanual, ?_⟩
  refine (((receipt_applies_whole_or_nothing newWorkshop ?_ ?_ 3).2 _ _ _ _ _ hrun).2.2 _
    ⟨1, "Worker Admin", 1, true, none⟩ _ _ _ _ _ (by rfl) ?_ hmanual).1
  · intro line hline
    obtain rfl := List.mem_singleton.mp hline
    decide +kernel
  · exact fun _ h => absurd h List.not_mem_nil
  · refine ⟨fun line hline _ => ?_, fun entry hentry => ?_⟩
    · obtain rfl := List.mem_singleton.mp hline
      exact List.mem_singleton_self _
    · obtain rfl := List.mem_singleton.mp hentry
      refine ⟨_, rfl, ⟨rfl, by norm_num⟩, by norm_num, by norm_num, ?_⟩
      decide +kernel

/-- Eight bars of six are received, and the order goes back to submitted by hand. -/
def overReceived : Purchasing :=
  serveAll step newWorkshop
    [.processDeliveryReceipt (fun _ => .acknowledged) 3 ⟨[(4, ⟨8, [⟨1, 8, none, []⟩]⟩)], by decide⟩ 9
        [(3, 5)],
      .updatePurchaseOrder (fun _ => .acknowledged) 3 { status := some .submitted } 9 [(3, 12)]]

/-- **What was over-received stays so**: the line keeps its eight bars.  A receipt of nothing settles
the status, which receiving what is outstanding leaves as it was stored. -/
theorem over_received_lines_stay :
    Reachable step NothingReceived overReceived ∧
      ∃ u db', (step (.receiveOutstandingOrder (fun _ => .acknowledged) 3 9 [(3, 13)])).run
          overReceived = .ok (u, db') ∧
        db'.orderLines.rows.map (fun line => (line.receivedQuantity, line.quantity)) = [(8, 6)] ∧
        ∃ v manual, SameQuantities overReceived 1 3 Table.empty ∧
          (step (.processDeliveryReceipt (fun _ => .acknowledged) 3 Table.empty 9 [(3, 13)])).run
            overReceived = .ok (v, manual) ∧
          manual.orders.rows.map PurchaseOrder.status ≠ db'.orders.rows.map PurchaseOrder.status := by
  obtain ⟨u, db', hrun, hafter⟩ := exists_of_endsIn
    (x := step (.receiveOutstandingOrder (fun _ => .acknowledged) 3 9 [(3, 13)])) (s := overReceived)
    (p := fun _ db =>
      db.orderLines.rows.map (fun line => (line.receivedQuantity, line.quantity)) == [(8, 6)] &&
        db.orders.rows.map PurchaseOrder.status == [.submitted]) (by decide +kernel)
  obtain ⟨v, manual, hmanual, hstatus⟩ := exists_of_endsIn
    (x := step (.processDeliveryReceipt (fun _ => .acknowledged) 3 Table.empty 9 [(3, 13)]))
    (s := overReceived) (p := fun _ db =>
      db.orders.rows.map PurchaseOrder.status == [.fullyReceived]) (by decide +kernel)
  obtain ⟨hlines, hsubmitted⟩ := Bool.and_eq_true_iff.mp hafter
  refine ⟨reachable_serveAll ⟨⟨rfl, rfl⟩, by decide +kernel⟩ _, u, db', hrun, eq_of_beq hlines, v,
    manual, ⟨?_, List.forall_mem_nil _⟩, hmanual, ?_⟩
  · have hfull : ∀ line ∈ overReceived.orderLines.rows, ¬line.receivedQuantity < line.quantity := by
      decide +kernel
    exact fun line hline hshort => absurd hshort.2 (hfull line hline)
  · rw [eq_of_beq hstatus, eq_of_beq hsubmitted]
    decide

end Purchasing

end Docketworks
