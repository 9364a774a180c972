import Docketworks.Purchasing.LedgerRuns

/-!
# Supplier totals

What an order line says it has received, against the deliveries and reversals in the ledger.  A
receipt raises the line by the total the client names and posts the allocations; a reversal lowers
the line by what was posted.  The two agree as long as the total, in the scale of its column, is
the sum of the allocations, and a reversed delivery is in that scale.

* `receipts db line` — the net deliveries the ledger holds for a line.
* `SupplierTotals owed` — every line's total is its receipts and what the call in progress still
  owes the ledger.  Between calls nothing is owed.

**Design.**  `owed` makes the two halves of a receipt composable: `addReceived` raises what is
owed on a line, each delivery pays a part of it, and a reversal pays in advance.
-/

namespace Docketworks

open Library Library.Transaction

namespace Purchasing

/-! ## The two totals -/

/-- What a movement says was supplied; a reversal's is below zero. -/
def supplied (m : StockMovement) : ℚ :=
  match m.kind with
  | .delivery | .deliveryReversal => m.quantityChange
  | .deliveryOpening => m.openingQuantity.getD 0
  | _ => 0

/-- The order line an identity came from. -/
def lineOf (db : Purchasing) (stock : ℕ) : Option ℕ :=
  (db.stock.find? stock).bind Stock.sourcePurchaseOrderLine

/-- The deliveries of a line less its reversed ones. -/
def receipts (db : Purchasing) (line : ℕ) : ℚ :=
  db.movements.sum fun m => if lineOf db m.stock = some line then supplied m else 0

/-- Every line has received what the ledger says was delivered on it. -/
def SupplierTotalsAgree (db : Purchasing) : Prop :=
  ∀ line ∈ db.orderLines.rows, line.receivedQuantity = receipts db line.id

instance (db : Purchasing) : Decidable (SupplierTotalsAgree db) :=
  inferInstanceAs (Decidable (∀ _ ∈ _, _))

/-! ## The invariant -/

/-- The invariant of the supplier totals, in the midst of a call that owes the ledger `owed line`
of each line. -/
structure SupplierTotals (owed : ℕ → ℚ) (db : Purchasing) : Prop where
  /-- A line's total is its receipts and what is owed. -/
  agree : ∀ line ∈ db.orderLines.rows, line.receivedQuantity = receipts db line.id + owed line.id
  /-- A received total is in the scale of its column. -/
  scale : ∀ line ∈ db.orderLines.rows, IsDecimal 2 line.receivedQuantity
  nonneg : ∀ line ∈ db.orderLines.rows, 0 ≤ line.receivedQuantity
  /-- An ordered quantity is in the scale of its column. -/
  ordered : ∀ line ∈ db.orderLines.rows, IsDecimal 2 line.quantity
  known : ∀ m ∈ db.movements.rows, (db.stock.find? m.stock).isSome
  /-- The order line an identity came from is there. -/
  sourced : ∀ stock ∈ db.stock.rows, ∀ line ∈ stock.sourcePurchaseOrderLine,
    (db.orderLines.find? line).isSome

/-- What is owed after `quantity` is paid on the line `line?`. -/
def pay (owed : ℕ → ℚ) (line? : Option ℕ) (quantity : ℚ) : ℕ → ℚ :=
  fun line => owed line - if line? = some line then quantity else 0

@[simp] lemma pay_zero {owed : ℕ → ℚ} {line? : Option ℕ} : pay owed line? 0 = owed := by
  funext line
  simp [pay]

lemma pay_pay {owed : ℕ → ℚ} {line? : Option ℕ} {q r : ℚ} :
    pay (pay owed line? q) line? r = pay owed line? (q + r) := by
  funext line
  unfold pay
  split <;> ring

lemma SupplierTotals.congr {owed : ℕ → ℚ} {db db' : Purchasing} (h : SupplierTotals owed db)
    (hstock : db'.stock = db.stock) (hmovements : db'.movements = db.movements)
    (hlines : db'.orderLines = db.orderLines) : SupplierTotals owed db' := by
  have hreceipts : receipts db' = receipts db := by
    unfold receipts lineOf
    rw [hstock, hmovements]
  obtain ⟨hagree, hscale, hnonneg, hordered, hknown, hsourced⟩ := h
  constructor
  · rwa [hlines, hreceipts]
  · rwa [hlines]
  · rwa [hlines]
  · rwa [hlines]
  · rwa [hstock, hmovements]
  · rwa [hstock, hlines]

lemma receipts_congr {db db' : Purchasing} (hmovements : db'.movements = db.movements)
    (hsource : ∀ m ∈ db.movements.rows, lineOf db' m.stock = lineOf db m.stock) (line : ℕ) :
    receipts db' line = receipts db line := by
  unfold receipts Table.sum
  rw [hmovements]
  exact congrArg List.sum (List.map_congr_left fun m hm => by rw [hsource m hm])

/-! ## Identities and movements -/

section Identities

variable {owed : ℕ → ℚ}

lemma lineOf_put {db db' : Purchasing} {stored : Stock} (row : Stock)
    (hstored : db.stock.find? row.id = some stored)
    (hsource : row.sourcePurchaseOrderLine = stored.sourcePurchaseOrderLine)
    (hput : db'.stock = db.stock.put row) : lineOf db' = lineOf db := by
  funext stock
  unfold lineOf
  rw [hput]
  by_cases hid : stock = row.id
  · rw [hid, Table.find?_put_self hstored, hstored]
    exact hsource
  · rw [Table.find?_put_of_ne hid]

lemma SupplierTotals.put {db : Purchasing} {stored : Stock} (hdb : SupplierTotals owed db)
    (row : Stock)
    (hstored : db.stock.find? row.id = some stored)
    (hsource : row.sourcePurchaseOrderLine = stored.sourcePurchaseOrderLine) :
    SupplierTotals owed { db with stock := db.stock.put row } := by
  have hlineOf : lineOf { db with stock := db.stock.put row } = lineOf db :=
    lineOf_put row hstored hsource rfl
  have hreceipts : ∀ line, receipts { db with stock := db.stock.put row } line = receipts db line :=
    receipts_congr rfl fun m _ => congrFun hlineOf m.stock
  constructor
  · intro line hline
    rw [hreceipts]
    exact hdb.agree line hline
  · exact hdb.scale
  · exact hdb.nonneg
  · exact hdb.ordered
  · intro m hm
    have hfound := hdb.known m hm
    show ((db.stock.put row).find? m.stock).isSome
    by_cases hid : m.stock = row.id
    · rw [hid, Table.find?_put_self hstored]
      rfl
    · rwa [Table.find?_put_of_ne hid]
  · intro stock hstock line hline
    rcases Table.mem_put.mp hstock with ⟨hold, -⟩ | ⟨rfl, -⟩
    · exact hdb.sourced stock hold line hline
    · rw [hsource] at hline
      exact hdb.sourced stored (Table.mem_of_find? hstored) line hline

/-- What a movement of kind `kind` supplies. -/
def supplyOf (kind : StockMovementKind) (change : ℚ) : ℚ :=
  if kind = .delivery ∨ kind = .deliveryReversal then change else 0

lemma supplied_eq {m : StockMovement} (h : m.kind.isOpening = false) :
    supplied m = supplyOf m.kind m.quantityChange := by
  unfold supplied supplyOf
  cases hkind : m.kind <;> simp_all [StockMovementKind.isOpening]

lemma supplyOf_eq_zero {kind : StockMovementKind} {change : ℚ} (h : kind.isSupply = false) :
    supplyOf kind change = 0 := by
  cases kind <;> simp_all [supplyOf, StockMovementKind.isSupply]

/-- The totals with the origin of every identity: what a call that opens no identity of an order
line leaves as it is. -/
def TotalsFrom (owed : ℕ → ℚ) (src : ℕ → Option ℕ) (db : Purchasing) : Prop :=
  SupplierTotals owed db ∧ lineOf db = src

/-- **A movement pays what it supplies** on its identity's line. -/
lemma moveStock_pays {stock : ℕ} {change : ℚ} {context : MovementContext} {src : ℕ → Option ℕ} :
    Triple (TotalsFrom owed src) (moveStock stock change context)
      (fun _ => TotalsFrom (pay owed (src stock) (supplyOf context.kind change)) src) := by
  rintro db ⟨hdb, rfl⟩ row db' h
  obtain ⟨locked, movements, hlocked, hinsert, hstock, hchange, -, -, -, -, hkind, hopening, -,
    rfl⟩ := run_moveStock h
  have hid : locked.id = stock := Table.key_of_find? hlocked
  have hstored : db.stock.find? (afterMovement locked row).id = some locked := by
    show db.stock.find? locked.id = some locked
    rw [hid, hlocked]
  have hput := hdb.put (afterMovement locked row) hstored rfl
  have hsupplied : supplied row = supplyOf context.kind change := by
    rw [supplied_eq (by rw [hkind, hopening]), hkind, hchange]
  set db' : Purchasing := { db with
    fresh := db.fresh + 1
    movements := movements
    stock := db.stock.put (afterMovement locked row) } with hdb'
  have hlineOf : lineOf db' = lineOf db :=
    lineOf_put (afterMovement locked row) hstored rfl rfl
  have hreceipts : ∀ line, receipts db' line =
      receipts db line + if lineOf db stock = some line then supplied row else 0 := by
    intro line
    unfold receipts
    rw [hlineOf, Table.sum_insert? hinsert, hstock]
  refine ⟨⟨?_, hput.scale, hput.nonneg, hput.ordered, ?_, hput.sourced⟩, hlineOf⟩
  · intro line hline
    rw [hreceipts, hsupplied, hdb.agree line hline]
    unfold pay
    ring
  · intro m hm
    rcases (Table.mem_insert? hinsert).mp hm with hold | rfl
    · exact hput.known m hold
    · show ((db.stock.put (afterMovement locked m)).find? m.stock).isSome
      have hself := Table.find?_put_self (r := afterMovement locked m) hstored
      rw [hstock, ← hid]
      exact Option.isSome_iff_exists.mpr ⟨_, hself⟩

lemma insertStock_totals {stock : Stock} {src : ℕ → Option ℕ} :
    Triple (TotalsFrom owed src) (insertStock stock)
      (fun _ db => SupplierTotals owed db ∧ lineOf db stock.id = stock.sourcePurchaseOrderLine ∧
        src stock.id = none ∧ ∀ s ≠ stock.id, lineOf db s = src s) := by
  rintro db₀ ⟨hdb, rfl⟩ _ _ h
  simp only [insertStock, run_bind, run_read, run_require, run_orRefuse, run_write] at h
  obtain ⟨row, db, hrow, _, _, ⟨rfl, rfl⟩, _, _, ⟨hsource, rfl⟩, inserted, _, ⟨hinsert, rfl⟩, rfl⟩ := h
  obtain ⟨rfl, hid, -, -, -, hline⟩ := run_stockColumns hrow
  have hnew : db.stock.find? stock.id = none := hid ▸ Table.find?_of_insert? hinsert
  have hself : inserted.find? stock.id = some row := hid ▸ Table.find?_insert?_self hinsert
  have hother : ∀ s ≠ stock.id, lineOf { db with stock := inserted } s = lineOf db s := by
    intro s hs
    unfold lineOf
    rw [Table.find?_insert?_of_ne hinsert (by rwa [hid])]
  have hmoved : ∀ m ∈ db.movements.rows, m.stock ≠ stock.id := by
    intro m hm heq
    have hfound := hdb.known m hm
    rw [heq, hnew] at hfound
    cases hfound
  have hreceipts : ∀ line, receipts { db with stock := inserted } line = receipts db line :=
    receipts_congr rfl fun m hm => hother m.stock (hmoved m hm)
  refine ⟨?_, ?_, ?_, hother⟩
  · constructor
    · intro line hmem
      rw [hreceipts]
      exact hdb.agree line hmem
    · exact hdb.scale
    · exact hdb.nonneg
    · exact hdb.ordered
    · intro m hm
      show (inserted.find? m.stock).isSome
      rw [Table.find?_insert?_of_ne hinsert (by rw [hid]; exact hmoved m hm)]
      exact hdb.known m hm
    · intro s hs line hmem
      rcases (Table.mem_insert? hinsert).mp hs with hold | rfl
      · exact hdb.sourced s hold line hmem
      · rw [hline] at hmem
        exact hsource line hmem
  · show (inserted.find? stock.id).bind Stock.sourcePurchaseOrderLine = _
    rw [hself]
    exact hline
  · show (db.stock.find? stock.id).bind Stock.sourcePurchaseOrderLine = none
    rw [hnew]
    rfl

lemma totalsFrom_rules (src : ℕ → Option ℕ) : InventoryRules (TotalsFrom owed src) where
  elsewhere hstock hmovements hlines hdb := by
    refine ⟨hdb.1.congr hstock hmovements hlines, ?_⟩
    rw [← hdb.2]
    unfold lineOf
    rw [hstock]
  movement hkind := moveStock_pays.conseq (fun _ hdb => hdb) fun _ _ hdb => by
    rwa [supplyOf_eq_zero hkind, pay_zero] at hdb
  identity {stock} _ _ hsource := insertStock_totals.conseq (fun _ hdb => hdb) fun _ db hdb => by
    obtain ⟨htotals, hself, hnew, hother⟩ := hdb
    refine ⟨htotals, funext fun s => ?_⟩
    by_cases hs : s = stock.id
    · rw [hs, hself, hsource, hnew]
    · exact hother s hs
  edit := by
    rintro stock data db₀ ⟨hdb, rfl⟩ _ _ h
    simp only [updateStock, saveStock, run_bind, run_theStock, run_write] at h
    obtain ⟨locked, _, ⟨hlocked, rfl⟩, row, db, hrow, rfl⟩ := h
    obtain ⟨rfl, hid, -, -, -, hsource⟩ := run_stockColumns hrow
    have hkey : locked.id = stock := Table.key_of_find? hlocked
    have hstored : db.stock.find? row.id = some locked := by
      rw [hid]
      show db.stock.find? locked.id = some locked
      rw [hkey, hlocked]
    exact ⟨hdb.put row hstored hsource, lineOf_put row hstored hsource rfl⟩
  retire := by
    rintro stock db ⟨hdb, rfl⟩ _ db' h
    simp only [deactivateStock, run_bind, run_theStock, run_require, run_write] at h
    obtain ⟨locked, _, ⟨hlocked, rfl⟩, _, _, ⟨-, rfl⟩, _, _, ⟨-, rfl⟩, rfl⟩ := h
    have hkey : locked.id = stock := Table.key_of_find? hlocked
    have hstored : db.stock.find? locked.id = some locked := by rw [hkey, hlocked]
    exact ⟨hdb.put { locked with isActive := false } hstored rfl,
      lineOf_put { locked with isActive := false } hstored rfl rfl⟩

lemma keeps_of_totalsFrom {α : Type} {x : PurchasingCall α}
    (h : ∀ src, Keeps (TotalsFrom owed src) x) : Keeps (SupplierTotals owed) x :=
  fun db hdb a db' hrun => (h (lineOf db) db ⟨hdb, rfl⟩ a db' hrun).1

lemma supplierTotals_rules : InventoryRules (SupplierTotals owed) where
  elsewhere hstock hmovements hlines hdb := hdb.congr hstock hmovements hlines
  movement hkind := keeps_of_totalsFrom fun src => (totalsFrom_rules src).movement hkind
  identity hquantity hversion hsource :=
    keeps_of_totalsFrom fun src => (totalsFrom_rules src).identity hquantity hversion hsource
  edit := keeps_of_totalsFrom fun src => (totalsFrom_rules src).edit
  retire := keeps_of_totalsFrom fun src => (totalsFrom_rules src).retire

end Identities

end Purchasing

end Docketworks
