import Docketworks.Library.BalanceChain
import Docketworks.Purchasing.Operations

/-!
# The inventory ledger

Every identity's stored balance is the ledger's: it is what its movements add up to, they chain
from zero, its version counts them, and a balance that is not zero is active.

* `ledger movements stock` — one identity's movements as an account, in the order of posting.
* `StockLedger` — what an identity owes its ledger.
* `LedgerInvariant` — `StockLedger` of every identity, with the two facts it needs to be
  preserved: a balance is of the column's scale, and a movement's identity is there.
* `run_moveStock` — what one movement writes; `moveStock_keeps` — it preserves the invariant.
-/

namespace Docketworks

open Library Library.Transaction

namespace Purchasing

/-! ## The invariant -/

/-- A movement as an entry of its identity's account. -/
def toEntry (m : StockMovement) : Entry ℚ :=
  ⟨m.quantityBefore, m.quantityChange, m.quantityAfter⟩

/-- One identity's account, in the order of posting. -/
def ledger (movements : Table StockMovement.id) (stock : ℕ) : List (Entry ℚ) :=
  (movements.rows.filter fun m => m.stock = stock).map toEntry

structure StockLedger (movements : Table StockMovement.id) (stock : Stock) : Prop where
  balance : stock.quantity = ((ledger movements stock.id).map Entry.change).sum
  chain : Entry.Chains 0 (ledger movements stock.id)
  version : stock.inventoryVersion = (ledger movements stock.id).length
  active : stock.quantity ≠ 0 → stock.isActive = true

/-- Every stock row agrees with its ledger. -/
def LedgerSound (db : Purchasing) : Prop :=
  ∀ stock ∈ db.stock.rows, StockLedger db.movements stock

/-- The invariant of the purchasing operations. -/
structure LedgerInvariant (db : Purchasing) : Prop where
  sound : LedgerSound db
  scale : ∀ stock ∈ db.stock.rows, IsDecimal 3 stock.quantity
  /-- A movement's identity is there: its column is a foreign key. -/
  known : ∀ m ∈ db.movements.rows, (db.stock.find? m.stock).isSome

lemma LedgerInvariant.congr {db db' : Purchasing} (h : LedgerInvariant db)
    (hstock : db'.stock = db.stock) (hmovements : db'.movements = db.movements) :
    LedgerInvariant db' := by
  obtain ⟨hsound, hscale, hknown⟩ := h
  constructor
  · unfold LedgerSound
    rw [hstock, hmovements]
    exact hsound
  · rwa [hstock]
  · rwa [hstock, hmovements]

/-! ## What the small calls do -/

section Calls

variable {db db' : Purchasing}

@[simp] lemma run_newId {id : ℕ} :
    newId.run db = .ok (id, db') ↔ db.fresh = id ∧ { db with fresh := db.fresh + 1 } = db' := by
  simp only [newId, run_bind, run_read, run_write, run_pure]
  constructor
  · rintro ⟨_, _, ⟨rfl, rfl⟩, _, _, rfl, rfl, rfl⟩
    exact ⟨rfl, rfl⟩
  · rintro ⟨rfl, rfl⟩
    exact ⟨_, _, ⟨rfl, rfl⟩, (), _, rfl, rfl, rfl⟩

@[simp] lemma run_column {digits places : ℕ} {q r : ℚ} :
    (column digits places q).run db = .ok (r, db') ↔
      |roundHalfAway places q| < 10 ^ (digits - places) ∧ roundHalfAway places q = r ∧
        db = db' := by
  simp only [column, run_bind, run_require, run_pure]
  constructor
  · rintro ⟨_, _, ⟨hfits, rfl⟩, rfl, rfl⟩
    exact ⟨hfits, rfl, rfl⟩
  · rintro ⟨hfits, rfl, rfl⟩
    exact ⟨(), _, ⟨hfits, rfl⟩, rfl, rfl⟩

@[simp] lemma run_theStock {id : ℕ} {stock : Stock} :
    (theStock id).run db = .ok (stock, db') ↔ db.stock.find? id = some stock ∧ db = db' := by
  simp only [theStock, run_bind, run_read, run_orRefuse]
  constructor
  · rintro ⟨_, _, ⟨rfl, rfl⟩, hfound, rfl⟩
    exact ⟨hfound, rfl⟩
  · rintro ⟨hfound, rfl⟩
    exact ⟨_, _, ⟨rfl, rfl⟩, hfound, rfl⟩

lemma readOnly_column {digits places : ℕ} {q : ℚ} : ReadOnly (column digits places q) :=
  .bind .require fun _ => .pure

lemma readOnly_column? {digits places : ℕ} {q : Option ℚ} : ReadOnly (column? digits places q) := by
  rcases q with _ | q
  · exact .pure
  · exact .bind readOnly_column fun _ => .pure

lemma readOnly_theJob {id : ℕ} : ReadOnly (theJob id) := .bind .read fun _ => .orRefuse
lemma readOnly_theCostSet {id : ℕ} : ReadOnly (theCostSet id) := .bind .read fun _ => .orRefuse
lemma readOnly_theStock {id : ℕ} : ReadOnly (theStock id) := .bind .read fun _ => .orRefuse
lemma readOnly_theMovement {id : ℕ} : ReadOnly (theMovement id) := .bind .read fun _ => .orRefuse
lemma readOnly_theCostLine {id : ℕ} : ReadOnly (theCostLine id) := .bind .read fun _ => .orRefuse
lemma readOnly_theOrder {id : ℕ} : ReadOnly (theOrder id) := .bind .read fun _ => .orRefuse
lemma readOnly_stockHoldingJob : ReadOnly stockHoldingJob := .bind .read fun _ => .orRefuse

lemma readOnly_stockColumns {stock : Stock} : ReadOnly (stockColumns stock) :=
  .bind .require fun _ => .bind readOnly_column fun _ => .bind readOnly_column? fun _ =>
    .bind .read fun _ => .bind .require fun _ => .pure

lemma run_stockColumns {stock row : Stock} (h : (stockColumns stock).run db = .ok (row, db')) :
    db' = db ∧ row.id = stock.id ∧ row.quantity = stock.quantity ∧
      row.inventoryVersion = stock.inventoryVersion ∧ row.isActive = stock.isActive ∧
        row.sourcePurchaseOrderLine = stock.sourcePurchaseOrderLine := by
  refine ⟨readOnly_stockColumns _ _ _ h, ?_⟩
  simp only [stockColumns, run_bind, run_pure] at h
  obtain ⟨_, _, -, _, _, -, _, _, -, _, _, -, _, _, -, rfl, -⟩ := h
  exact ⟨rfl, rfl, rfl, rfl, rfl⟩

lemma readOnly_checkMovement {change : ℚ} {context : MovementContext} :
    ReadOnly (checkMovement change context) := by
  refine .bind .require fun _ => .bind .require fun _ => .when ?_
  refine .bind .require fun _ => .bind .orRefuse fun _ => .bind .require fun _ => ?_
  exact .bind readOnly_theCostSet fun _ => .require

lemma isDecimal_of_checkMovement {change : ℚ} {context : MovementContext} {u : Unit}
    (h : (checkMovement change context).run db = .ok (u, db')) : IsDecimal 3 change := by
  simp only [checkMovement, run_bind, run_require] at h
  obtain ⟨_, _, ⟨hquantize, -⟩, -⟩ := h
  rw [← hquantize]
  exact isDecimal_roundHalfEven

end Calls

/-! ## A movement -/

/-- The stored movement: what was asked for, in the columns' scale. -/
structure Posted (asked row : StockMovement) : Prop where
  stock : row.stock = asked.stock
  change : row.quantityChange = roundHalfAway 3 asked.quantityChange
  before : row.quantityBefore = roundHalfAway 3 asked.quantityBefore
  after : row.quantityAfter = roundHalfAway 3 asked.quantityAfter
  balance : row.quantityAfter = row.quantityBefore + row.quantityChange
  kind : row.kind = asked.kind
  opening : row.openingQuantity = asked.openingQuantity
  reverses : row.reverses = asked.reverses

lemma run_movementRow {asked row : StockMovement} {db db' : Purchasing}
    (h : (movementRow asked).run db = .ok (row, db')) :
    row = { asked with
        id := db.fresh
        quantityChange := roundHalfAway 3 asked.quantityChange
        quantityBefore := roundHalfAway 3 asked.quantityBefore
        quantityAfter := roundHalfAway 3 asked.quantityAfter
        unitCost := roundHalfAway 2 asked.unitCost } ∧
      db' = { db with fresh := db.fresh + 1 } := by
  simp only [movementRow, run_bind, run_newId, run_column, run_pure] at h
  obtain ⟨_, _, ⟨-, rfl, rfl⟩, _, _, ⟨-, rfl, rfl⟩, _, _, ⟨-, rfl, rfl⟩, _, _, ⟨-, rfl, rfl⟩, _, _,
    ⟨rfl, rfl⟩, rfl, rfl⟩ := h
  exact ⟨rfl, rfl⟩

lemma readOnly_movementConstraints {row : StockMovement} : ReadOnly (movementConstraints row) :=
  .bind .require fun _ => .bind .require fun _ => .bind .read fun _ => .bind .require fun _ =>
    .require

lemma balance_of_movementConstraints {row : StockMovement} {db db' : Purchasing} {u : Unit}
    (h : (movementConstraints row).run db = .ok (u, db')) :
    row.quantityAfter = row.quantityBefore + row.quantityChange := by
  simp only [movementConstraints, run_bind, run_require] at h
  obtain ⟨_, _, ⟨hbalance, -⟩, -⟩ := h
  exact hbalance

lemma run_insertMovement {asked row : StockMovement} {db db' : Purchasing}
    (h : (insertMovement asked).run db = .ok (row, db')) :
    Posted asked row ∧ ∃ movements, db.movements.insert? row = some movements ∧
      db' = { db with fresh := db.fresh + 1, movements := movements } := by
  simp only [insertMovement, run_bind, run_read, run_orRefuse, run_write, run_pure] at h
  obtain ⟨stored, t, hrow, _, t', hcheck, _, _, ⟨rfl, rfl⟩, movements, _, ⟨hinsert, rfl⟩, _, _, rfl,
    rfl, rfl⟩ := h
  have hbalance := balance_of_movementConstraints hcheck
  obtain rfl := readOnly_movementConstraints _ _ _ hcheck
  obtain ⟨hstored, rfl⟩ := run_movementRow hrow
  refine ⟨?_, movements, hinsert, rfl⟩
  constructor
  case balance => exact hbalance
  all_goals rw [hstored]

def afterMovement (locked : Stock) (row : StockMovement) : Stock :=
  { projected locked (locked.quantity + row.quantityChange) with quantity := row.quantityAfter }

/-- **One movement.**  It finds the identity, adds one row to the ledger and projects it onto the
balance; the other tables stay. -/
lemma run_moveStock {stock : ℕ} {change : ℚ} {context : MovementContext} {row : StockMovement}
    {db db' : Purchasing} (h : (moveStock stock change context).run db = .ok (row, db')) :
    ∃ locked movements, db.stock.find? stock = some locked ∧
      db.movements.insert? row = some movements ∧
      row.stock = stock ∧ row.quantityChange = change ∧ IsDecimal 3 change ∧
      row.quantityBefore = roundHalfAway 3 locked.quantity ∧
      row.quantityAfter = row.quantityBefore + row.quantityChange ∧
      IsDecimal 3 row.quantityAfter ∧
      row.kind = context.kind ∧ context.kind.isOpening = false ∧
      row.reverses = context.reverses ∧
      db' = { db with
        fresh := db.fresh + 1
        movements := movements
        stock := db.stock.put (afterMovement locked row) } := by
  simp only [moveStock, run_bind, run_require, run_theStock, run_pure] at h
  obtain ⟨_, _, ⟨hkind, rfl⟩, locked, _, ⟨hlocked, rfl⟩, _, _, hcheck, posted, _, hinsert, _, _,
    hsave, rfl, rfl⟩ := h
  have hchange := isDecimal_of_checkMovement hcheck
  obtain rfl := readOnly_checkMovement _ _ _ hcheck
  obtain ⟨hposted, movements, hrow, rfl⟩ := run_insertMovement hinsert
  have hid : locked.id = stock := Table.key_of_find? hlocked
  have hexact : posted.quantityChange = change := by
    rw [hposted.change, roundHalfAway_of_isDecimal hchange]
  simp only [saveBalance, run_bind, run_require, run_column, run_write] at hsave
  obtain ⟨_, _, ⟨-, rfl⟩, quantity, _, ⟨-, rfl, rfl⟩, rfl⟩ := hsave
  refine ⟨locked, movements, hlocked, hrow, hposted.stock.trans hid, hexact, hchange,
    hposted.before, hposted.balance, hposted.after ▸ isDecimal_roundHalfAway, hposted.kind, hkind,
    hposted.reverses, ?_⟩
  simp only [afterMovement, hexact, hposted.after, projected]

lemma ledger_insert {movements movements' : Table StockMovement.id} {row : StockMovement}
    (h : movements.insert? row = some movements') (stock : ℕ) :
    ledger movements' stock =
      ledger movements stock ++ if row.stock = stock then [toEntry row] else [] := by
  unfold ledger
  rw [Table.rows_insert? h, List.filter_append, List.map_append]
  by_cases hstock : row.stock = stock <;> simp [hstock]

lemma StockLedger.of_other {movements movements' : Table StockMovement.id} {row : StockMovement}
    {stock : Stock} (h : StockLedger movements stock) (hinsert : movements.insert? row = some movements')
    (hne : row.stock ≠ stock.id) : StockLedger movements' stock := by
  have hsame : ledger movements' stock.id = ledger movements stock.id := by
    rw [ledger_insert hinsert, if_neg hne, List.append_nil]
  obtain ⟨hbalance, hchain, hversion, hactive⟩ := h
  constructor
  · rwa [hsame]
  · rwa [hsame]
  · rwa [hsame]
  · exact hactive

lemma StockLedger.afterMovement {movements movements' : Table StockMovement.id}
    {row : StockMovement} {locked : Stock} (h : StockLedger movements locked)
    (hscale : IsDecimal 3 locked.quantity) (hinsert : movements.insert? row = some movements')
    (hstock : row.stock = locked.id)
    (hbefore : row.quantityBefore = roundHalfAway 3 locked.quantity)
    (hafter : row.quantityAfter = row.quantityBefore + row.quantityChange) :
    StockLedger movements' (afterMovement locked row) := by
  have hbefore' : row.quantityBefore = locked.quantity := by
    rw [hbefore, roundHalfAway_of_isDecimal hscale]
  have hledger : ledger movements' locked.id = ledger movements locked.id ++ [toEntry row] := by
    rw [ledger_insert hinsert, if_pos hstock]
  have hclosing : Entry.closing 0 (ledger movements locked.id) = locked.quantity := by
    rw [h.chain.closing_eq, zero_add, h.balance]
  constructor
  · calc row.quantityAfter
        = locked.quantity + row.quantityChange := by rw [hafter, hbefore']
      _ = ((ledger movements locked.id).map Entry.change).sum + row.quantityChange := by
          rw [h.balance]
      _ = ((ledger movements' locked.id).map Entry.change).sum := by
          rw [hledger, List.map_append, List.sum_append]
          simp [toEntry]
  · show Entry.Chains 0 (ledger movements' locked.id)
    rw [hledger]
    exact h.chain.append (hbefore'.trans hclosing.symm) hafter
  · show locked.inventoryVersion + 1 = (ledger movements' locked.id).length
    rw [hledger, List.length_append, h.version]
    rfl
  · intro hne
    have hne' : locked.quantity + row.quantityChange ≠ 0 := by
      rw [← hbefore', ← hafter]
      exact hne
    simp [Purchasing.afterMovement, projected, hne']

/-- **A movement preserves the invariant.** -/
lemma moveStock_keeps {stock : ℕ} {change : ℚ} {context : MovementContext} :
    Keeps LedgerInvariant (moveStock stock change context) := by
  intro db hdb row db' h
  obtain ⟨locked, movements, hlocked, hinsert, hstock, -, -, hbefore, hafter, hscale, -, -, -, rfl⟩ :=
    run_moveStock h
  have hid : locked.id = stock := Table.key_of_find? hlocked
  have hmem : locked ∈ db.stock.rows := Table.mem_of_find? hlocked
  have hput : ∀ s ∈ (db.stock.put (afterMovement locked row)).rows,
      (s ∈ db.stock.rows ∧ s.id ≠ locked.id) ∨ s = afterMovement locked row := by
    intro s hs
    rcases Table.mem_put.mp hs with ⟨hmem, hne⟩ | ⟨heq, -⟩
    · exact .inl ⟨hmem, hne⟩
    · exact .inr heq
  constructor
  · intro s hs
    rcases hput s hs with ⟨hold, hne⟩ | rfl
    · refine (hdb.sound s hold).of_other hinsert ?_
      rw [hstock, ← hid]
      exact Ne.symm hne
    · exact (hdb.sound locked hmem).afterMovement (hdb.scale locked hmem) hinsert
        (hstock.trans hid.symm) hbefore hafter
  · intro s hs
    rcases hput s hs with ⟨hold, -⟩ | rfl
    · exact hdb.scale s hold
    · exact hscale
  · intro m hm
    have hfound : (db.stock.find? m.stock).isSome := by
      rcases (Table.mem_insert? hinsert).mp hm with hold | rfl
      · exact hdb.known m hold
      · rw [hstock, hlocked]
        rfl
    by_cases hsame : m.stock = locked.id
    · have hself : (db.stock.put (afterMovement locked row)).find? locked.id = _ :=
        Table.find?_put_self (r := afterMovement locked row) (by rw [← hid] at hlocked; exact hlocked)
      show ((db.stock.put (afterMovement locked row)).find? m.stock).isSome
      rw [hsame, hself]
      rfl
    · show ((db.stock.put (afterMovement locked row)).find? m.stock).isSome
      rw [Table.find?_put_of_ne (by exact hsame)]
      exact hfound

end Purchasing

end Docketworks
