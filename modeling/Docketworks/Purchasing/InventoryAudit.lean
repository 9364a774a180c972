import Docketworks.Purchasing.LedgerRuns

/-!
# The audit of the inventory

The checks of `inventory_audit_findings` on balances and movements
(`apps/purchasing/services/stock_movement_service.py`).

* `inventoryBalances`, `stockBalances` — the identities whose stored balance is not the sum of their
  movements.
* `movementContinuity` — the movements that do not start where the one before them ended.
* `audit_clean_iff` — both find nothing exactly when every account adds up and chains from zero.
* `audit_clean_of_reachable` — they find nothing in what the services leave.

**Design.**  Movements are ordered as they were posted, which is how `recorded_at` orders them.  The five
checks of job costs, returns, counts and supplier totals are left out.
-/

namespace Docketworks

open Library Library.Transaction

namespace Purchasing

/-! ## The checks -/

/-- `ledger_quantity` of `inventory_balances`. -/
def ledgerQuantity (db : Purchasing) (stock : Stock) : ℚ :=
  ((db.movements.rows.filter fun m => m.stock = stock.id).map StockMovement.quantityChange).sum

def inventoryDifference (db : Purchasing) (stock : Stock) : ℚ :=
  stock.quantity - ledgerQuantity db stock

/-- The findings of "Stock balances": the identity, its balance and its ledger's. -/
def stockBalances (db : Purchasing) : List (ℕ × ℚ × ℚ) :=
  (db.stock.rows.filter fun stock => stock.quantity ≠ ledgerQuantity db stock).map fun stock =>
    (stock.id, stock.quantity, ledgerQuantity db stock)

/-- `lag(quantity_after, 1, 0)` within the movements of one identity. -/
def precedingQuantity (earlier : List StockMovement) (stock : ℕ) : ℚ :=
  ((earlier.filter fun m => m.stock = stock).getLast?.map StockMovement.quantityAfter).getD 0

/-- Whether the movement starts where the one before it ended. -/
def continuityOf (earlier : List StockMovement) (m : StockMovement) : List ℕ :=
  if m.quantityBefore ≠ precedingQuantity earlier m.stock then [m.id] else []

/-- The breaks in some movements that follow the `earlier` ones. -/
def continuityFrom : List StockMovement → List StockMovement → List ℕ
  | _, [] => []
  | earlier, m :: ms => continuityOf earlier m ++ continuityFrom (earlier ++ [m]) ms

def movementContinuity (db : Purchasing) : List ℕ := continuityFrom [] db.movements.rows

/-- The part of `inventory_audit_findings` about balances and movements. -/
def auditClean (db : Purchasing) : Prop := stockBalances db = [] ∧ movementContinuity db = []

/-! ## What they find -/

/-- The account of an identity, of a list of movements. -/
def account (movements : List StockMovement) (stock : ℕ) : List (Entry ℚ) :=
  (movements.filter fun m => m.stock = stock).map toEntry

lemma account_concat (movements : List StockMovement) (m : StockMovement) (stock : ℕ) :
    account (movements ++ [m]) stock =
      account movements stock ++ if m.stock = stock then [toEntry m] else [] := by
  unfold account
  rw [List.filter_append, List.map_append]
  by_cases hstock : m.stock = stock <;> simp [hstock]

lemma continuityFrom_concat (earlier movements : List StockMovement) (m : StockMovement) :
    continuityFrom earlier (movements ++ [m]) =
      continuityFrom earlier movements ++ continuityOf (earlier ++ movements) m := by
  induction movements generalizing earlier with
  | nil => simp [continuityFrom]
  | cons first movements ih => simp [continuityFrom, ih, List.append_assoc]

/-- What an account closes with is what its last movement left. -/
lemma closing_account (movements : List StockMovement) (stock : ℕ) :
    Entry.closing 0 (account movements stock) = precedingQuantity movements stock := by
  unfold account precedingQuantity
  rcases List.eq_nil_or_concat (movements.filter fun m => m.stock = stock) with hnil | ⟨ms, m, hms⟩
  · rw [hnil]
    rfl
  · rw [hms, List.concat_eq_append, List.map_append, List.getLast?_concat]
    exact Entry.closing_concat 0 (ms.map toEntry) (toEntry m)

/-- **The check of continuity** finds nothing exactly when every account chains from zero. -/
lemma continuityFrom_eq_nil_iff {movements : List StockMovement}
    (hrows : ∀ m ∈ movements, m.quantityAfter = m.quantityBefore + m.quantityChange) :
    continuityFrom [] movements = [] ↔ ∀ stock, Entry.Chains 0 (account movements stock) := by
  induction movements using List.reverseRecOn with
  | nil => exact ⟨fun _ _ => trivial, fun _ => rfl⟩
  | append_singleton movements m ih =>
      have ih := ih fun x hx => hrows x (List.mem_append_left _ hx)
      have hbalance := hrows m (List.mem_append_right _ List.mem_cons_self)
      have hstart : continuityOf movements m = [] ↔
          (toEntry m).before = Entry.closing 0 (account movements m.stock) := by
        rw [closing_account]
        unfold continuityOf
        split
        · rename_i hne
          exact ⟨fun h => absurd h (List.cons_ne_nil _ _), fun h => absurd h hne⟩
        · rename_i heq
          exact ⟨fun _ => not_not.mp heq, fun _ => rfl⟩
      rw [continuityFrom_concat, List.append_eq_nil_iff, ih, List.nil_append, hstart]
      constructor
      · rintro ⟨hchains, hbefore⟩ stock
        rw [account_concat]
        split
        · rename_i hstock
          subst hstock
          exact (hchains m.stock).append hbefore hbalance
        · rw [List.append_nil]
          exact hchains stock
      · intro hchains
        refine ⟨fun stock => ?_, ?_⟩
        · have hall := hchains stock
          rw [account_concat] at hall
          exact hall.of_append
        · have hown := hchains m.stock
          rw [account_concat, if_pos rfl] at hown
          exact hown.before_of_concat

lemma ledgerQuantity_eq (db : Purchasing) (stock : Stock) :
    ledgerQuantity db stock = ((ledger db.movements stock.id).map Entry.change).sum := by
  unfold ledgerQuantity ledger
  rw [List.map_map]
  rfl

lemma stockBalances_eq_nil_iff {db : Purchasing} :
    stockBalances db = [] ↔ ∀ stock ∈ db.stock.rows, stock.quantity = ledgerQuantity db stock := by
  simp [stockBalances]

/-- **What a clean audit means.**  Over movements that keep their own balance equation, the audit finds
no balance and no movement exactly when the movements of every identity chain from zero and every
stored balance is the sum of its movements' changes. -/
theorem audit_clean_iff (db : Purchasing)
    (hrows : ∀ m ∈ db.movements.rows, m.quantityAfter = m.quantityBefore + m.quantityChange) :
    auditClean db ↔ (∀ stock, Entry.Chains 0 (ledger db.movements stock)) ∧
      ∀ stock ∈ db.stock.rows,
        stock.quantity = ((ledger db.movements stock.id).map Entry.change).sum := by
  unfold auditClean
  rw [stockBalances_eq_nil_iff, movementContinuity, continuityFrom_eq_nil_iff hrows]
  simp only [ledgerQuantity_eq]
  exact and_comm

/-- A delivery of which some bars are charged to a job, and nothing is issued past it. -/
theorem audit_clean_iff_after_a_receipt :
    let db := serveAll step newWorkshop
      [.processDeliveryReceipt (fun _ => .acknowledged) 3 sampleReceipt 9 [(3, 5)]]
    auditClean db ↔ (∀ stock, Entry.Chains 0 (ledger db.movements stock)) ∧
      ∀ stock ∈ db.stock.rows,
        stock.quantity = ((ledger db.movements stock.id).map Entry.change).sum :=
  audit_clean_iff _ (by decide +kernel)

/-! ## What the services leave -/

lemma LedgerInvariant.chains {db : Purchasing} (h : LedgerInvariant db) (stock : ℕ) :
    Entry.Chains 0 (ledger db.movements stock) := by
  cases hfind : db.stock.find? stock with
  | none =>
      rw [ledger_eq_nil h hfind]
      trivial
  | some row =>
      rw [← Table.key_of_find? hfind]
      exact (h.sound row (Table.mem_of_find? hfind)).chain

lemma LedgerInvariant.rows_balance {db : Purchasing} (h : LedgerInvariant db) :
    ∀ m ∈ db.movements.rows, m.quantityAfter = m.quantityBefore + m.quantityChange := by
  intro m hm
  have hmem : toEntry m ∈ ledger db.movements m.stock :=
    List.mem_map.mpr ⟨m, List.mem_filter.mpr ⟨hm, decide_eq_true rfl⟩, rfl⟩
  exact (h.chains m.stock).after_of_mem hmem

/-- **The services leave nothing to find.**  In every state reached from one without stock, whatever
was asked and whatever was refused, the audit finds no balance and no movement, and no identity
differs from its ledger. -/
theorem audit_clean_of_reachable (db : Purchasing) (h : Reachable step NoStock db) :
    auditClean db ∧ ∀ stock ∈ db.stock.rows, inventoryDifference db stock = 0 := by
  have hdb := h.keeps (fun _ => ledgerInvariant_of_noStock) step_keeps_ledger
  have hbalance : ∀ stock ∈ db.stock.rows, stock.quantity = ledgerQuantity db stock := by
    intro stock hstock
    rw [ledgerQuantity_eq]
    exact (hdb.sound stock hstock).balance
  refine ⟨⟨stockBalances_eq_nil_iff.mpr hbalance, ?_⟩, fun stock hstock => ?_⟩
  · exact (continuityFrom_eq_nil_iff hdb.rows_balance).mpr hdb.chains
  · rw [inventoryDifference, hbalance stock hstock, sub_self]

/-- Four bars more than there are are issued: the audit finds nothing in the negative balance. -/
theorem audit_clean_after_an_overdrawn_issue :
    let db := serveAll step newWorkshop
      [.processDeliveryReceipt (fun _ => .acknowledged) 3 sampleReceipt 9 [(3, 5)],
        .consumeStock 10 2 7 9 none none]
    (auditClean db ∧ ∀ stock ∈ db.stock.rows, inventoryDifference db stock = 0) ∧
      db.stock.rows.map Stock.quantity = [-4, 0] :=
  ⟨audit_clean_of_reachable _ (reachable_serveAll ⟨rfl, rfl⟩ _), by decide +kernel⟩

end Purchasing

end Docketworks
