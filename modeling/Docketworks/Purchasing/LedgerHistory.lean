import Docketworks.Purchasing.LedgerRuns

/-!
# The history a request cannot rewrite

From any state on, whatever is asked and whatever is refused: the movements on record stay, in the
order of posting, with the new ones after them, and every identity stays, for the order line it was
received for.  Its account is extended by the movements posted since; its balance is the one the
last of them left and its version is raised by their number.  So a version names a balance: a count
that finds the version it observed finds the balance it observed.

* `Continues start db` — what `db` owes to the earlier state `start`.
* `continues_rules` — every service preserves it.
-/

namespace Docketworks

open Library Library.Transaction

namespace Purchasing

variable {start db : Purchasing}

/-- What has become of an identity since, by the movements posted to it. -/
structure IdentityKept (before : Table StockMovement.id) (stock : Stock)
    (after : Table StockMovement.id) (row : Stock) : Prop where
  receivedFor : row.sourcePurchaseOrderLine = stock.sourcePurchaseOrderLine
  /-- The account is extended, the balance is the one it closes with and the version counts. -/
  extended : ∃ entries, ledger after stock.id = ledger before stock.id ++ entries ∧
    row.quantity = Entry.closing stock.quantity entries ∧
    row.inventoryVersion = stock.inventoryVersion + entries.length

/-- What a later state owes to the state `start`. -/
structure Continues (start db : Purchasing) : Prop where
  posted : start.movements.rows <+: db.movements.rows
  identity : ∀ stock ∈ start.stock.rows, ∃ row, db.stock.find? stock.id = some row ∧
    IdentityKept start.movements stock db.movements row

lemma IdentityKept.refl (movements : Table StockMovement.id) (stock : Stock) :
    IdentityKept movements stock movements stock :=
  ⟨rfl, [], (List.append_nil _).symm, rfl, rfl⟩

lemma Continues.refl (db : Purchasing) : Continues db db :=
  ⟨List.prefix_rfl, fun stock hstock =>
    ⟨stock, Table.find?_of_mem hstock, IdentityKept.refl db.movements stock⟩⟩

/-! ## The writes that concern an identity -/

/-- The identity's row is replaced by one with the same balance, version and order line. -/
lemma IdentityKept.edited {before after : Table StockMovement.id} {stock old row : Stock}
    (h : IdentityKept before stock after old)
    (hquantity : row.quantity = old.quantity)
    (hversion : row.inventoryVersion = old.inventoryVersion)
    (hline : row.sourcePurchaseOrderLine = old.sourcePurchaseOrderLine) :
    IdentityKept before stock after row := by
  obtain ⟨hreceived, entries, hledger, hclosing, hcount⟩ := h
  exact ⟨hline.trans hreceived, entries, hledger, hquantity.trans hclosing, hversion.trans hcount⟩

/-- A movement of the identity is one entry more. -/
lemma IdentityKept.moved {before after after' : Table StockMovement.id} {stock old : Stock}
    {m : StockMovement} (h : IdentityKept before stock after old)
    (hinsert : after.insert? m = some after') (hstock : m.stock = stock.id) :
    IdentityKept before stock after' (afterMovement old m) := by
  obtain ⟨hreceived, entries, hledger, -, hcount⟩ := h
  refine ⟨hreceived, entries ++ [toEntry m], ?_, ?_, ?_⟩
  · rw [ledger_insert hinsert, if_pos hstock, hledger, List.append_assoc]
  · exact (Entry.closing_concat stock.quantity entries (toEntry m)).symm
  · show old.inventoryVersion + 1 = _
    rw [hcount, List.length_append]
    rfl

/-- A movement of another identity is none of its account. -/
lemma IdentityKept.of_other {before after after' : Table StockMovement.id} {stock row : Stock}
    {m : StockMovement} (h : IdentityKept before stock after row)
    (hinsert : after.insert? m = some after') (hstock : m.stock ≠ stock.id) :
    IdentityKept before stock after' row := by
  obtain ⟨hreceived, entries, hledger, hrest⟩ := h
  refine ⟨hreceived, entries, ?_, hrest⟩
  rw [ledger_insert hinsert, if_neg hstock, List.append_nil, hledger]

/-- An identity's row is replaced and no movement is posted. -/
lemma Continues.put (h : Continues start db) {old row : Stock}
    (hold : db.stock.find? row.id = some old) (hquantity : row.quantity = old.quantity)
    (hversion : row.inventoryVersion = old.inventoryVersion)
    (hline : row.sourcePurchaseOrderLine = old.sourcePurchaseOrderLine) :
    Continues start { db with stock := db.stock.put row } := by
  refine ⟨h.posted, fun stock hstock => ?_⟩
  obtain ⟨kept, hkept, hsince⟩ := h.identity stock hstock
  by_cases hsame : stock.id = row.id
  · have heq : kept = old := by
      rw [hsame, hold] at hkept
      exact (Option.some.inj hkept).symm
    subst heq
    refine ⟨row, ?_, hsince.edited hquantity hversion hline⟩
    show (db.stock.put row).find? stock.id = some row
    rw [hsame, Table.find?_put_self hold]
  · refine ⟨kept, ?_, hsince⟩
    show (db.stock.put row).find? stock.id = some kept
    rw [Table.find?_put_of_ne hsame, hkept]

lemma moveStock_continues {stock : ℕ} {change : ℚ} {context : MovementContext} :
    Keeps (Continues start) (moveStock stock change context) := by
  intro db hdb m db' h
  obtain ⟨locked, movements, hlocked, hinsert, hstock, -, -, -, -, -, -, -, -, rfl⟩ := run_moveStock h
  have hid : locked.id = stock := Table.key_of_find? hlocked
  constructor
  · show start.movements.rows <+: movements.rows
    rw [Table.rows_insert? hinsert]
    exact hdb.posted.trans (List.prefix_append _ _)
  · intro identity hidentity
    obtain ⟨kept, hkept, hsince⟩ := hdb.identity identity hidentity
    by_cases hsame : identity.id = stock
    · have heq : kept = locked := by
        rw [hsame, hlocked] at hkept
        exact (Option.some.inj hkept).symm
      subst heq
      refine ⟨afterMovement kept m, ?_, hsince.moved hinsert (hstock.trans hsame.symm)⟩
      show (db.stock.put (afterMovement kept m)).find? identity.id = _
      rw [hsame, ← hid]
      exact Table.find?_put_self (r := afterMovement kept m) (hid ▸ hlocked)
    · refine ⟨kept, ?_, hsince.of_other hinsert fun heq => hsame (heq.symm.trans hstock)⟩
      show (db.stock.put (afterMovement locked m)).find? identity.id = _
      have hne : identity.id ≠ (afterMovement locked m).id := fun heq => hsame (heq.trans hid)
      rw [Table.find?_put_of_ne hne, hkept]

lemma insertStock_continues {stock : Stock} : Keeps (Continues start) (insertStock stock) := by
  intro db hdb _ db' h
  simp only [insertStock, run_bind, run_read, run_require, run_orRefuse, run_write] at h
  obtain ⟨row, _, hrow, _, _, ⟨rfl, rfl⟩, _, _, ⟨-, rfl⟩, inserted, _, ⟨hinsert, rfl⟩, rfl⟩ := h
  obtain ⟨rfl, -⟩ := run_stockColumns hrow
  refine ⟨hdb.posted, fun identity hidentity => ?_⟩
  obtain ⟨kept, hkept, hsince⟩ := hdb.identity identity hidentity
  refine ⟨kept, ?_, hsince⟩
  rw [Table.find?_eq_some_iff] at hkept
  exact Table.find?_eq_some_iff.mpr ⟨(Table.mem_insert? hinsert).mpr (.inl hkept.1), hkept.2⟩

lemma updateStock_continues {stock : ℕ} {data : StockWriteData} :
    Keeps (Continues start) (updateStock stock data) := by
  intro db hdb _ db' h
  simp only [updateStock, saveStock, run_bind, run_theStock, run_write] at h
  obtain ⟨locked, _, ⟨hlocked, rfl⟩, row, _, hrow, rfl⟩ := h
  obtain ⟨rfl, hid, hquantity, hversion, -, hline⟩ := run_stockColumns hrow
  rename_i db
  refine @Continues.put start db hdb locked row ?_ hquantity hversion hline
  rw [hid]
  show db.stock.find? locked.id = some locked
  rw [Table.key_of_find? hlocked, hlocked]

lemma deactivateStock_continues {stock : ℕ} :
    Keeps (Continues start) (deactivateStock stock) := by
  intro db hdb _ db' h
  simp only [deactivateStock, run_bind, run_theStock, run_require, run_write] at h
  obtain ⟨locked, _, ⟨hlocked, rfl⟩, _, _, ⟨-, rfl⟩, _, _, ⟨-, rfl⟩, rfl⟩ := h
  have hfound : db.stock.find? locked.id = some locked := by
    rw [Table.key_of_find? hlocked, hlocked]
  exact hdb.put hfound rfl rfl rfl

lemma continues_rules : StockRules (Continues start) where
  elsewhere hstock hmovements h := by
    refine ⟨?_, fun stock hmem => ?_⟩
    · rw [hmovements]
      exact h.posted
    · rw [hstock, hmovements]
      exact h.identity stock hmem
  movement := moveStock_continues
  identity _ _ := insertStock_continues
  edit := updateStock_continues
  retire := deactivateStock_continues

/-! ## Every run -/

/-- **The ledger is append-only.**  From any state, whatever is asked and whatever is refused: the
movements on record stay and new ones come after them, every identity stays for its order line, and
its balance and version are what the movements posted since have made of them. -/
theorem ledger_append_only (start : Purchasing) (ops : List Op) :
    Continues start (serveAll step start ops) :=
  serveAll_keeps continues_rules.step_keeps (Continues.refl start) ops

/-- **A version names a balance.**  Where requests have left an identity with the version it had,
they have posted no movement to it, and its balance is the one it had. -/
theorem balance_of_same_version (start : Purchasing) (ops : List Op) (stock row : Stock)
    (hstock : start.stock.find? stock.id = some stock)
    (hrow : (serveAll step start ops).stock.find? stock.id = some row)
    (hversion : row.inventoryVersion = stock.inventoryVersion) :
    row.quantity = stock.quantity ∧
      ledger (serveAll step start ops).movements stock.id = ledger start.movements stock.id := by
  have hcontinues := serveAll_keeps continues_rules.step_keeps (Continues.refl start) ops
  obtain ⟨kept, hkept, -, entries, hledger, hclosing, hcount⟩ :=
    hcontinues.identity stock (Table.mem_of_find? hstock)
  obtain rfl : kept = row := Option.some.inj (hkept.symm.trans hrow)
  have hnone : entries = [] := by
    rw [← List.length_eq_zero_iff]
    omega
  subst hnone
  exact ⟨hclosing, hledger.trans (List.append_nil _)⟩

/-- Three bars are received to stock and two to a job: the rack's name and an issue from the other
identity leave the three. -/
theorem balance_of_renamed_rack :
    let start := serveAll step newWorkshop
      [.processDeliveryReceipt (fun _ => .acknowledged) 3 sampleReceipt 9 [(3, 5)]]
    let later := serveAll step start
      [.updateStock 10 { location := some (some "Rack 2") }, .consumeStock 14 2 1 9 none none]
    ∃ stock row : Stock, later.stock.find? 10 = some row ∧ row.location = some "Rack 2" ∧
      row.quantity = stock.quantity ∧ ledger later.movements stock.id = ledger start.movements stock.id := by
  intro start later
  have hrun : (start.stock.find? 10).any (fun stock => (later.stock.find? 10).any fun row =>
      decide (row.inventoryVersion = stock.inventoryVersion ∧ row.location = some "Rack 2")) = true := by
    decide +kernel
  obtain ⟨stock, hstock, hfound⟩ := (Option.any_eq_true _ _).mp hrun
  obtain ⟨row, hrow, hdecide⟩ := (Option.any_eq_true _ _).mp hfound
  obtain ⟨hversion, hrack⟩ := of_decide_eq_true hdecide
  have hid : stock.id = 10 := Table.key_of_find? hstock
  rw [← hid] at hstock hrow
  exact ⟨stock, row, hid ▸ hrow, hrack, balance_of_same_version start _ stock row hstock hrow hversion⟩

end Purchasing

end Docketworks
