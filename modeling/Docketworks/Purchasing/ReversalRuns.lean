import Docketworks.Purchasing.Evidence
import Docketworks.Purchasing.SupplierRuns

/-!
# A delivery is reversed once

A received quantity can be taken back through the identity it went to or, where it was charged to a
job, through the job's cost line; and the job's issue can be returned on its own.  Each of these may
be asked again and in any order.

* `Allocation`, `Recorded` — one received quantity, as its receipt left it on record.
* `Stage` — how far an allocation is reversed: the ordered line, the reversal in the ledger and the
  credit of the job.
* `UndoesCleanly` — the condition: the quantity is a whole number of the line's units, and a
  reversal through the identity leaves no charge behind.
* `reversal_undoes_once` — every run of reversals and returns that meet it;
  `reversal_through_stock_keeps_the_charge` — one that does not.
-/

namespace Docketworks

open Library Library.Transaction

namespace Purchasing

/-! ## An allocation on record -/

/-- A received quantity: the identity it went to, its order line, the movement that received it, and
the job's cost line with its issue where it was charged to a job. -/
structure Allocation where
  stock : ℕ
  line : ℕ
  receipt : StockMovement
  charge : Option (CostLine × StockMovement)

def reversalsOf (db : Purchasing) (m : StockMovement) : List StockMovement :=
  db.movements.rows.filter fun other => other.reverses = some m.id

/-- The job's charge is on record: the issue of the identity, with its cost line. -/
structure ChargeRecorded (stock : ℕ) (cost : CostLine) (issue : StockMovement) (db : Purchasing) :
    Prop where
  posted : issue ∈ db.movements.rows
  stock : issue.stock = stock
  kind : issue.kind = .issue
  costLine : issue.costLine = some cost.id
  stored : db.costing.lines.find? cost.id = some cost
  /-- The cost line says which order it was received on. -/
  ofOrder : (textOf cost.extRefs "purchase_order_id").isSome
  alone : ∀ m ∈ db.movements.rows, m.costLine = some cost.id → m = issue

/-- The allocation is on record, as its receipt left it. -/
structure Recorded (a : Allocation) (db : Purchasing) : Prop where
  source : lineOf db a.stock = some a.line
  receipt : a.receipt ∈ db.movements.rows
  stock : a.receipt.stock = a.stock
  kind : a.receipt.kind = .delivery
  alone : ∀ m ∈ db.movements.rows, m.stock = a.stock → isReceipt m = true → m = a.receipt
  charge : ∀ cost issue, a.charge = some (cost, issue) → ChargeRecorded a.stock cost issue db

/-- A movement is added: cost lines, and where identities came from, stay. -/
structure Adds (row : StockMovement) (db db' : Purchasing) : Prop where
  movements : db.movements.insert? row = some db'.movements
  source : lineOf db' = lineOf db
  lines : ∀ id line, db.costing.lines.find? id = some line →
    db'.costing.lines.find? id = some line

lemma reversalsOf_adds {row m : StockMovement} {db db' : Purchasing} (h : Adds row db db') :
    reversalsOf db' m =
      reversalsOf db m ++ if row.reverses = some m.id then [row] else [] := by
  unfold reversalsOf
  rw [Table.rows_insert? h.movements, List.filter_append]
  by_cases hrow : row.reverses = some m.id <;> simp [hrow]

lemma Recorded.adds {a : Allocation} {row : StockMovement} {db db' : Purchasing}
    (h : Recorded a db) (hadds : Adds row db db') (hkind : isReceipt row = false)
    (hcost : ∀ cost issue, a.charge = some (cost, issue) → row.costLine ≠ some cost.id) :
    Recorded a db' := by
  have hmem : ∀ m, m ∈ db'.movements.rows ↔ m ∈ db.movements.rows ∨ m = row := fun m =>
    Table.mem_insert? hadds.movements
  refine ⟨(congrFun hadds.source _).trans h.source, (hmem _).mpr (.inl h.receipt), h.stock, h.kind,
    fun m hm hstock hreceipt => ?_, fun cost issue hcharge => ?_⟩
  · rcases (hmem m).mp hm with hold | rfl
    · exact h.alone m hold hstock hreceipt
    · rw [hkind] at hreceipt
      cases hreceipt
  · obtain ⟨hissue, hstock, hissued, hline, hstored, horder, halone⟩ := h.charge cost issue hcharge
    refine ⟨(hmem _).mpr (.inl hissue), hstock, hissued, hline, hadds.lines _ _ hstored, horder,
      fun m hm hm' => ?_⟩
    rcases (hmem m).mp hm with hold | rfl
    · exact halone m hold hm'
    · exact absurd hm' (hcost cost issue hcharge)

/-! ## The two writes -/

variable {db db' : Purchasing}

lemma lineOf_afterMovement {locked : Stock} {row : StockMovement}
    (hlocked : db.stock.find? locked.id = some locked)
    (hstock : db'.stock = db.stock.put (afterMovement locked row)) : lineOf db' = lineOf db :=
  lineOf_put (afterMovement locked row) hlocked rfl hstock

lemma adds_of_moveStock {stock : ℕ} {change : ℚ} {context : MovementContext} {row : StockMovement}
    (h : (moveStock stock change context).run db = .ok (row, db')) :
    Adds row db db' ∧ db'.orderLines = db.orderLines ∧ db'.orders = db.orders ∧ row.stock = stock ∧
      row.quantityChange = change ∧ Linked context row := by
  have hlinks := run_moveStock_links h
  obtain ⟨locked, movements, hlocked, hinsert, hstock, hchange, -, -, -, -, -, -, -, rfl⟩ :=
    run_moveStock h
  have hkey : locked.id = stock := Table.key_of_find? hlocked
  exact ⟨⟨hinsert, lineOf_afterMovement (hkey ▸ hlocked) rfl, fun _ _ hline => hline⟩, rfl, rfl, hstock,
    hchange, hlinks⟩

/-- The credit of a returned charge: the opposite quantity at the same figures. -/
structure Credits (cost credit : CostLine) : Prop where
  quantity : credit.quantity = -cost.quantity
  unitCost : credit.unitCost = cost.unitCost
  unitRev : credit.unitRev = cost.unitRev

lemma run_returnableIssueCost {movement : StockMovement} {cost : CostLine}
    (h : (returnableIssueCost movement).run db = .ok (cost, db')) :
    isReturnableIssue movement = true ∧ ∃ line, movement.costLine = some line ∧
      db.costing.lines.find? line = some cost := by
  simp only [returnableIssueCost, theCostLine, run_bind, run_require, run_orRefuse, run_read,
    run_pure] at h
  obtain ⟨_, _, ⟨hreturnable, rfl⟩, line, _, ⟨hline, rfl⟩, _, _, ⟨-, rfl⟩, found, _,
    ⟨_, _, ⟨rfl, rfl⟩, hstored, rfl⟩, _, _, ⟨-, rfl⟩, _, _, ⟨-, rfl⟩, _, _, ⟨-, rfl⟩, rfl, rfl⟩ := h
  exact ⟨hreturnable, line, hline, hstored⟩

/-- **A return** finds the issue returned already, or adds its return with a credit. -/
lemma run_reverseIssue {movement staff : ℕ} {reason : String} {row : StockMovement}
    (h : (reverseIssue movement staff reason).run db = .ok (row, db')) :
    ∃ original, db.movements.find? movement = some original ∧
      (row ∈ reversalsOf db original ∧ db' = db ∨
        reversalsOf db original = [] ∧ isReturnableIssue original = true ∧
          ∃ line cost credit, original.costLine = some line ∧
            db.costing.lines.find? line = some cost ∧ Credits cost credit ∧
            db.costing.lines.find? credit.id = none ∧
            db'.costing.lines.find? credit.id = some credit ∧
            Adds row db db' ∧ db'.orderLines = db.orderLines ∧ db'.orders = db.orders ∧
            row.stock = original.stock ∧ row.kind = .return ∧ row.costLine = some credit.id ∧
            row.reverses = some original.id) := by
  simp only [reverseIssue, theMovement, run_bind, run_read, run_orRefuse] at h
  obtain ⟨original, _, ⟨_, _, ⟨rfl, rfl⟩, hfound, rfl⟩, existing, _, ⟨hexisting, rfl⟩, h⟩ := h
  refine ⟨original, hfound, ?_⟩
  rcases existing with _ | reversal
  · have hnone : reversalsOf db original = [] := by
      rw [reversalsOf, List.filter_eq_nil_iff]
      exact List.find?_eq_none.mp hexisting
    simp only [run_bind, run_newId, run_read] at h
    obtain ⟨cost, _, hcost, id, _, ⟨-, rfl⟩, today, _, ⟨rfl, rfl⟩, _, t, hsave, hmove⟩ := h
    obtain rfl := readOnly_returnableIssueCost _ _ _ hcost
    obtain ⟨hreturnable, line, hline, hstored⟩ := run_returnableIssueCost hcost
    obtain ⟨costing, hcredit, rfl⟩ := run_on.mp hsave
    obtain ⟨hinsert, -⟩ := CostLine.run_save_new (show LineKind.material ≠ .time by decide) hcredit
    obtain ⟨hadds, hlines, horders, hstock, -, hlinks⟩ := adds_of_moveStock hmove
    have hkept : db'.costing = costing := by
      obtain ⟨_, _, -, -, -, -, -, -, -, -, -, -, -, rfl⟩ := run_moveStock hmove
      rfl
    refine .inr ⟨hnone, hreturnable, line, cost, _, hline, hstored, ?_,
      Table.find?_of_insert? hinsert, ?_, ⟨hadds.movements, hadds.source, fun key old hold => ?_⟩,
      hlines, horders, hstock, hlinks.kind, hlinks.costLine, hlinks.reverses⟩
    · exact ⟨rfl, rfl, rfl⟩
    · rw [hkept]
      exact Table.find?_insert?_self hinsert
    · rw [hkept, Table.find?_insert?_of_ne hinsert ?_]
      · exact hold
      · rintro rfl
        exact absurd (hold.symm.trans (Table.find?_of_insert? hinsert)) (Option.some_ne_none old)
  · have hmem : reversal ∈ reversalsOf db original := by
      have hreverses := List.find?_some hexisting
      exact List.mem_filter.mpr ⟨List.mem_of_find?_eq_some hexisting, hreverses⟩
    obtain ⟨rfl, rfl⟩ := run_pure.mp h
    exact .inl ⟨hmem, rfl⟩

/-! ## How far an allocation is reversed -/

/-- The charge is as it was issued, or credited once. -/
def ChargeStands (cost : CostLine) (issue : StockMovement) (db : Purchasing) : Prop :=
  reversalsOf db issue = [] ∨ ∃ back credit, reversalsOf db issue = [back] ∧
    back.costLine = some credit.id ∧ db.costing.lines.find? credit.id = some credit ∧
    Credits cost credit

/-- An allocation of which the line had received `received` before anything was taken back. -/
structure Stage (a : Allocation) (received : ℚ) (reversed : Bool) (db : Purchasing) : Prop where
  recorded : Recorded a db
  /-- The ordered line has lost the quantity, once it is reversed. -/
  line : ∃ row, db.orderLines.find? a.line = some row ∧
    row.receivedQuantity = received - if reversed then supplied a.receipt else 0
  ledger : (reversalsOf db a.receipt).map StockMovement.quantityChange =
    if reversed then [-supplied a.receipt] else []
  charge : ∀ cost issue, a.charge = some (cost, issue) → ChargeStands cost issue db
  settled : reversed = true → ∀ cost issue, a.charge = some (cost, issue) →
    reversalsOf db issue ≠ []

variable {a : Allocation} {received : ℚ} {reversed : Bool}

lemma Stage.isReversed (h : Stage a received reversed db) :
    reversed = true ↔ ∃ m ∈ db.movements.rows, m.reverses = some a.receipt.id := by
  have hledger := h.ledger
  have hiff : (∃ m ∈ db.movements.rows, m.reverses = some a.receipt.id) ↔
      reversalsOf db a.receipt ≠ [] := by
    rw [reversalsOf, Ne, List.filter_eq_nil_iff]
    push Not
    simp
  rw [hiff]
  cases reversed with
  | true =>
      refine ⟨fun _ hnil => ?_, fun _ => rfl⟩
      rw [hnil] at hledger
      cases hledger
  | false => simpa using hledger

lemma Stage.receipt_ne (h : Stage a received reversed db) {original : StockMovement}
    (hfound : original ∈ db.movements.rows) (hissue : isReturnableIssue original = true) :
    original.id ≠ a.receipt.id := by
  intro hid
  obtain rfl : original = a.receipt := Table.eq_of_key_eq hfound h.recorded.receipt hid
  rw [isReturnableIssue, h.recorded.kind] at hissue
  cases hissue

/-- **A return** takes nothing off the line, and credits the issue it names once. -/
lemma reverseIssue_keeps_stage {movement staff : ℕ} {reason : String} {row : StockMovement}
    (hdb : Stage a received reversed db)
    (h : (reverseIssue movement staff reason).run db = .ok (row, db')) :
    Stage a received reversed db' ∧ db'.orderLines = db.orderLines ∧
      ∀ original, db.movements.find? movement = some original → reversalsOf db' original ≠ [] := by
  obtain ⟨original, hfound, ⟨hback, rfl⟩ | ⟨hnone, hissue, line, cost', credit, hline, hcost', hcredits,
    hnew, hstored, hadds, hlines, -, -, hkind, hlinked, hreverses⟩⟩ := run_reverseIssue h
  · refine ⟨hdb, rfl, fun other hother => ?_⟩
    obtain rfl := Option.some.inj (hfound.symm.trans hother)
    exact List.ne_nil_of_mem hback
  have hmem := Table.mem_of_find? hfound
  have hother : ∀ m ∈ db.movements.rows, m.id ≠ original.id → reversalsOf db' m = reversalsOf db m := by
    intro m _ hne
    rw [reversalsOf_adds hadds, hreverses, if_neg fun heq => hne (Option.some.inj heq).symm,
      List.append_nil]
  have hown : reversalsOf db' original = [row] := by
    rw [reversalsOf_adds hadds, hreverses, if_pos rfl, hnone, List.nil_append]
  have hreceipt : reversalsOf db' a.receipt = reversalsOf db a.receipt :=
    hother _ hdb.recorded.receipt (hdb.receipt_ne hmem hissue).symm
  refine ⟨⟨?_, ?_, ?_, ?_, ?_⟩, hlines, fun other hother' => ?_⟩
  · refine hdb.recorded.adds hadds ?_ fun cost issue hcharge hsame => ?_
    · rw [isReceipt, hkind]
      rfl
    · have hold := (hdb.recorded.charge cost issue hcharge).stored
      rw [hlinked] at hsame
      rw [← Option.some.inj hsame, hnew] at hold
      cases hold
  · rw [hlines]
    exact hdb.line
  · rw [hreceipt]
    exact hdb.ledger
  · intro cost issue hcharge
    have hrecorded := hdb.recorded.charge cost issue hcharge
    by_cases hsame : issue.id = original.id
    · obtain rfl : issue = original := Table.eq_of_key_eq hrecorded.posted hmem hsame
      obtain rfl : cost.id = line := Option.some.inj (hrecorded.costLine.symm.trans hline)
      obtain rfl : cost = cost' := Option.some.inj (hrecorded.stored.symm.trans hcost')
      exact .inr ⟨row, credit, hown, hlinked, hstored, hcredits⟩
    · have hkept := hother issue hrecorded.posted hsame
      rcases hdb.charge cost issue hcharge with hnil | ⟨back, credit', hback, hlink, hfound', hcredits'⟩
      · exact .inl (hkept.trans hnil)
      · exact .inr ⟨back, credit', hkept.trans hback, hlink, hadds.lines _ _ hfound', hcredits'⟩
  · intro hreversed cost issue hcharge
    by_cases hsame : issue.id = original.id
    · obtain rfl : issue = original :=
        Table.eq_of_key_eq (hdb.recorded.charge cost issue hcharge).posted hmem hsame
      rw [hown]
      exact List.cons_ne_nil _ _
    · rw [hother issue (hdb.recorded.charge cost issue hcharge).posted hsame]
      exact hdb.settled hreversed cost issue hcharge
  · obtain rfl := Option.some.inj (hfound.symm.trans hother')
    rw [hown]
    exact List.cons_ne_nil _ _

/-! ## A reversal -/

lemma Recorded.congr (h : Recorded a db) (hstock : db'.stock = db.stock)
    (hmovements : db'.movements = db.movements) (hcosting : db'.costing = db.costing) :
    Recorded a db' := by
  obtain ⟨hsource, hreceipt, hof, hkind, halone, hcharge⟩ := h
  refine ⟨?_, by rwa [hmovements], hof, hkind, by rwa [hmovements], fun cost issue hc => ?_⟩
  · unfold lineOf
    rw [hstock]
    exact hsource
  · obtain ⟨hposted, hstock', hissued, hline, hstored, horder, hone⟩ := hcharge cost issue hc
    exact ⟨by rwa [hmovements], hstock', hissued, hline, by rwa [hcosting], horder,
      by rwa [hmovements]⟩

lemma Stage.withLines (h : Stage a received reversed db) {received' : ℚ}
    (hstock : db'.stock = db.stock) (hmovements : db'.movements = db.movements)
    (hcosting : db'.costing = db.costing)
    (hline : ∃ row, db'.orderLines.find? a.line = some row ∧
      row.receivedQuantity = received' - if reversed then supplied a.receipt else 0) :
    Stage a received' reversed db' := by
  have hsame : reversalsOf db' = reversalsOf db := by
    unfold reversalsOf
    rw [hmovements]
  refine ⟨h.recorded.congr hstock hmovements hcosting, hline, by rw [hsame]; exact h.ledger, ?_, ?_⟩
  · intro cost issue hcharge
    unfold ChargeStands
    rw [hsame, hcosting]
    exact h.charge cost issue hcharge
  · rw [hsame]
    exact h.settled

lemma run_resolveHandle_charge {po : ℕ} {allocation : AllocationHandle} {stock : Stock}
    {charge? : Option (CostLine × StockMovement)}
    (h : (resolveHandle po allocation).run db = .ok ((stock, charge?), db')) :
    (∃ id, allocation = .stock id ∧ charge? = none) ∨
      ∃ costLine line issue, allocation = .job costLine ∧ charge? = some (line, issue) ∧
        issue ∈ db.movements.rows ∧ issue.costLine = some costLine := by
  cases allocation with
  | stock id =>
      simp only [resolveHandle, run_bind, run_pure, Prod.mk.injEq] at h
      obtain ⟨_, _, -, ⟨-, rfl⟩, -⟩ := h
      exact .inl ⟨id, rfl, rfl⟩
  | job costLine =>
      simp only [resolveHandle, getCostlineOrError, run_bind, run_read, run_orRefuse, run_pure,
        Prod.mk.injEq, Prod.exists] at h
      obtain ⟨line, movement, found, _, ⟨_, _, ⟨rfl, rfl⟩, hfound, rfl⟩, ⟨-, rfl⟩, -⟩ := h
      obtain ⟨line', hline, hfound⟩ := Option.bind_eq_some_iff.mp hfound
      obtain ⟨movement', hmovement, hfound⟩ := Option.bind_eq_some_iff.mp hfound
      obtain ⟨stock', -, hfound⟩ := Option.bind_eq_some_iff.mp hfound
      split at hfound
      · obtain ⟨rfl, rfl, rfl⟩ : line' = line ∧ movement' = movement ∧ stock' = found := by
          simpa using hfound
        have hlinked := List.find?_some hmovement
        rw [Table.key_of_find? hline] at hlinked
        exact .inr ⟨costLine, line', movement', rfl, rfl, List.mem_of_find?_eq_some hmovement,
          of_decide_eq_true hlinked⟩
      · cases hfound

def Allocation.Handle (a : Allocation) : AllocationHandle → Prop
  | .stock id => id = a.stock
  | .job costLine => ∃ charge ∈ a.charge, charge.1.id = costLine

def chargesReceipt (db : Purchasing) (issue : StockMovement) : Bool :=
  isReturnableIssue issue && (issue.costLine.bind db.costing.lines.find?).any fun line =>
    (textOf line.extRefs "purchase_order_id").isSome

/-- No charge with received material is left behind: the handle is the cost line, or the identity's
charge is returned. -/
def LeavesNoCharge (db : Purchasing) : AllocationHandle → Prop
  | .stock id => ∀ issue ∈ db.movements.rows, issue.stock = id → chargesReceipt db issue = true →
      ∃ m ∈ db.movements.rows, m.reverses = some issue.id
  | .job _ => True

instance (db : Purchasing) : (allocation : AllocationHandle) →
    Decidable (LeavesNoCharge db allocation)
  | .stock id => inferInstanceAs (Decidable (∀ issue ∈ db.movements.rows, issue.stock = id →
      chargesReceipt db issue = true → ∃ m ∈ db.movements.rows, m.reverses = some issue.id))
  | .job _ => .isTrue trivial

/-- The charge of the allocation is credited before the identity is taken back, by the reversal
itself or before it. -/
lemma charge_returned {po staff : ℕ} {allocation : AllocationHandle} {stock : Stock}
    {charge? : Option (CostLine × StockMovement)} {t : Purchasing} {u : Unit}
    (h : (match charge? with
      | some (_, issue) => do
          let _ ← reverseIssue issue.id staff "Reverse job receipt allocation"
          pure ()
      | none => pure () : PurchasingCall Unit).run db = .ok (u, t))
    (hdb : Stage a received reversed db) (hof : a.Handle allocation)
    (hclean : LeavesNoCharge db allocation)
    (hhandle : (resolveHandle po allocation).run db = .ok ((stock, charge?), db)) :
    Stage a received reversed t ∧ t.orderLines = db.orderLines ∧
      ∀ cost issue, a.charge = some (cost, issue) → reversalsOf t issue ≠ [] := by
  rcases run_resolveHandle_charge hhandle with ⟨id, rfl, rfl⟩ |
    ⟨costLine, line, issue, rfl, rfl, hmem, hlinked⟩
  · obtain ⟨-, rfl⟩ := run_pure.mp h
    obtain rfl : id = a.stock := hof
    refine ⟨hdb, rfl, fun cost issue hcharge hnil => ?_⟩
    have hrecorded := hdb.recorded.charge cost issue hcharge
    have hcharges : chargesReceipt db issue = true := by
      rw [chargesReceipt, isReturnableIssue, hrecorded.kind, hrecorded.costLine, Option.bind_some,
        hrecorded.stored, Option.any_some, hrecorded.ofOrder]
      rfl
    obtain ⟨m, hm, hreverses⟩ := hclean issue hrecorded.posted hrecorded.stock hcharges
    exact List.filter_eq_nil_iff.mp hnil m hm (decide_eq_true hreverses)
  · obtain ⟨row, _, hreturn, hunit⟩ := run_bind.mp h
    obtain ⟨-, rfl⟩ := run_pure.mp hunit
    obtain ⟨hstage, hlines, hreturned⟩ := reverseIssue_keeps_stage hdb hreturn
    refine ⟨hstage, hlines, fun cost issued hcharge => ?_⟩
    obtain ⟨⟨cost', issued'⟩, hcharge', hcost⟩ := hof
    obtain ⟨rfl, rfl⟩ : cost' = cost ∧ issued' = issued := by
      simpa using hcharge'.symm.trans hcharge
    obtain rfl := (hdb.recorded.charge cost' issued' hcharge).alone issue hmem (hcost ▸ hlinked)
    exact hreturned issue (Table.find?_of_mem hmem)

lemma Recorded.stock_of_handle {allocation : AllocationHandle} {id : ℕ} (hdb : Recorded a db)
    (hof : a.Handle allocation) (h : identityOf db allocation = some id) : id = a.stock := by
  cases allocation with
  | stock named =>
      obtain rfl : named = id := Option.some.inj h
      exact hof
  | job costLine =>
      obtain ⟨⟨cost, issue⟩, hcharge, rfl⟩ := hof
      have hrecorded := hdb.charge cost issue hcharge
      obtain ⟨m, hm, rfl⟩ := Option.map_eq_some_iff.mp h
      have hlinked := List.find?_some hm
      rw [hrecorded.alone m (List.mem_of_find?_eq_some hm) (of_decide_eq_true hlinked)]
      exact hrecorded.stock

lemma run_recompute_ledger {po result : PurchaseOrder}
    (h : (recomputePurchaseOrderStatus po).run db = .ok (result, db')) :
    db'.stock = db.stock ∧ db'.movements = db.movements ∧ db'.costing = db.costing ∧
      db'.orderLines = db.orderLines := by
  simp only [recomputePurchaseOrderStatus, run_bind, run_read, run_newId, run_write, run_pure] at h
  obtain ⟨_, _, ⟨rfl, rfl⟩, _, _, ⟨-, rfl⟩, _, _, rfl, -, rfl⟩ := h
  exact ⟨rfl, rfl, rfl, rfl⟩

/-- **A reversal** that is acknowledged leaves the allocation reversed. -/
lemma reverseAllocation_reverses {po line staff : ℕ} {allocation : AllocationHandle}
    {ifMatch : List PurchaseOrderETag} {result : ReversalResult} (hscale : IsDecimal 2 received)
    (hdb : Stage a received reversed db) (hof : a.Handle allocation)
    (hexact : ExactReversal db allocation) (hclean : LeavesNoCharge db allocation)
    (h : (reverseAllocation po line allocation ifMatch staff).run db = .ok (result, db')) :
    Stage a received true db' := by
  simp only [reverseAllocation, run_bind, run_read, run_orRefuse, run_require] at h
  obtain ⟨_, _, ⟨rfl, rfl⟩, order, _, ⟨-, rfl⟩, ⟨stock, charge?⟩, _, hhandle, h⟩ := h
  obtain ⟨rfl, hstock, hidentity⟩ := run_resolveHandle hhandle
  obtain ⟨_, _, ⟨hsource, rfl⟩, poLine, _, hline, receipt, _, hreceipt, _, _, ⟨rfl, rfl⟩, h⟩ := h
  simp only [theOrderLine, run_bind, run_read, run_orRefuse] at hline
  obtain ⟨_, _, ⟨rfl, rfl⟩, hfound, rfl⟩ := hline
  obtain ⟨hpoLine, -⟩ := Option.filter_eq_some_iff.mp hfound
  have hid : poLine.id = line := Table.key_of_find? hpoLine
  obtain ⟨rfl, hmem, hreceived, hkind⟩ := run_receiptOf hreceipt
  have hrecorded := hdb.recorded
  have hidentity' : stock.id = a.stock := hrecorded.stock_of_handle hof hidentity
  obtain rfl : receipt = a.receipt :=
    hrecorded.alone receipt hmem (hreceived.trans hidentity') hkind
  have hown : line = a.line := by
    have hsource' := hrecorded.source
    unfold lineOf at hsource'
    rw [← hidentity', hstock, Option.bind_some, hsource] at hsource'
    exact Option.some.inj hsource'
  simp only [run_ite, run_bind, run_pure] at h
  rcases h with ⟨hreversed, -, rfl⟩ | ⟨hopen, quantity, _, hquantity, _, t, htag, _, t₁, hcharge, _, t₂,
    hdecrement, row, t₃, hmove, _, t₄, hstatus, -, rfl⟩
  · obtain rfl : reversed = true := hdb.isReversed.mpr hreversed
    exact hdb
  obtain rfl := run_deliveryQuantity hquantity
  obtain rfl := readOnly_deliveryQuantity _ _ _ hquantity
  obtain rfl := ReadOnly.require _ _ _ htag
  obtain rfl : reversed = false := by
    cases reversed with
    | true => exact absurd (hdb.isReversed.mp rfl) hopen
    | false => rfl
  have hwhole : IsDecimal 2 (supplied a.receipt) :=
    hexact a.receipt hmem (hreceived ▸ hidentity) hkind fun m hm heq => hopen ⟨m, hm, heq⟩
  obtain ⟨hstage, hlines, hreturned⟩ := charge_returned hcharge hdb hof hclean hhandle
  -- the line is lowered, by a whole number of its column's units
  simp only [decrementReceived, run_bind, run_read, run_orRefuse, run_column, run_write] at hdecrement
  obtain ⟨_, _, ⟨rfl, rfl⟩, stored, _, ⟨hcovers, rfl⟩, _, _, ⟨-, rfl, rfl⟩, rfl⟩ := hdecrement
  obtain ⟨hstored, -⟩ := Option.filter_eq_some_iff.mp hcovers
  obtain ⟨row₀, hrow₀, htotal⟩ := hstage.line
  rw [hid, hown, hrow₀] at hstored
  obtain rfl : row₀ = stored := Option.some.inj hstored
  rw [if_neg (by decide), sub_zero] at htotal
  have hrounded : roundHalfAway 2 (row₀.receivedQuantity - supplied a.receipt) =
      received - supplied a.receipt := by
    rw [htotal, roundHalfAway_of_isDecimal (hscale.sub hwhole)]
  -- the reversal is posted against the receipt
  obtain ⟨hadds, hlines', -, -, hchange, hlinks⟩ := adds_of_moveStock hmove
  obtain ⟨hstock₄, hmovements₄, hcosting₄, hlines₄⟩ := run_recompute_ledger hstatus
  have hnone : reversalsOf t₁ a.receipt = [] := List.map_eq_nil_iff.mp hstage.ledger
  have hissue : ∀ cost issue, a.charge = some (cost, issue) →
      reversalsOf t₃ issue = reversalsOf t₁ issue := by
    intro cost issue hcharge'
    have hcharged := hstage.recorded.charge cost issue hcharge'
    have hreturnable : isReturnableIssue issue = true := by
      rw [isReturnableIssue, hcharged.kind]
      rfl
    have hne : row.reverses ≠ some issue.id := by
      rw [hlinks.reverses]
      exact fun heq => hstage.receipt_ne hcharged.posted hreturnable (Option.some.inj heq).symm
    rw [reversalsOf_adds hadds, if_neg hne, List.append_nil]
    rfl
  have hreversed : Stage a received true t₃ := by
    refine ⟨?_, ?_, ?_, fun cost issue hcharge' => ?_, fun _ cost issue hcharge' => ?_⟩
    · refine Recorded.adds ?_ hadds ?_ fun cost issue _ => ?_
      · exact hstage.recorded.congr rfl rfl rfl
      · rw [isReceipt, hlinks.kind]
        rfl
      · rw [hlinks.costLine]
        exact (Option.some_ne_none _).symm
    · rw [hlines', if_pos rfl, ← hrounded]
      have hkey : row₀.id = a.line := Table.key_of_find? hrow₀
      rw [← hkey] at hrow₀ ⊢
      exact ⟨_, Table.find?_put_self (r := { row₀ with
        receivedQuantity := roundHalfAway 2 (row₀.receivedQuantity - supplied a.receipt) }) hrow₀, rfl⟩
    · rw [reversalsOf_adds hadds, if_pos hlinks.reverses, if_pos rfl]
      show (reversalsOf t₁ a.receipt ++ [row]).map _ = _
      rw [hnone, List.nil_append, List.map_singleton, hchange]
    · rcases hstage.charge cost issue hcharge' with hnil | ⟨back, credit, hback, hlink, hfound', hcredits⟩
      · exact .inl ((hissue cost issue hcharge').trans hnil)
      · exact .inr ⟨back, credit, (hissue cost issue hcharge').trans hback, hlink,
          hadds.lines _ _ hfound', hcredits⟩
    · rw [hissue cost issue hcharge']
      exact hreturned cost issue hcharge'
  refine hreversed.withLines hstock₄ hmovements₄ hcosting₄ ?_
  rw [hlines₄]
  exact hreversed.line

/-! ## Every run -/

def lineFigure (figure : CostLine → ℚ) (db : Purchasing) (m : StockMovement) : ℚ :=
  (m.costLine.bind db.costing.lines.find?).elim 0 figure

/-- What an issue and its returns come to on the job. -/
def netFigure (figure : CostLine → ℚ) (db : Purchasing) (issue : StockMovement) : ℚ :=
  lineFigure figure db issue + ((reversalsOf db issue).map (lineFigure figure db)).sum

lemma Stage.net_eq_zero (h : Stage a received true db) {cost : CostLine} {issue : StockMovement}
    (hcharge : a.charge = some (cost, issue)) :
    netFigure CostLine.totalCost db issue = 0 ∧ netFigure CostLine.totalRev db issue = 0 := by
  have hrecorded := h.recorded.charge cost issue hcharge
  rcases h.charge cost issue hcharge with hnil | ⟨back, credit, hback, hlink, hfound, hcredits⟩
  · exact absurd hnil (h.settled rfl cost issue hcharge)
  · have hfigures : ∀ figure : CostLine → ℚ, figure credit = -figure cost →
        netFigure figure db issue = 0 := by
      intro figure hfigure
      rw [netFigure, hback, List.map_singleton, List.sum_singleton, lineFigure, lineFigure,
        hrecorded.costLine, hlink, Option.bind_some, Option.bind_some, hrecorded.stored, hfound]
      show figure cost + figure credit = 0
      rw [hfigure, add_neg_cancel]
    constructor
    · refine hfigures _ ?_
      rw [CostLine.totalCost, hcredits.quantity, hcredits.unitCost, neg_mul]
      rfl
    · refine hfigures _ ?_
      rw [CostLine.totalRev, hcredits.quantity, hcredits.unitRev, neg_mul]
      rfl

/-- The requests against an allocation: reversals by either handle, and returns of any issue. -/
def Allocation.Against (a : Allocation) : Op → Prop
  | .reverseAllocation _ _ allocation _ _ => a.Handle allocation
  | .reverseIssue .. => True
  | _ => False

def Op.IsReversal : Op → Prop
  | .reverseAllocation .. => True
  | _ => False

/-- **The condition.**  What a reversal takes back is a whole number of the line's units, and one
through the identity leaves no charge with received material behind. -/
def UndoesCleanly (db : Purchasing) : Op → Prop
  | .reverseAllocation _ _ allocation _ _ =>
      ExactReversal db allocation ∧ LeavesNoCharge db allocation
  | _ => True

/-- The allocation stands as its receipt left it, nothing reversed or returned, on a line that has
received `received` by then. -/
structure FreshlyReceived (a : Allocation) (received : ℚ) (db : Purchasing) : Prop where
  recorded : Recorded a db
  unreversed : reversalsOf db a.receipt = []
  issued : ∀ cost issue, a.charge = some (cost, issue) → reversalsOf db issue = []
  line : ∃ row, db.orderLines.find? a.line = some row ∧ row.receivedQuantity = received
  scale : IsDecimal 2 received

/-- An allocation undone once where a reversal was acknowledged, and not at all before. -/
structure UndoneOnce (a : Allocation) (received : ℚ) (acknowledged : Prop) (db : Purchasing) :
    Prop where
  /-- The ordered line's received quantity falls by the received quantity. -/
  line : ∃ row, db.orderLines.find? a.line = some row ∧
    (acknowledged → row.receivedQuantity = received - supplied a.receipt) ∧
    (¬acknowledged → row.receivedQuantity = received)
  /-- The identity's ledger loses it, by one movement. -/
  ledger : (acknowledged → (reversalsOf db a.receipt).map StockMovement.quantityChange =
      [-supplied a.receipt]) ∧ (¬acknowledged → reversalsOf db a.receipt = [])
  /-- The job's cost and revenue for it net to zero. -/
  charge : acknowledged → ∀ cost issue, a.charge = some (cost, issue) →
    netFigure CostLine.totalCost db issue = 0 ∧ netFigure CostLine.totalRev db issue = 0

/-- **Reversing a delivery undoes it once.**  After every sequence of reversals by either handle and
of returns, repeats among them, in which each reversal meets the condition: the ordered line has
fallen by the received quantity and the identity's ledger has lost it in one movement if a reversal
was acknowledged, and neither has moved if none was; and an acknowledged reversal leaves the job's
cost and revenue for it at zero. -/
theorem reversal_undoes_once (a : Allocation) (received : ℚ) (db : Purchasing)
    (h : FreshlyReceived a received db) (requests : List Op)
    (hagainst : ∀ op ∈ requests, a.Against op) (hclean : AllMeet step UndoesCleanly db requests) :
    UndoneOnce a received (WentThrough step Op.IsReversal db requests)
      (serveAll step db requests) := by
  obtain ⟨hrecorded, hopen, hissued, ⟨row, hrow, hreceived⟩, hscale⟩ := h
  have hstart : Stage a received false db := by
    refine ⟨hrecorded, ⟨row, hrow, ?_⟩, by rw [hopen]; rfl,
      fun cost issue hcharge => .inl (hissued cost issue hcharge), fun hfalse => by cases hfalse⟩
    rw [hreceived, if_neg (by decide), sub_zero]
  -- a return keeps the stage, a reversal that goes through ends it
  have hreturn : ∀ {reversed : Bool} (t : Purchasing) (op : Op), Stage a received reversed t →
      UndoesCleanly t op ∧ a.Against op → ¬op.IsReversal → ∀ u t',
      (step op).run t = .ok (u, t') → Stage a received reversed t' := by
    intro reversed t op ht hop hnot u t' hrun
    cases op with
    | reverseIssue movement staff reason =>
        obtain ⟨result, t₁, hreverse, hunit⟩ := run_bind.mp hrun
        obtain ⟨-, rfl⟩ := run_pure.mp hunit
        exact (reverseIssue_keeps_stage ht hreverse).1
    | reverseAllocation => exact absurd trivial hnot
    | _ => exact hop.2.elim
  have hreverse : ∀ {reversed : Bool} (t : Purchasing) (op : Op), Stage a received reversed t →
      UndoesCleanly t op ∧ a.Against op → op.IsReversal → ∀ u t',
      (step op).run t = .ok (u, t') → Stage a received true t' := by
    intro reversed t op ht hop hreversal u t' hrun
    cases op with
    | reverseAllocation po line allocation ifMatch staff =>
        obtain ⟨result, t₁, hreverse, hunit⟩ := run_bind.mp hrun
        obtain ⟨-, rfl⟩ := run_pure.mp hunit
        exact reverseAllocation_reverses hscale ht hop.2 hop.1.1 hop.1.2 hreverse
    | _ => exact hreversal.elim
  obtain ⟨hafter, hbefore⟩ := serveAll_keeps_after (J := Stage a received true)
    (fun t op ht hop u t' hrun => by
      by_cases hreversal : op.IsReversal
      · exact hreverse t op ht hop hreversal u t' hrun
      · exact hreturn t op ht hop hreversal u t' hrun)
    (fun t op => hreverse t op) (fun t op => hreturn t op) hstart (hclean.and_mem hagainst)
  by_cases hwent : WentThrough step Op.IsReversal db requests
  · have hstage := hafter hwent
    obtain ⟨row', hrow', htotal⟩ := hstage.line
    refine ⟨⟨row', hrow', fun _ => by rw [htotal, if_pos rfl], fun hnot => absurd hwent hnot⟩,
      ⟨fun _ => ?_, fun hnot => absurd hwent hnot⟩, fun _ cost issue => hstage.net_eq_zero⟩
    rw [hstage.ledger, if_pos rfl]
  · have hstage := hbefore hwent
    obtain ⟨row', hrow', htotal⟩ := hstage.line
    refine ⟨⟨row', hrow', fun hyes => absurd hyes hwent, fun _ => ?_⟩,
      ⟨fun hyes => absurd hyes hwent, fun _ => ?_⟩, fun hyes => absurd hyes hwent⟩
    · rw [htotal, if_neg (by decide), sub_zero]
    · exact List.map_eq_nil_iff.mp hstage.ledger

/-- Two bars charged to the gate, on the workshop's first receipt. -/
def receivedBars : Purchasing :=
  serveAll step newWorkshop
    [.processDeliveryReceipt (fun _ => .acknowledged) 3 sampleReceipt 9 [(3, 5)]]

def gateBars : Allocation where
  stock := 14
  line := 4
  receipt := ⟨15, 14, 2, 0, 2, none, 25 / 2, .delivery, none, none, none, none, some 9,
    "Received on PO PO-0001"⟩
  charge := do
    let cost ← receivedBars.costing.lines.find? 13
    let issue ← receivedBars.movements.find? 16
    some (cost, issue)

lemma charge_gateBars {cost : CostLine} {issue : StockMovement}
    (h : gateBars.charge = some (cost, issue)) :
    receivedBars.costing.lines.find? 13 = some cost ∧
      receivedBars.movements.find? 16 = some issue := by
  obtain ⟨line, hline, h⟩ := Option.bind_eq_some_iff.mp h
  obtain ⟨m, hm, h⟩ := Option.bind_eq_some_iff.mp h
  obtain ⟨rfl, rfl⟩ : line = cost ∧ m = issue := by simpa using h
  exact ⟨hline, hm⟩

lemma freshlyReceived_gateBars : FreshlyReceived gateBars 5 receivedBars := by
  have hissue : ∀ m ∈ receivedBars.movements.rows, m.id = 16 → m.stock = 14 ∧ m.kind = .issue ∧
      m.costLine = some 13 ∧ reversalsOf receivedBars m = [] := by decide +kernel
  have hlinked : ∀ m ∈ receivedBars.movements.rows, m.costLine = some 13 → m.id = 16 := by
    decide +kernel
  have horder : ∀ line ∈ receivedBars.costing.lines.rows,
      (textOf line.extRefs "purchase_order_id").isSome := by decide +kernel
  have hline : ∀ line ∈ receivedBars.orderLines.rows, line.receivedQuantity = 5 := by
    decide +kernel
  refine ⟨⟨by decide +kernel, by decide +kernel, rfl, rfl, by decide +kernel,
    fun cost issue hcharge => ?_⟩, by decide +kernel, fun cost issue hcharge => ?_, ?_, ?_⟩
  · obtain ⟨hcost, hm⟩ := charge_gateBars hcharge
    have hkey : cost.id = 13 := Table.key_of_find? hcost
    obtain ⟨hstock, hkind, hcostLine, -⟩ := hissue issue (Table.mem_of_find? hm) (Table.key_of_find? hm)
    rw [← hkey] at hcost hcostLine
    refine ⟨Table.mem_of_find? hm, hstock, hkind, hcostLine, hcost,
      horder cost (Table.mem_of_find? hcost), fun m hmem hm' => ?_⟩
    have hid : m.id = 16 := hlinked m hmem (hkey ▸ hm')
    exact Table.eq_of_key_eq hmem (Table.mem_of_find? hm) (hid.trans (Table.key_of_find? hm).symm)
  · obtain ⟨-, hm⟩ := charge_gateBars hcharge
    exact (hissue issue (Table.mem_of_find? hm) (Table.key_of_find? hm)).2.2.2
  · have hthere : (receivedBars.orderLines.find? 4).isSome := by decide +kernel
    obtain ⟨row, hrow⟩ := Option.isSome_iff_exists.mp hthere
    exact ⟨row, hrow, hline row (Table.mem_of_find? hrow)⟩
  · decide +kernel

lemma handle_gateBars : ∃ cost issue, gateBars.charge = some (cost, issue) ∧
    gateBars.Handle (.job 13) := by
  have hthere : gateBars.charge.isSome := by decide +kernel
  obtain ⟨⟨cost, issue⟩, hcharge⟩ := Option.isSome_iff_exists.mp hthere
  exact ⟨cost, issue, hcharge, (cost, issue), hcharge, Table.key_of_find? (charge_gateBars hcharge).1⟩

/-- The bars are asked back through their identity, and again by the cost line. -/
def bothHandles : List Op :=
  [.reverseAllocation 3 4 (.stock 14) [(3, 17)] 9, .reverseAllocation 3 4 (.job 13) [] 9]

lemma against_bothHandles : ∀ op ∈ bothHandles, gateBars.Against op := by
  obtain ⟨-, -, -, hjob⟩ := handle_gateBars
  intro op hop
  rcases List.mem_cons.mp hop with rfl | hop
  · rfl
  · obtain rfl := List.mem_singleton.mp hop
    exact hjob

/-- Returned first, the bars are undone once by both requests: three are left received, and the
gate is charged nothing. -/
theorem gate_bars_undone_once :
    UndoneOnce gateBars 5 True
      (serveAll step receivedBars (.reverseIssue 16 9 "Unused" :: bothHandles)) := by
  have h := reversal_undoes_once gateBars 5 receivedBars freshlyReceived_gateBars
    (.reverseIssue 16 9 "Unused" :: bothHandles)
    (List.forall_mem_cons.mpr ⟨trivial, against_bothHandles⟩)
    ⟨trivial, ⟨by decide +kernel, by decide +kernel⟩, ⟨by decide +kernel, trivial⟩, trivial⟩
  have hwent : WentThrough step Op.IsReversal receivedBars
      (.reverseIssue 16 9 "Unused" :: bothHandles) := by
    obtain ⟨u, db', hrun, -⟩ := exists_of_endsIn
      (x := step (.reverseAllocation 3 4 (.stock 14) [(3, 17)] 9))
      (s := serveAll step receivedBars [.reverseIssue 16 9 "Unused"]) (p := fun _ _ => true)
      (by decide +kernel)
    exact .inr (.inl ⟨trivial, u, db', hrun⟩)
  rwa [eq_true hwent] at h

/-- **A charged delivery is taken back through its identity.**  The reversal is acknowledged, and so
is the one by the cost line after it, and the gate is still charged for both bars. -/
theorem reversal_through_stock_keeps_the_charge :
    ¬∀ (a : Allocation) (received : ℚ) (db : Purchasing), FreshlyReceived a received db →
      ∀ requests : List Op, (∀ op ∈ requests, a.Against op) →
        UndoneOnce a received (WentThrough step Op.IsReversal db requests)
          (serveAll step db requests) := by
  intro hall
  have h := hall gateBars 5 receivedBars freshlyReceived_gateBars bothHandles against_bothHandles
  obtain ⟨u, db', hrun, -⟩ := exists_of_endsIn
    (x := step (.reverseAllocation 3 4 (.stock 14) [(3, 17)] 9)) (s := receivedBars)
    (p := fun _ _ => true) (by decide +kernel)
  obtain ⟨cost, issue, hcharge, -⟩ := handle_gateBars
  have hcharged : ∀ m ∈ receivedBars.movements.rows, m.id = 16 →
      netFigure CostLine.totalCost (serveAll step receivedBars bothHandles) m = 25 := by
    decide +kernel
  obtain ⟨-, hm⟩ := charge_gateBars hcharge
  have hnet := (h.charge (.inl ⟨trivial, u, db', hrun⟩) cost issue hcharge).1
  rw [hcharged issue (Table.mem_of_find? hm) (Table.key_of_find? hm)] at hnet
  norm_num at hnet

end Purchasing

end Docketworks
