import Docketworks.Purchasing.Evidence
import Docketworks.Purchasing.InventoryRules

/-!
# Issuing stock, exactly once or not at all

Material goes to a job in two ways: consumed as a new line, or by approving a pending one.  Either
writes a cost line, a movement and a balance, and they say the same: what the stock row gave up is
what the job is charged with.

* `IssueRequest`, `Op.issue?` — what the two calls ask for.
* `Issued` — a line, its one movement, and the actuals they are on.
* `Books` — what a call that issues writes; `run_issue` — a call that goes through issues so, or
  answers a line that is issued already and writes nothing.
* `IssuesExact` — a whole run: the ledger grew by the issues, and each stock row gave up their sum.
* `issues_exact_or_nothing` — of every run of issues.

**Design.**  The job's lock, the line's and the stock row's are held to the end of the transaction
that takes them, and each row is read again under its lock, so calls that run together leave what
some sequence of whole calls leaves.  A run is such a sequence.
-/

namespace Docketworks

open Library Library.Transaction

namespace Purchasing

/-! ## What is asked for and what is left -/

/-- Material for a job: at a price of its own where it names one, and for the draft it approves. -/
structure IssueRequest where
  item : ℕ
  job : ℕ
  qty : ℚ
  unitCost : Option ℚ
  line : Option ℕ

/-- The two ways to issue stock. -/
def Op.issue? : Op → Option IssueRequest
  | .consumeStock item job qty _ unitCost _ => some ⟨item, job, qty, unitCost, none⟩
  | .approveCostLine item job qty _ line => some ⟨item, job, qty, none, some line⟩
  | _ => none

/-- An issue: the job's line and the movement agree on what left the stock row and at what cost. -/
structure Issued (db : Purchasing) (line : CostLine) (m : StockMovement) : Prop where
  stored : line ∈ db.costing.lines.rows
  recorded : m ∈ db.movements.rows
  material : line.kind = .material
  managed : line.managedBy = some .stock
  approved : line.approved = true
  source : textOf line.extRefs "stock_id" = some (toString m.stock)
  kind : m.kind = .issue
  linked : m.costLine = some line.id
  change : m.quantityChange = -line.quantity
  lost : m.quantityBefore - m.quantityAfter = line.quantity
  cost : m.unitCost = line.unitCost
  /-- The line is on the actuals of the job the movement names. -/
  charged : ∃ set, db.costing.costSets.find? line.costSet = some set ∧
    m.counterpartJob = some set.job ∧ set.kind = .actual

/-- What a call that issues writes. -/
structure Books (request : IssueRequest) (db db' : Purchasing) (line : CostLine)
    (m : StockMovement) : Prop where
  issued : Issued db' line m
  item : m.stock = request.item
  job : m.counterpartJob = some request.job
  quantity : line.quantity = request.qty
  positive : 0 < request.qty
  scale : IsDecimal 3 request.qty
  ledger : db'.movements.rows = db.movements.rows ++ [m]
  unlinked : ∀ other ∈ db.movements.rows, other.costLine ≠ some line.id
  lines : ∀ row, row ∈ db'.costing.lines.rows ↔
    (row ∈ db.costing.lines.rows ∧ row.id ≠ line.id) ∨ row = line
  /-- What it is written over is the draft named, of the same quantity. -/
  draft : ∀ old ∈ db.costing.lines.rows, old.id = line.id →
    request.line = some old.id ∧ old.managedBy = none ∧ old.approved = false ∧
      old.quantity = line.quantity
  approves : ∀ id ∈ request.line, line.id = id
  sets : SetsKept db.costing db'.costing
  /-- The stock row gives up the quantity, at the price named or its own. -/
  balance : ∃ locked, db.stock.find? request.item = some locked ∧
    line.unitCost = request.unitCost.getD locked.unitCost ∧
    db'.stock = db.stock.put (projected locked (locked.quantity - request.qty))

/-! ## One movement -/

lemma run_moveStock_linked {stock : ℕ} {change : ℚ} {context : MovementContext} {cost : CostLine}
    {row : StockMovement} {db db' : Purchasing} (hcost : context.costLine = some cost)
    (h : (moveStock stock change context).run db = .ok (row, db')) :
    row.unitCost = roundHalfAway 2 cost.unitCost ∧
      ∀ other ∈ db.movements.rows, other.costLine ≠ some cost.id := by
  simp only [moveStock, insertMovement, run_bind, run_require, run_theStock] at h
  obtain ⟨_, _, ⟨-, rfl⟩, locked, _, ⟨-, rfl⟩, _, _, hcheck, posted, _, ⟨stored, _, hrow, _, _,
    hconstraints, _, _, -, _, _, -, _, _, -, hstored⟩, _, _, -, hposted⟩ := h
  obtain rfl := readOnly_checkMovement _ _ _ hcheck
  obtain ⟨rfl, rfl⟩ := run_movementRow hrow
  obtain ⟨rfl, -⟩ := run_pure.mp hstored
  obtain ⟨rfl, -⟩ := run_pure.mp hposted
  simp only [movementConstraints, hcost, run_bind, run_require, run_read] at hconstraints
  obtain ⟨_, _, ⟨-, rfl⟩, _, _, ⟨-, rfl⟩, _, _, ⟨rfl, rfl⟩, _, _, ⟨hlinks, -⟩, -⟩ := hconstraints
  exact ⟨by simp [hcost], fun other hother => hlinks other hother (by simp)⟩

/-! ## One issue -/

section Issue

variable {db db' t : Purchasing} {job : Job} {qty : ℚ} {unitCost unitRev : Option ℚ}

lemma readOnly_resolvedRev {locked : Stock} : ReadOnly (resolvedRev job locked unitRev) :=
  .bind .read fun _ => .ite .pure .pure

lemma books_of_moveStock {locked : Stock} {cost : CostLine} {context : MovementContext}
    {row : StockMovement} {line : Option ℕ}
    (h : (moveStock locked.id (-qty) context).run t = .ok (row, db')) (hqty : 0 < qty)
    (hlocked : db.stock.find? locked.id = some locked) (hscale : IsDecimal 3 locked.quantity)
    (hstock : t.stock = db.stock) (hmovements : t.movements = db.movements)
    (hsets : SetsKept db.costing t.costing)
    (hlines : ∀ row, row ∈ t.costing.lines.rows ↔
      (row ∈ db.costing.lines.rows ∧ row.id ≠ cost.id) ∨ row = cost)
    (hdraft : ∀ old ∈ db.costing.lines.rows, old.id = cost.id →
      line = some old.id ∧ old.managedBy = none ∧ old.approved = false ∧ old.quantity = cost.quantity)
    (hline : ∀ id ∈ line, cost.id = id)
    (hmaterial : cost.kind = .material) (hmanaged : cost.managedBy = some .stock)
    (happroved : cost.approved = true) (hquantity : cost.quantity = qty)
    (hsource : textOf cost.extRefs "stock_id" = some (toString locked.id))
    (hcost : cost.unitCost = unitCost.getD locked.unitCost) (hcents : IsDecimal 2 cost.unitCost)
    (hkind : context.kind = .issue) (hcontext : context.costLine = some cost)
    (hjob : context.counterpartJob = some job.id) :
    Books ⟨locked.id, job.id, qty, unitCost, line⟩ db db' cost row := by
  obtain ⟨hprice, hunlinked⟩ := run_moveStock_linked hcontext h
  have hlinks := run_moveStock_links h
  obtain ⟨cost', set, hcost', -, hset, hsetJob, hactual⟩ := run_moveStock_cost h (by rw [hkind]; rfl)
  obtain rfl : cost = cost' := Option.some.inj (hcontext.symm.trans hcost')
  obtain ⟨locked', movements, hfound, hinsert, hitem, hchange, hdecimal, hbefore, hafter, -, -, -, -,
    rfl⟩ := run_moveStock h
  obtain rfl : locked = locked' := by
    rw [hstock, hlocked] at hfound
    exact Option.some.inj hfound
  rw [roundHalfAway_of_isDecimal hscale] at hbefore
  rw [hmovements] at hinsert hunlinked
  refine ⟨⟨(hlines cost).mpr (.inr rfl), (Table.mem_insert? hinsert).mpr (.inr rfl), hmaterial,
    hmanaged, happroved, ?_, hlinks.kind.trans hkind, ?_, ?_, ?_, ?_, set, hset, ?_, hactual⟩,
    hitem, hlinks.counterpartJob.trans hjob, hquantity, hqty, ?_, Table.rows_insert? hinsert,
    hunlinked, hlines, hdraft, hline, hsets, locked, hlocked, hcost, ?_⟩
  · rw [hsource, hitem]
  · rw [hlinks.costLine, hcontext]
    rfl
  · rw [hchange, hquantity]
  · rw [hafter, hchange, hquantity]
    ring
  · rw [hprice, roundHalfAway_of_isDecimal hcents]
  · rw [hlinks.counterpartJob, hsetJob]
  · rw [← neg_neg qty]
    exact hdecimal.neg
  · show t.stock.put (afterMovement locked row) = _
    rw [hstock, afterMovement, hafter, hbefore, hchange, ← sub_eq_add_neg]
    rfl

/-- **Booking an issue**: a new line, or the draft approved in place, with its movement. -/
lemma run_bookIssue {item user id : ℕ} {line : Option CostLine} (hqty : 0 < qty)
    (hscale : ∀ stock ∈ db.stock.rows, IsDecimal 3 stock.quantity)
    (hdraft : ∀ old ∈ line, db.costing.lines.find? old.id = some old ∧ old.kind = .material ∧
      old.managedBy = none ∧ old.approved = false ∧ old.quantity = qty)
    (h : (bookIssue item job qty user unitCost unitRev line).run db = .ok (id, db')) :
    ∃ cost m, Books ⟨item, job.id, qty, unitCost, line.map CostLine.id⟩ db db' cost m := by
  simp only [bookIssue, run_bind, run_theStock, run_read] at h
  obtain ⟨locked, _, ⟨hlocked, rfl⟩, rev, db, hrev, set, _, hset, today, _, ⟨rfl, rfl⟩, h⟩ := h
  obtain rfl := readOnly_resolvedRev _ _ _ hrev
  obtain rfl : locked.id = item := Table.key_of_find? hlocked
  obtain ⟨costing, fresh, rfl, hsame, hsets⟩ := run_ensureActualCostSet hset
  have hdecimal := hscale locked (Table.mem_of_find? hlocked)
  have hsource : textOf [("stock_id", .string (toString locked.id))] "stock_id" =
      some (toString locked.id) := by simp [textOf, Json.Members.get?]
  rcases line with _ | old
  · simp only [run_bind, run_newId, run_pure] at h
    obtain ⟨_, _, ⟨rfl, rfl⟩, _, _, hsave, m, _, hmove, -, rfl⟩ := h
    obtain ⟨costing', hsaved, rfl⟩ := run_on.mp hsave
    obtain ⟨hinsert, hkept, hcents⟩ := CostLine.run_save_new (by simp [materialLine]) hsaved
    have hnew : ∀ old ∈ db.costing.lines.rows, old.id ≠ fresh := by
      have hnone := Table.find?_of_insert? hinsert
      rw [Table.find?_eq_none_iff] at hnone
      exact fun old hold => hnone old (by show old ∈ costing.lines.rows; rwa [hsame])
    refine ⟨_, m, books_of_moveStock hmove hqty hlocked hdecimal rfl rfl (hsets.trans hkept)
      (fun row => ?_) (fun old hold heq => absurd heq (hnew old hold)) (by simp) rfl rfl rfl rfl hsource rfl hcents
      rfl rfl rfl⟩
    show row ∈ costing'.lines.rows ↔ _
    rw [Table.mem_insert? hinsert]
    show row ∈ costing.lines.rows ∨ _ ↔ _
    rw [hsame]
    exact or_congr_left ⟨fun hrow => ⟨hrow, hnew row hrow⟩, And.left⟩
  · obtain ⟨hfound, hmaterial, hmanaged, happroved, hquantity⟩ := hdraft old rfl
    simp only [run_bind, run_pure] at h
    obtain ⟨_, _, hsave, m, _, hmove, -, rfl⟩ := h
    obtain ⟨costing', hsaved, rfl⟩ := run_on.mp hsave
    obtain ⟨hput, hkept, hcents⟩ := CostLine.run_save_columns (by simp [hmaterial]) (by decide)
      (hsame ▸ hfound) hsaved
    refine ⟨_, m, books_of_moveStock hmove hqty hlocked hdecimal rfl rfl (hsets.trans hkept)
      (fun row => ?_) (fun other hother heq => ?_) (by simp) (by exact hmaterial)
      rfl rfl rfl hsource rfl hcents rfl rfl rfl⟩
    · show row ∈ costing'.lines.rows ↔ _
      rw [hput]
      show row ∈ (costing.lines.put _).rows ↔ _
      rw [Table.mem_put, hsame]
      exact or_congr_right ⟨And.left, fun heq => ⟨heq, by
        show (db.costing.lines.find? old.id).isSome
        rw [hfound]
        rfl⟩⟩
    · obtain rfl : other = old := Table.eq_of_key_eq hother (Table.mem_of_find? hfound) heq
      exact ⟨rfl, hmanaged, happroved, hquantity⟩

def AlreadyIssued (request : IssueRequest) (db : Purchasing) : Prop :=
  ∃ old ∈ db.costing.lines.rows, request.line = some old.id ∧ old.managedBy = some .stock

lemma run_consumeStock {item jobId user id : ℕ} {line : Option ℕ}
    (hscale : ∀ stock ∈ db.stock.rows, IsDecimal 3 stock.quantity)
    (h : (consumeStock item jobId qty user unitCost unitRev line).run db = .ok (id, db')) :
    (AlreadyIssued ⟨item, jobId, qty, unitCost, line⟩ db ∧ db' = db) ∨
      ∃ cost m, Books ⟨item, jobId, qty, unitCost, line⟩ db db' cost m := by
  simp only [consumeStock, theJob, run_bind, run_require, run_theStock, run_read, run_orRefuse] at h
  obtain ⟨_, _, ⟨hqty, rfl⟩, locked, db, ⟨hlocked, rfl⟩, found, _, ⟨_, _, ⟨rfl, rfl⟩, hjob, rfl⟩, h⟩ := h
  obtain rfl : locked.id = item := Table.key_of_find? hlocked
  obtain rfl : found.id = jobId := Table.key_of_find? hjob
  rcases line with _ | lineId
  · exact .inr (run_bookIssue hqty hscale (by simp) h)
  · simp only [theCostLine, theCostSet, run_bind, run_read, run_orRefuse, run_require, run_ite,
      run_pure] at h
    obtain ⟨old, _, ⟨_, _, ⟨rfl, rfl⟩, hold, rfl⟩, set, _, ⟨_, _, ⟨rfl, rfl⟩, -, rfl⟩, _, _,
      ⟨hmatches, rfl⟩, h⟩ := h
    obtain rfl : old.id = lineId := Table.key_of_find? hold
    rcases h with ⟨hmanaged, -, rfl⟩ | ⟨-, _, _, ⟨hpending, rfl⟩, h⟩
    · exact .inl ⟨⟨old, Table.mem_of_find? hold, rfl, hmanaged⟩, rfl⟩
    · simp only [matchesSelection, Bool.and_eq_true, decide_eq_true_eq] at hmatches
      obtain ⟨⟨⟨⟨hmaterial, -⟩, hquantity⟩, -⟩, -⟩ := hmatches
      rw [not_or, not_not, Bool.not_eq_true] at hpending
      refine .inr (run_bookIssue hqty hscale (fun draft hdraft => ?_) h)
      obtain rfl : old = draft := Option.some.inj hdraft
      exact ⟨hold, hmaterial, hpending.2, hpending.1, hquantity⟩

/-- **A request to issue** that goes through books the issue, or the line was issued before and
nothing is written. -/
lemma run_issue {op : Op} {request : IssueRequest} {u : Unit} (hop : op.issue? = some request)
    (hscale : ∀ stock ∈ db.stock.rows, IsDecimal 3 stock.quantity)
    (h : (step op).run db = .ok (u, db')) :
    (AlreadyIssued request db ∧ db' = db) ∨ ∃ cost m, Books request db db' cost m := by
  cases op with
  | consumeStock | approveCostLine =>
      obtain rfl := Option.some.inj hop
      simp only [step, run_bind, run_pure] at h
      obtain ⟨_, _, h, -, rfl⟩ := h
      exact run_consumeStock hscale h
  | _ => cases hop

/-- **Approving again**, or a refusal, writes nothing. -/
lemma serve_of_alreadyIssued {op : Op} {request : IssueRequest} (hop : op.issue? = some request)
    (hscale : ∀ stock ∈ db.stock.rows, IsDecimal 3 stock.quantity)
    (hissued : AlreadyIssued request db) : serve step db op = db := by
  refine serve_keeps_at (I := (· = db)) (fun u db' h => ?_) rfl
  rcases run_issue hop hscale h with ⟨-, hsame⟩ | ⟨cost, m, hbooks⟩
  · exact hsame
  · obtain ⟨old, hold, hline, hmanaged⟩ := hissued
    obtain ⟨-, hpending, -⟩ := hbooks.draft old hold (hbooks.approves old.id hline).symm
    rw [hmanaged] at hpending
    cases hpending

end Issue

/-! ## The summaries -/

lemma summariesCurrent_books : BookRules fun db => db.costing.SummariesCurrent := by
  have hcosting : ∀ {x : CostingCall Unit}, Keeps Costing.SummariesCurrent x →
      Keeps (fun db => db.costing.SummariesCurrent) (onCosting x) := by
    intro x hx db hdb _ db' h
    obtain ⟨costing, hrun, rfl⟩ := run_on.mp h
    exact hx _ hdb _ _ hrun
  have hid : Keeps (fun db : Purchasing => db.costing.SummariesCurrent) newId :=
    .bind .read fun _ => .bind (.write fun _ hdb => hdb) fun _ => .pure
  constructor
  case newId => exact hid
  case actuals =>
    intro job
    unfold ensureActualCostSet
    split
    · exact .pure
    · exact .bind hid fun _ => .bind (hcosting (create_keeps_summariesCurrent _)) fun _ =>
        .bind (hcosting (.write fun _ hdb => ⟨hdb.current, hdb.owned⟩)) fun _ => .pure
  case new => exact hcosting (save_keeps_summariesCurrent _ _ _ fun _ => rfl)
  case stored => exact hcosting (save_keeps_summariesCurrent _ _ _ (by simp))
  case movement =>
    intro stock change context _ db hdb _ db' h
    obtain ⟨_, _, -, -, -, -, -, -, -, -, -, -, -, rfl⟩ := run_moveStock h
    exact hdb

/-- **A request to issue** leaves the summaries what their lines add up to. -/
lemma issue_keeps_summaries {op : Op} (hop : op.issue?.isSome) :
    Keeps (fun db => db.costing.SummariesCurrent) (step op) := by
  cases op with
  | consumeStock | approveCostLine => exact .bind summariesCurrent_books.consumeStock_keeps fun _ => .pure
  | _ => cases hop

/-! ## Every run -/

/-- What the issues took off one stock row. -/
def issuedFrom (issues : List (CostLine × StockMovement)) (stock : ℕ) : ℚ :=
  ((issues.filter fun issue => issue.2.stock = stock).map fun issue => issue.1.quantity).sum

/-- A run of issues, from `start` to `db`: the lines it issued with their movements. -/
structure IssuesExact (start db : Purchasing) (issues : List (CostLine × StockMovement)) : Prop where
  issued : ∀ issue ∈ issues, Issued db issue.1 issue.2
  /-- No other movement is linked to an issued line. -/
  once : ∀ issue ∈ issues, ∀ m ∈ db.movements.rows, m.costLine = some issue.1.id → m = issue.2
  ledger : db.movements.rows = start.movements.rows ++ issues.map Prod.snd
  lines : ∀ row ∈ db.costing.lines.rows, row ∈ start.costing.lines.rows ∨ row ∈ issues.map Prod.fst
  /-- A line that was there stays, or was a draft and is issued at its quantity. -/
  drafts : ∀ old ∈ start.costing.lines.rows, old ∈ db.costing.lines.rows ∨
    (old.managedBy = none ∧ old.approved = false ∧
      ∃ issue ∈ issues, issue.1.id = old.id ∧ issue.1.quantity = old.quantity)
  /-- Each stock row gave up what its issues charge. -/
  balance : ∀ id, (db.stock.find? id).map Stock.quantity =
    (start.stock.find? id).map fun stock => stock.quantity - issuedFrom issues id
  scale : ∀ stock ∈ db.stock.rows, IsDecimal 3 stock.quantity
  summaries : start.costing.SummariesCurrent → db.costing.SummariesCurrent

section Run

variable {start db db' : Purchasing} {request : IssueRequest} {line : CostLine} {m : StockMovement}
  {issues : List (CostLine × StockMovement)}

lemma Books.ne_of_issued (h : Books request db db' line m) {old : CostLine} {m' : StockMovement}
    (hold : Issued db old m') : old.id ≠ line.id := by
  intro heq
  obtain ⟨-, hmanaged, -⟩ := h.draft old hold.stored heq
  rw [hold.managed] at hmanaged
  cases hmanaged

lemma Issued.books (h : Books request db db' line m) {old : CostLine} {m' : StockMovement}
    (hold : Issued db old m') : Issued db' old m' := by
  obtain ⟨set, hset, hjob, hactual⟩ := hold.charged
  obtain ⟨set', hset', hjob', hkind'⟩ := h.sets _ set hset
  refine { hold with stored := ?_, recorded := ?_, charged := ?_ }
  · exact (h.lines old).mpr (.inl ⟨hold.stored, h.ne_of_issued hold⟩)
  · rw [h.ledger]
    exact List.mem_append_left _ hold.recorded
  · exact ⟨set', hset', by rw [hjob, hjob'], hkind'.trans hactual⟩

lemma IssuesExact.balance_books (hdb : IssuesExact start db issues)
    (h : Books request db db' line m) (id : ℕ) :
    (db'.stock.find? id).map Stock.quantity =
      (start.stock.find? id).map fun stock => stock.quantity - issuedFrom (issues ++ [(line, m)]) id := by
  obtain ⟨locked, hlocked, -, hstock⟩ := h.balance
  have hitem : locked.id = m.stock := (Table.key_of_find? hlocked).trans h.item.symm
  rw [← h.item, ← hitem] at hlocked
  have hkept := hdb.balance id
  rw [hstock]
  by_cases hid : id = locked.id
  · subst hid
    have hput := Table.find?_put_self (r := projected locked (locked.quantity - request.qty)) hlocked
    rw [hlocked] at hkept
    obtain ⟨first, hfirst, hquantity⟩ := Option.map_eq_some_iff.mp hkept.symm
    have hsum : issuedFrom (issues ++ [(line, m)]) locked.id =
        issuedFrom issues locked.id + request.qty := by
      simp [issuedFrom, List.filter_append, hitem, h.quantity]
    show ((db.stock.put _).find? (projected locked (locked.quantity - request.qty)).id).map _ = _
    rw [hput, hfirst, Option.map_some, Option.map_some, hsum]
    show some (locked.quantity - request.qty) = _
    rw [← hquantity, sub_sub]
  · have hsum : issuedFrom (issues ++ [(line, m)]) id = issuedFrom issues id := by
      have hne : m.stock ≠ id := fun heq => hid (heq.symm.trans hitem.symm)
      simp [issuedFrom, List.filter_append, hne]
    rw [Table.find?_put_of_ne (by exact hid), hsum]
    exact hkept

/-- **One more issue.** -/
lemma IssuesExact.books (hdb : IssuesExact start db issues) (h : Books request db db' line m)
    (hsummaries : db.costing.SummariesCurrent → db'.costing.SummariesCurrent) :
    IssuesExact start db' (issues ++ [(line, m)]) := by
  obtain ⟨locked, hlocked, -, hstock⟩ := h.balance
  constructor
  case issued =>
    intro issue hissue
    rcases List.mem_append.mp hissue with hold | hnew
    · exact (hdb.issued issue hold).books h
    · obtain rfl := List.mem_singleton.mp hnew
      exact h.issued
  case once =>
    intro issue hissue other hother hlinked
    rw [h.ledger, List.mem_append, List.mem_singleton] at hother
    rcases List.mem_append.mp hissue with hold | hnew
    · have hissued := hdb.issued issue hold
      rcases hother with hother | rfl
      · exact hdb.once issue hold other hother hlinked
      · rw [h.issued.linked] at hlinked
        exact absurd (Option.some.inj hlinked).symm (h.ne_of_issued hissued)
    · obtain rfl := List.mem_singleton.mp hnew
      rcases hother with hother | rfl
      · exact absurd hlinked (h.unlinked other hother)
      · rfl
  case ledger => rw [h.ledger, hdb.ledger, List.map_append, List.append_assoc, List.map_singleton]
  case lines =>
    intro row hrow
    rw [List.map_append, List.mem_append]
    rcases (h.lines row).mp hrow with ⟨hold, -⟩ | rfl
    · exact (hdb.lines row hold).imp_right .inl
    · exact .inr (.inr (by simp))
  case drafts =>
    intro old hold
    rcases hdb.drafts old hold with hkept | ⟨hmanaged, happroved, issue, hissue, hsame⟩
    · by_cases heq : old.id = line.id
      · obtain ⟨-, hmanaged, happroved, hquantity⟩ := h.draft old hkept heq
        exact .inr ⟨hmanaged, happroved, (line, m), by simp, heq.symm, hquantity.symm⟩
      · exact .inl ((h.lines old).mpr (.inl ⟨hkept, heq⟩))
    · exact .inr ⟨hmanaged, happroved, issue, List.mem_append_left _ hissue, hsame⟩
  case balance => exact hdb.balance_books h
  case scale =>
    intro stock hmem
    rw [hstock] at hmem
    rcases Table.mem_put.mp hmem with ⟨hold, -⟩ | ⟨rfl, -⟩
    · exact hdb.scale stock hold
    · exact (hdb.scale locked (Table.mem_of_find? hlocked)).sub h.scale
  case summaries => exact fun hstart => hsummaries (hdb.summaries hstart)

lemma IssuesExact.serve {op : Op} (hop : op.issue?.isSome) (hdb : IssuesExact start db issues) :
    ∃ issues', IssuesExact start (Library.serve step db op) issues' := by
  obtain ⟨request, hrequest⟩ := Option.isSome_iff_exists.mp hop
  refine serve_keeps_at (I := fun db' => ∃ issues', IssuesExact start db' issues')
    (fun u db' h => ?_) ⟨issues, hdb⟩
  rcases run_issue hrequest hdb.scale h with ⟨-, rfl⟩ | ⟨line, m, hbooks⟩
  · exact ⟨issues, hdb⟩
  · exact ⟨_, hdb.books hbooks fun hcurrent => issue_keeps_summaries hop _ hcurrent _ _ h⟩

end Run

/-- **Issuing is exact or has no effect.**  Whatever issues and approvals are asked for, in whatever
order and however often: each line issued has one movement, of its quantity and at its cost, and is
charged to the actuals of its job; each stock row gave up what its issues charge; and the summaries
stay current.  The next request books one issue as it was asked for, or writes nothing: the line
was issued before, or the request is refused. -/
theorem issues_exact_or_nothing (start : Purchasing)
    (hscale : ∀ stock ∈ start.stock.rows, IsDecimal 3 stock.quantity) (ops : List Op)
    (hops : ∀ op ∈ ops, op.issue?.isSome) :
    (∃ issues, IssuesExact start (serveAll step start ops) issues) ∧
      ∀ op request, op.issue? = some request →
        (∀ u db', (step op).run (serveAll step start ops) = .ok (u, db') →
          (AlreadyIssued request (serveAll step start ops) ∧ db' = serveAll step start ops) ∨
            ∃ line m, Books request (serveAll step start ops) db' line m) ∧
        (AlreadyIssued request (serveAll step start ops) →
          serve step (serveAll step start ops) op = serveAll step start ops) ∧
        ∀ e, (step op).run (serveAll step start ops) = .error e →
          serve step (serveAll step start ops) op = serveAll step start ops := by
  have hrun : ∃ issues, IssuesExact start (serveAll step start ops) issues := by
    induction ops using List.reverseRecOn with
    | nil =>
        refine ⟨[], by simp, by simp, by simp [serveAll], fun row hrow => .inl hrow,
          fun old hold => .inl hold, fun id => ?_, hscale, id⟩
        simp [serveAll, issuedFrom]
    | append_singleton ops op ih =>
        obtain ⟨issues, hissues⟩ := ih fun op hop => hops op (List.mem_append_left _ hop)
        rw [serveAll, List.foldl_append]
        exact hissues.serve (hops op (by simp))
  obtain ⟨issues, hissues⟩ := hrun
  refine ⟨⟨issues, hissues⟩, fun op request hop => ⟨fun u db' h => run_issue hop hissues.scale h,
    serve_of_alreadyIssued hop hissues.scale, fun e h => ?_⟩⟩
  rw [serve, h]

/-- A pending line for two bars. -/
def draftOfTwo : CostLine :=
  { materialLine 6 5 (some "Bar") 2 0 0 0 .stock with
    extRefs := [("stock_id", .string "4")]
    approved := false
    managedBy := none }

def barsAndDraft : Purchasing where
  costing :=
    { jobs := ⟨[⟨2, "Gate", 2, false, some 5⟩], by decide⟩
      costSets := ⟨[⟨5, 2, .actual, 1, ⟨0, 0, 0⟩⟩], by decide⟩
      lines := ⟨[draftOfTwo], by decide⟩
      leaveTypes := Table.empty }
  stock := ⟨[⟨4, none, none, "Bar", 5, 1, 12, none, .manual, none, none, none, none, none, true⟩],
    by decide⟩
  movements := Table.empty
  orders := Table.empty
  orderLines := Table.empty
  stocktakes := Table.empty
  stocktakeLines := Table.empty
  adjustmentJob := none
  materialsMarkup := 1 / 5
  today := 0
  fresh := 10

/-- The draft is approved twice, six more bars are consumed, and one request is refused: two
issues, and three bars short. -/
theorem issues_exact_after_two_approvals :
    let db := serveAll step barsAndDraft [.approveCostLine 4 2 2 7 6, .approveCostLine 4 2 2 7 6,
      .consumeStock 4 2 6 7 none none, .consumeStock 4 2 0 7 none none]
    (∃ issues, IssuesExact barsAndDraft db issues) ∧
      db.movements.rows.map (fun m => (m.quantityChange, m.unitCost)) = [(-2, 12), (-6, 12)] ∧
      db.stock.rows.map Stock.quantity = [-3] ∧
      db.costing.costSets.rows.map (fun set => set.summary.cost) = [96] :=
  ⟨(issues_exact_or_nothing barsAndDraft (by decide +kernel) _ (by decide)).1, by decide +kernel,
    by decide +kernel, by decide +kernel⟩

end Purchasing

end Docketworks
