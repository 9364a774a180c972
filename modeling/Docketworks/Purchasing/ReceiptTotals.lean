import Docketworks.Purchasing.Evidence
import Docketworks.Purchasing.SupplierRuns

/-!
# What a receipt brings

A receipt raises what its lines have received, puts material on hand and charges jobs.  Each
allocation adds its own share to these totals, so a receipt adds the sum of its allocations, in
whatever order they are written.

* `Account`, `tally` — material on hand by order line, cost and revenue by job.
* `Receiving` — what a receipt in progress leaves: the jobs' kinds, the markup, and that every cost
  line's set is there.
* `createStockFromAllocation_brings`, `createCostlineFromAllocation_brings` — one allocation;
  `receiveLine_brings` — one line; `processDeliveryReceipt_brings` — a whole receipt.
-/

namespace Docketworks

open Library Library.Transaction

namespace Purchasing

/-! ## The totals -/

/-- What the totals are kept for. -/
inductive Account where
  /-- Material on hand that came from an order line. -/
  | onHand (line : ℕ)
  | cost (job : ℕ)
  | revenue (job : ℕ)
deriving DecidableEq

def actualJob (db : Costing) (costSet : ℕ) : Option ℕ :=
  (db.costSets.find? costSet).bind fun set => if set.kind = .actual then some set.job else none

/-- A figure of a job's actuals, over its cost lines. -/
def jobFigure (figure : CostLine → ℚ) (db : Costing) (job : ℕ) : ℚ :=
  db.lines.sum fun line => if actualJob db line.costSet = some job then figure line else 0

/-- The totals as they stand. -/
def tally (db : Purchasing) : Account → ℚ
  | .onHand line => db.stock.sum fun stock =>
      if stock.sourcePurchaseOrderLine = some line then stock.quantity else 0
  | .cost job => jobFigure CostLine.totalCost db.costing job
  | .revenue job => jobFigure CostLine.totalRev db.costing job

/-- A quantity on hand from the line `line?`. -/
def onLine (line? : Option ℕ) (quantity : ℚ) : Account → ℚ
  | .onHand line => if line? = some line then quantity else 0
  | _ => 0

/-- Cost and revenue of the job `job?`. -/
def onJob (job? : Option ℕ) (cost revenue : ℚ) : Account → ℚ
  | .onHand _ => 0
  | .cost job => if job? = some job then cost else 0
  | .revenue job => if job? = some job then revenue else 0

lemma onLine_add {line? : Option ℕ} {q r : ℚ} : onLine line? q + onLine line? r = onLine line? (q + r) := by
  funext account
  cases account with
  | onHand line =>
      show (if line? = some line then q else 0) + (if line? = some line then r else 0) =
        if line? = some line then q + r else 0
      split <;> simp
  | cost job => exact add_zero 0
  | revenue job => exact add_zero 0

@[simp] lemma onLine_zero {line? : Option ℕ} : onLine line? 0 = 0 := by
  funext account
  cases account <;> simp [onLine]

/-! ## Costing -/

section Costing

variable {db db' : Costing}

lemma actualJob_of_kept (hsets : SetsKept db db') {costSet : ℕ}
    (hthere : (db.costSets.find? costSet).isSome) : actualJob db' costSet = actualJob db costSet := by
  obtain ⟨set, hset⟩ := Option.isSome_iff_exists.mp hthere
  obtain ⟨set', hset', hjob, hkind⟩ := hsets costSet set hset
  rw [actualJob, actualJob, hset, hset', Option.bind_some, Option.bind_some, hjob, hkind]

/-- Every cost line's set is there. -/
def Owned (db : Costing) : Prop :=
  ∀ line ∈ db.lines.rows, (db.costSets.find? line.costSet).isSome

lemma Owned.kept (h : Owned db) (hsets : SetsKept db db') (hlines : db'.lines = db.lines) :
    Owned db' := by
  intro line hline
  rw [hlines] at hline
  obtain ⟨set, hset⟩ := Option.isSome_iff_exists.mp (h line hline)
  obtain ⟨set', hset', -⟩ := hsets _ set hset
  rw [hset']
  rfl

lemma jobFigure_of_kept (h : Owned db) (hsets : SetsKept db db') (hlines : db'.lines = db.lines)
    (figure : CostLine → ℚ) (job : ℕ) : jobFigure figure db' job = jobFigure figure db job := by
  unfold jobFigure Table.sum
  rw [hlines]
  refine congrArg List.sum (List.map_congr_left fun line hline => ?_)
  rw [actualJob_of_kept hsets (h line hline)]

/-- **A new cost line** adds its figures to the job its set is of. -/
lemma jobFigure_of_insert {line : CostLine} (h : Owned db) (hsets : SetsKept db db')
    (hinsert : db.lines.insert? line = some db'.lines) (figure : CostLine → ℚ) (job : ℕ) :
    jobFigure figure db' job = jobFigure figure db job +
      if actualJob db' line.costSet = some job then figure line else 0 := by
  unfold jobFigure
  rw [Table.sum_insert? hinsert]
  congr 1
  unfold Table.sum
  refine congrArg List.sum (List.map_congr_left fun line hline => ?_)
  rw [actualJob_of_kept hsets (h line hline)]

end Costing

/-! ## What stays -/

/-- What a receipt in progress leaves as it was in `start`. -/
structure Receiving (start db : Purchasing) : Prop where
  owned : Owned db.costing
  jobs : ∀ id, (db.costing.jobs.find? id).map Job.shopJob =
    (start.costing.jobs.find? id).map Job.shopJob
  markup : db.materialsMarkup = start.materialsMarkup

variable {start db db' : Purchasing}

lemma Receiving.refl (h : Owned db.costing) : Receiving db db := ⟨h, fun _ => rfl, rfl⟩

lemma Receiving.congr (h : Receiving start db) (hcosting : db'.costing = db.costing)
    (hmarkup : db'.materialsMarkup = db.materialsMarkup) : Receiving start db' := by
  obtain ⟨howned, hjobs, hmarkup'⟩ := h
  exact ⟨by rwa [hcosting], by rwa [hcosting], hmarkup.trans hmarkup'⟩

/-! ## The calls of an allocation -/

/-- The kinds and quantities of some movements. -/
def postings (movements : List StockMovement) : List (StockMovementKind × ℚ) :=
  movements.map fun m => (m.kind, m.quantityChange)

/-- What a part of a receipt brings: it adds to the totals, and posts movements at the end of the
ledger. -/
structure Brings (brought : Account → ℚ) (posted : List (StockMovementKind × ℚ))
    (db db' : Purchasing) : Prop where
  tally : tally db' = tally db + brought
  ledger : ∃ new, db'.movements.rows = db.movements.rows ++ new ∧ postings new = posted

lemma Brings.refl (db : Purchasing) : Brings 0 [] db db :=
  ⟨(add_zero _).symm, [], (List.append_nil _).symm, rfl⟩

lemma Brings.trans {brought brought' : Account → ℚ} {posted posted' : List (StockMovementKind × ℚ)}
    {t : Purchasing} (h : Brings brought posted db t) (h' : Brings brought' posted' t db') :
    Brings (brought + brought') (posted ++ posted') db db' := by
  obtain ⟨new, hnew, hposted⟩ := h.ledger
  obtain ⟨new', hnew', hposted'⟩ := h'.ledger
  refine ⟨by rw [h'.tally, h.tally, add_assoc], new ++ new', ?_, ?_⟩
  · rw [hnew', hnew, List.append_assoc]
  · rw [postings, List.map_append]
    exact congrArg₂ _ hposted hposted'

lemma Brings.of_same (hstock : db'.stock = db.stock) (hmovements : db'.movements = db.movements)
    (hcost : ∀ job, jobFigure CostLine.totalCost db'.costing job =
      jobFigure CostLine.totalCost db.costing job)
    (hrev : ∀ job, jobFigure CostLine.totalRev db'.costing job =
      jobFigure CostLine.totalRev db.costing job) : Brings 0 [] db db' := by
  refine ⟨?_, [], by rw [hmovements, List.append_nil], rfl⟩
  rw [add_zero]
  funext account
  cases account with
  | onHand line =>
      show db'.stock.sum _ = db.stock.sum _
      rw [hstock]
  | cost job => exact hcost job
  | revenue job => exact hrev job

/-- **A movement** puts its change on hand from its identity's line. -/
lemma moveStock_brings {stock : ℕ} {change : ℚ} {context : MovementContext} {row : StockMovement}
    {locked : Stock} (h : (moveStock stock change context).run db = .ok (row, db'))
    (hlocked : db.stock.find? stock = some locked) (hscale : IsDecimal 3 locked.quantity) :
    Brings (onLine locked.sourcePurchaseOrderLine change) [(context.kind, change)] db db' ∧
      ∃ moved, db'.stock.find? stock = some moved ∧
        moved.sourcePurchaseOrderLine = locked.sourcePurchaseOrderLine ∧
        moved.quantity = locked.quantity + change ∧ IsDecimal 3 moved.quantity := by
  have hlinks := run_moveStock_links h
  obtain ⟨locked', movements, hlocked', hinsert, -, hchange, -, hbefore, hafter, hscale', -, -, -, rfl⟩ :=
    run_moveStock h
  obtain rfl : locked = locked' := Option.some.inj (hlocked.symm.trans hlocked')
  have hkey : locked.id = stock := Table.key_of_find? hlocked
  subst hkey
  have hquantity : row.quantityAfter = locked.quantity + change := by
    rw [hafter, hbefore, hchange, roundHalfAway_of_isDecimal hscale]
  refine ⟨⟨?_, [row], Table.rows_insert? hinsert, ?_⟩, afterMovement locked row,
    Table.find?_put_self (r := afterMovement locked row) hlocked, rfl, hquantity, hscale'⟩
  · funext account
    cases account with
    | onHand line =>
        simp only [tally, Pi.add_apply, onLine]
        rw [Table.sum_put (r := afterMovement locked row) hlocked]
        show _ - _ + (if locked.sourcePurchaseOrderLine = some line then row.quantityAfter else 0) = _
        rw [hquantity]
        split <;> ring
    | cost job => exact (add_zero _).symm
    | revenue job => exact (add_zero _).symm
  · rw [postings, List.map_singleton, hlinks.kind, hchange]

lemma insertStock_brings {stock : Stock} {u : Unit} (hempty : stock.quantity = 0)
    (h : (insertStock stock).run db = .ok (u, db')) :
    Brings 0 [] db db' ∧ ∃ row, db'.stock.find? stock.id = some row ∧ row.quantity = 0 ∧
      row.sourcePurchaseOrderLine = stock.sourcePurchaseOrderLine ∧ db'.costing = db.costing ∧
      db'.orderLines = db.orderLines ∧ db'.materialsMarkup = db.materialsMarkup := by
  simp only [insertStock, run_bind, run_read, run_require, run_orRefuse, run_write] at h
  obtain ⟨row, _, hrow, _, _, ⟨rfl, rfl⟩, _, _, ⟨-, rfl⟩, inserted, _, ⟨hinsert, rfl⟩, rfl⟩ := h
  obtain ⟨rfl, hid, hquantity, -, -, hsource⟩ := run_stockColumns hrow
  rw [hempty] at hquantity
  refine ⟨⟨?_, [], (List.append_nil _).symm, rfl⟩, row, ?_, hquantity, hsource, rfl, rfl, rfl⟩
  · rw [add_zero]
    funext account
    cases account with
    | onHand line =>
        simp only [tally]
        rw [Table.sum_insert? hinsert, hquantity, ite_self, add_zero]
    | cost job => rfl
    | revenue job => rfl
  · rw [← hid]
    exact Table.find?_insert?_self hinsert

/-- **An allocation to stock** puts its quantity on hand, by one delivery. -/
lemma createStockFromAllocation_brings {line : PurchaseOrderLine} {allocation : MaterialAllocation}
    {staff stock : ℕ}
    (h : (createStockFromAllocation line allocation staff).run db = .ok (stock, db')) :
    Brings (onLine (some line.id) allocation.quantity) [(.delivery, allocation.quantity)] db db' ∧
      (∃ row, db'.stock.find? stock = some row ∧ row.sourcePurchaseOrderLine = some line.id ∧
        IsDecimal 3 row.quantity) ∧
      db'.costing = db.costing ∧ db'.orderLines = db.orderLines ∧
      db'.materialsMarkup = db.materialsMarkup := by
  simp only [createStockFromAllocation, run_bind, run_orRefuse, run_require, run_newId, run_pure] at h
  obtain ⟨_, _, ⟨-, rfl⟩, _, _, ⟨-, rfl⟩, id, _, ⟨-, rfl⟩, _, t, hinsert, order, t', horder, row, t'',
    hmove, rfl, rfl⟩ := h
  obtain rfl := readOnly_theOrder _ _ _ horder
  obtain ⟨hnothing, stored, hstored, hempty, hsource, hcosting, hlines, hmarkup⟩ :=
    insertStock_brings rfl hinsert
  obtain ⟨hbrings, moved, hmoved, hsource', -, hscale⟩ :=
    moveStock_brings hmove hstored (hempty ▸ isDecimal_zero)
  have hkept : t''.costing = t'.costing ∧ t''.orderLines = t'.orderLines ∧
      t''.materialsMarkup = t'.materialsMarkup := by
    obtain ⟨_, _, -, -, -, -, -, -, -, -, -, -, -, rfl⟩ := run_moveStock hmove
    exact ⟨rfl, rfl, rfl⟩
  rw [hsource] at hbrings hsource'
  have hboth := hnothing.trans hbrings
  rw [zero_add, List.nil_append] at hboth
  exact ⟨⟨hboth.tally, hboth.ledger⟩, ⟨moved, hmoved, hsource', hscale⟩, hkept.1.trans hcosting,
    hkept.2.1.trans hlines, hkept.2.2.trans hmarkup⟩

section Jobs

variable {jobs : Table Job.id}

lemma addToSummary_jobs (owner : ℕ) (change : Summary) (db : Costing) :
    (CostSet.addToSummary owner change db).jobs = db.jobs := by
  unfold CostSet.addToSummary
  split <;> rfl

lemma writeRow_keeps_jobs {line : CostLine} {adding : Bool}
    {updateFields : Option (List CostLine.Column)} :
    Keeps (fun db : Costing => db.jobs = jobs) (line.writeRow adding updateFields) := by
  refine .bind .read fun db => ?_
  split
  · exact .write fun _ h => h
  · exact .write fun _ h => h
  · exact .pure
  · exact .refuse
  · exact .bind .orRefuse fun _ => .write fun _ h => h

lemma save_keeps_jobs {line : CostLine} {adding : Bool}
    {updateFields : Option (List CostLine.Column)} :
    Keeps (fun db : Costing => db.jobs = jobs) (line.save adding updateFields) := by
  refine .ite (fun _ => writeRow_keeps_jobs) fun _ => ?_
  refine .bind readOnly_actualTimeEntryRequiresSequence.keeps fun _ =>
    .bind readOnly_lockSummaryOwners.keeps fun _ => .bind readOnly_assignEntrySeq.keeps fun _ =>
      .bind ?_ fun _ => .bind .read fun _ => .bind .require fun _ => .forM fun _ _ => ?_
  · exact .bind Docketworks.readOnly_theJob.keeps fun _ => .bind .require fun _ => .bind .require fun _ =>
      .bind readOnly_fullClean.keeps fun _ => writeRow_keeps_jobs
  · exact .when fun _ => .write fun _ h => (addToSummary_jobs ..).trans h

end Jobs

lemma ensureActualCostSet_brings {job : Job} {costSet : ℕ} (hdb : Receiving start db)
    (hjob : db.costing.jobs.find? job.id = some job)
    (h : (ensureActualCostSet job).run db = .ok (costSet, db')) :
    Brings 0 [] db db' ∧ Receiving start db' ∧ db'.orderLines = db.orderLines := by
  have hjobs : (∀ id, (db'.costing.jobs.find? id).map Job.shopJob =
      (db.costing.jobs.find? id).map Job.shopJob) := by
    unfold ensureActualCostSet at h
    split at h
    · obtain ⟨-, rfl⟩ := run_pure.mp h
      exact fun _ => rfl
    · simp only [onCosting, CostSet.create, run_bind, run_newId, run_on, run_read, run_require,
        run_orRefuse, run_write, run_pure] at h
      obtain ⟨id, _, ⟨-, rfl⟩, _, _, ⟨_, ⟨_, _, ⟨rfl, rfl⟩, _, _, ⟨-, rfl⟩, _, _, ⟨-, rfl⟩, sets, _,
        ⟨-, rfl⟩, rfl⟩, rfl⟩, _, _, ⟨_, rfl, rfl⟩, -, rfl⟩ := h
      intro other
      show ((db.costing.jobs.put { job with latestActual := some id }).find? other).map _ = _
      by_cases hsame : other = job.id
      · have hput : (db.costing.jobs.put { job with latestActual := some id }).find? job.id =
            some { job with latestActual := some id } :=
          Table.find?_put_self (r := { job with latestActual := some id }) hjob
        rw [hsame, hput, hjob]
        rfl
      · have hput : (db.costing.jobs.put { job with latestActual := some id }).find? other =
            db.costing.jobs.find? other :=
          Table.find?_put_of_ne (r := { job with latestActual := some id }) hsame
        rw [hput]
  obtain ⟨costing, fresh, rfl, hlines, hsets⟩ := run_ensureActualCostSet h
  refine ⟨.of_same rfl rfl (jobFigure_of_kept hdb.owned hsets hlines _)
    (jobFigure_of_kept hdb.owned hsets hlines _), ?_, rfl⟩
  exact ⟨hdb.owned.kept hsets hlines, fun id => (hjobs id).trans (hdb.jobs id), hdb.markup⟩

/-- **A new cost line** of a job's actuals charges the job. -/
lemma saveCost_brings {line : CostLine} {job : ℕ} {u : Unit}
    (h : (onCosting (line.save true none)).run db = .ok (u, db')) (hkind : line.kind ≠ .time)
    (hdb : Receiving start db)
    (hactual : actualJob db'.costing line.costSet = some job) :
    Brings (onJob (some job) line.totalCost line.totalRev) [] db db' ∧ Receiving start db' ∧
      db'.orderLines = db.orderLines := by
  obtain ⟨costing, hsave, rfl⟩ := run_on.mp h
  obtain ⟨hinsert, hsets, -⟩ := CostLine.run_save_new hkind hsave
  have hjobs : costing.jobs = db.costing.jobs := save_keeps_jobs _ rfl _ _ hsave
  replace hactual : actualJob costing line.costSet = some job := hactual
  refine ⟨⟨?_, [], (List.append_nil _).symm, rfl⟩, ⟨?_, fun id => ?_, hdb.markup⟩, rfl⟩
  · funext account
    cases account with
    | onHand order => exact (add_zero _).symm
    | cost other =>
        refine (jobFigure_of_insert hdb.owned hsets hinsert CostLine.totalCost other).trans ?_
        rw [hactual]
        rfl
    | revenue other =>
        refine (jobFigure_of_insert hdb.owned hsets hinsert CostLine.totalRev other).trans ?_
        rw [hactual]
        rfl
  · intro other hother
    rcases (Table.mem_insert? hinsert).mp hother with hold | rfl
    · obtain ⟨set, hset⟩ := Option.isSome_iff_exists.mp (hdb.owned other hold)
      obtain ⟨set', hset', -⟩ := hsets _ set hset
      show (costing.costSets.find? other.costSet).isSome
      rw [hset']
      rfl
    · show (costing.costSets.find? other.costSet).isSome
      have hthere : (costing.costSets.find? other.costSet).bind _ = some job := hactual
      cases hset : costing.costSets.find? other.costSet with
      | none =>
          rw [hset] at hthere
          cases hthere
      | some set => rfl
  · show (costing.jobs.find? id).map Job.shopJob = _
    rw [hjobs]
    exact hdb.jobs id

/-- What a unit of material is charged to a job at: nothing on a shop job, else the cost and the
markup. -/
def unitRevenueFor (shopJob : Bool) (unitCost pct : ℚ) : ℚ :=
  if shopJob then 0 else roundHalfEven 2 (unitCost * (1 + retailPctToRate pct))

/-- **An allocation to a job** charges the job; the quantity passes through an identity and leaves
nothing on hand. -/
lemma createCostlineFromAllocation_brings {po : PurchaseOrder} {line : PurchaseOrderLine} {job : Job}
    {qty pct : ℚ} {staff id : ℕ} (hdb : Receiving start db)
    (hjob : db.costing.jobs.find? job.id = some job)
    (h : (createCostlineFromAllocation po line job qty pct staff).run db = .ok (id, db')) :
    ∃ unitCost, line.unitCost = some unitCost ∧
      Brings (onJob (some job.id) (qty * unitCost) (qty * unitRevenueFor job.shopJob unitCost pct))
        [(.delivery, qty), (.issue, -qty)] db db' ∧
      Receiving start db' ∧ db'.orderLines = db.orderLines := by
  simp only [createCostlineFromAllocation, run_bind, run_orRefuse, run_newId, run_read, run_pure] at h
  obtain ⟨unitCost, _, ⟨hunitCost, rfl⟩, costSet, t₁, hset, key, _, ⟨-, rfl⟩, today, _, ⟨rfl, rfl⟩, _,
    t₂, hsave, holding, t₃, hholding, stock, t₄, hstock, row, t₅, hmove, -, rfl⟩ := h
  refine ⟨unitCost, hunitCost, ?_⟩
  obtain rfl := readOnly_stockHoldingJob _ _ _ hholding
  obtain ⟨hset₁, hreceiving₁, hlines₁⟩ := ensureActualCostSet_brings hdb hjob hset
  obtain ⟨hdelivered, ⟨delivered, hdelivered', hsource, hscale⟩, hcosting₄, hlines₄, hmarkup₄⟩ :=
    createStockFromAllocation_brings hstock
  obtain ⟨cost, set, hcost, -, hset', hcharged, hactual⟩ := run_moveStock_cost hmove rfl
  obtain rfl := Option.some.inj hcost
  obtain ⟨hissued, -⟩ := moveStock_brings hmove hdelivered' hscale
  have hcharged' : actualJob t₃.costing costSet = some job.id := by
    have hfound : t₃.costing.costSets.find? costSet = some set := by
      rw [← hcosting₄]
      exact hset'
    rw [actualJob, hfound, Option.bind_some, if_pos hactual]
    exact hcharged
  obtain ⟨hcost, hreceiving₂, hlines₂⟩ := saveCost_brings hsave
    (show LineKind.material ≠ .time by decide) (hreceiving₁.congr rfl rfl) hcharged'
  obtain ⟨hcosting₅, hlines₅, hmarkup₅⟩ : t₅.costing = t₄.costing ∧
      t₅.orderLines = t₄.orderLines ∧ t₅.materialsMarkup = t₄.materialsMarkup := by
    obtain ⟨_, _, -, -, -, -, -, -, -, -, -, -, -, rfl⟩ := run_moveStock hmove
    exact ⟨rfl, rfl, rfl⟩
  have hnothing : onLine (some line.id) qty + onLine (some line.id) (-qty) = 0 := by
    rw [onLine_add, add_neg_cancel, onLine_zero]
  rw [hsource] at hissued
  have hnumbered : Brings 0 [] db { t₁ with fresh := t₁.fresh + 1 } := ⟨hset₁.tally, hset₁.ledger⟩
  have hall := (hnumbered.trans hcost).trans (hdelivered.trans hissued)
  refine ⟨⟨?_, hall.ledger⟩, hreceiving₂.congr (hcosting₅.trans hcosting₄)
    (hmarkup₅.trans hmarkup₄), ?_⟩
  · rw [hall.tally, hnothing, zero_add, add_zero]
    rfl
  · rw [hlines₅, hlines₄, hlines₂]
    exact hlines₁

/-! ## One allocation -/

lemma onJob_add {job? : Option ℕ} {c c' r r' : ℚ} :
    onJob job? c r + onJob job? c' r' = onJob job? (c + c') (r + r') := by
  funext account
  cases account with
  | onHand line => exact add_zero 0
  | cost job =>
      show (if job? = some job then c else 0) + (if job? = some job then c' else 0) =
        if job? = some job then c + c' else 0
      split <;> simp
  | revenue job =>
      show (if job? = some job then r else 0) + (if job? = some job then r' else 0) =
        if job? = some job then r + r' else 0
      split <;> simp

@[simp] lemma onJob_zero {job? : Option ℕ} : onJob job? 0 0 = 0 := by
  funext account
  cases account <;> simp [onJob]

def isShopJob (db : Purchasing) (job : ℕ) : Bool :=
  ((db.costing.jobs.find? job).map Job.shopJob).getD false

/-- What a quantity of a line brings: it is on hand if it goes to the job that holds the stock,
else its job is charged. -/
def broughtBy (start : Purchasing) (holding : ℕ) (line : PurchaseOrderLine) (job : ℕ)
    (pct quantity : ℚ) : Account → ℚ :=
  if job = holding then onLine (some line.id) quantity
  else onJob (some job) (quantity * line.unitCost.getD 0)
    (quantity * unitRevenueFor (isShopJob start job) (line.unitCost.getD 0) pct)

/-- What a quantity posts: its delivery, and its issue where a job is charged. -/
def postedBy (holding job : ℕ) (quantity : ℚ) : List (StockMovementKind × ℚ) :=
  if job = holding then [(.delivery, quantity)] else [(.delivery, quantity), (.issue, -quantity)]

lemma broughtBy_add {holding : ℕ} {line : PurchaseOrderLine} {job : ℕ} {pct q r : ℚ} :
    broughtBy start holding line job pct q + broughtBy start holding line job pct r =
      broughtBy start holding line job pct (q + r) := by
  unfold broughtBy
  split
  · exact onLine_add
  · rw [onJob_add, ← add_mul, ← add_mul]

@[simp] lemma broughtBy_zero {holding : ℕ} {line : PurchaseOrderLine} {job : ℕ} {pct : ℚ} :
    broughtBy start holding line job pct 0 = 0 := by
  unfold broughtBy
  split
  · exact onLine_zero
  · rw [zero_mul, zero_mul, onJob_zero]

/-- **One allocation**, to stock or to a job. -/
lemma materialiseOne_brings {po : PurchaseOrder} {line : PurchaseOrderLine} {holding staff : ℕ}
    {alloc : MaterialAllocation} {u : Unit} (hdb : Receiving start db)
    (h : (materialiseOne po line holding staff alloc).run db = .ok (u, db')) :
    Brings (broughtBy start holding line alloc.job.id alloc.retailRatePct alloc.quantity)
        (postedBy holding alloc.job.id alloc.quantity) db db' ∧
      Receiving start db' ∧ db'.orderLines = db.orderLines := by
  unfold materialiseOne at h
  rcases run_ite.mp h with ⟨hstock, h⟩ | ⟨hjob, h⟩
  · simp only [run_bind, run_pure] at h
    obtain ⟨stock, _, hcreate, -, rfl⟩ := h
    obtain ⟨hbrings, -, hcosting, hlines, hmarkup⟩ := createStockFromAllocation_brings hcreate
    rw [broughtBy, postedBy, if_pos hstock, if_pos hstock]
    exact ⟨hbrings, hdb.congr hcosting hmarkup, hlines⟩
  · simp only [theJob, run_bind, run_read, run_orRefuse, run_pure] at h
    obtain ⟨job, _, ⟨_, _, ⟨rfl, rfl⟩, hfound, rfl⟩, id, _, hcreate, -, rfl⟩ := h
    have hid : job.id = alloc.job.id := Table.key_of_find? hfound
    obtain ⟨unitCost, hunitCost, hbrings, hreceiving, hlines⟩ :=
      createCostlineFromAllocation_brings hdb (by rw [hid, hfound]) hcreate
    have hshop : isShopJob start alloc.job.id = job.shopJob := by
      rw [isShopJob, ← hdb.jobs, hfound]
      rfl
    rw [broughtBy, postedBy, if_neg hjob, if_neg hjob, hunitCost, hshop, ← hid]
    exact ⟨hbrings, hreceiving, hlines⟩

/-! ## One line -/

/-- What the allocations of a line bring; without a rate of its own, at the company's markup. -/
def ReceiptLineRequest.brings (start : Purchasing) (holding : ℕ) (line : PurchaseOrderLine)
    (request : ReceiptLineRequest) : Account → ℚ :=
  (request.allocations.map fun alloc => broughtBy start holding line alloc.jobId
    (alloc.retailRate.getD (start.materialsMarkup * 100)) alloc.quantity).sum

def ReceiptLineRequest.posts (holding : ℕ) (request : ReceiptLineRequest) :
    List (StockMovementKind × ℚ) :=
  (request.allocations.filter fun alloc => alloc.quantity ≠ 0).flatMap fun alloc =>
    postedBy holding alloc.jobId alloc.quantity

lemma brings_nonZero {holding : ℕ} {line : PurchaseOrderLine} {request : ReceiptLineRequest} :
    ((request.allocations.filter fun alloc => alloc.quantity ≠ 0).map fun alloc =>
      broughtBy start holding line alloc.jobId (alloc.retailRate.getD (start.materialsMarkup * 100))
        alloc.quantity).sum = request.brings start holding line := by
  unfold ReceiptLineRequest.brings
  induction request.allocations with
  | nil => rfl
  | cons alloc allocs ih =>
      by_cases hzero : alloc.quantity = 0
      · rw [List.filter_cons_of_neg (by simpa using hzero), ih, List.map_cons, List.sum_cons, hzero,
          broughtBy_zero, zero_add]
      · rw [List.filter_cons_of_pos (by simpa using hzero), List.map_cons, List.sum_cons, ih,
          List.map_cons, List.sum_cons]

/-- **The allocations as prepared** bring and post what was requested. -/
lemma materialise_brings {po : PurchaseOrder} {line : PurchaseOrderLine} {holding staff : ℕ}
    {jobs : List Job} {requests : List ReceiptAllocationRequest} {prepared : List MaterialAllocation}
    {u : Unit} (hdb : Receiving start db)
    (hprepared : requests.mapM (prepare line jobs (start.materialsMarkup * 100)) = some prepared)
    (h : (materialise po line prepared holding staff).run db = .ok (u, db')) :
    Brings ((requests.map fun alloc => broughtBy start holding line alloc.jobId
        (alloc.retailRate.getD (start.materialsMarkup * 100)) alloc.quantity).sum)
        (requests.flatMap fun alloc => postedBy holding alloc.jobId alloc.quantity) db db' ∧
      Receiving start db' ∧ db'.orderLines = db.orderLines := by
  induction requests generalizing prepared db with
  | nil =>
      obtain rfl : [] = prepared := by simpa using hprepared
      obtain rfl := run_forM_nil.mp h
      exact ⟨.refl _, hdb, rfl⟩
  | cons alloc allocs ih =>
      rw [List.mapM_cons] at hprepared
      obtain ⟨first, hfirst, hprepared⟩ := Option.bind_eq_some_iff.mp hprepared
      obtain ⟨rest, hrest, hprepared⟩ := Option.bind_eq_some_iff.mp hprepared
      obtain rfl : first :: rest = prepared := Option.some.inj hprepared
      obtain ⟨t, hone, hothers⟩ := run_forM_cons.mp h
      obtain ⟨hbrings, hreceiving, hlines⟩ := materialiseOne_brings hdb hone
      obtain ⟨hbrings', hreceiving', hlines'⟩ := ih hreceiving hrest hothers
      obtain ⟨job, hjob, rfl⟩ := Option.map_eq_some_iff.mp hfirst
      have hid : job.id = alloc.jobId := by simpa using List.find?_some hjob
      rw [List.map_cons, List.sum_cons, List.flatMap_cons]
      exact ⟨hid ▸ hbrings.trans hbrings', hreceiving', hlines'.trans hlines⟩

/-- **One line of a receipt**: its total is added to the line, and its allocations are brought. -/
lemma receiveLine_brings {po : PurchaseOrder} {lines : List PurchaseOrderLine} {jobs : List Job}
    {holding staff : ℕ} {entry : ℕ × ReceiptLineRequest} {u : Unit} (hdb : Receiving start db)
    (h : (receiveLine po lines jobs holding staff entry).run db = .ok (u, db')) :
    ∃ line, lines.find? (fun line => line.id = entry.1) = some line ∧
      Brings (entry.2.brings start holding line) (entry.2.posts holding) db db' ∧
      Receiving start db' ∧ ∃ stored, db.orderLines.find? entry.1 = some stored ∧
        db'.orderLines = db.orderLines.put { stored with
          receivedQuantity := roundHalfAway 2 (stored.receivedQuantity + entry.2.totalReceived) } := by
  simp only [receiveLine, run_bind, run_orRefuse] at h
  obtain ⟨line, _, ⟨hline, rfl⟩, ⟨total, prepared⟩, t, hvalid, _, t₁, hadd, hmaterialise⟩ := h
  obtain rfl := readOnly_validateAndPrepareAllocations _ _ _ hvalid
  simp only [validateAndPrepareAllocations, defaultRetailRatePct, run_bind, run_require, run_read,
    run_orRefuse, run_pure, Prod.mk.injEq] at hvalid
  obtain ⟨_, _, ⟨-, rfl⟩, _, _, ⟨_, _, ⟨rfl, rfl⟩, rfl, rfl⟩, _, _, ⟨hprepared, -⟩, _, _, -, _, _, -,
    ⟨rfl, rfl⟩, -⟩ := hvalid
  simp only [addReceived, run_bind, run_read, run_orRefuse, run_column, run_write] at hadd
  obtain ⟨_, _, ⟨rfl, rfl⟩, stored, _, ⟨hstored, rfl⟩, _, _, ⟨-, rfl, rfl⟩, rfl⟩ := hadd
  have hid : line.id = entry.1 := by simpa using List.find?_some hline
  rw [hdb.markup] at hprepared
  have hadded : Receiving start { t with orderLines := t.orderLines.put { stored with
      receivedQuantity := roundHalfAway 2 (stored.receivedQuantity + entry.2.totalReceived) } } :=
    hdb.congr rfl rfl
  obtain ⟨hbrings, hreceiving, hlines⟩ := materialise_brings hadded hprepared hmaterialise
  rw [brings_nonZero] at hbrings
  exact ⟨line, hline, ⟨hbrings.tally, hbrings.ledger⟩, hreceiving, stored, hid ▸ hstored, hlines⟩

end Purchasing

end Docketworks
