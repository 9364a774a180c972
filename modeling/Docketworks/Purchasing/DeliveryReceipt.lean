import Docketworks.Purchasing.Allocation

/-!
# Delivery receipts

`apps/purchasing/services/delivery_receipt_service.py`: the received total of each line is
validated against its allocations, added to the order line, and the allocations are materialised.

* `validateAndPrepareAllocations` — the total and the non-zero allocations of one line; the two
  may differ by the tolerance.
* `receiveLine` — one pass of the receipt: the total on the order line, then the allocations.
* `processDeliveryReceipt`, `receiveOutstandingOrder` — the two entry points.

**Design.**  The accounting system's answer to the state change is an input, `Mirror`: it decides
whether the order still owes a push, or refuses the receipt, and touches nothing else.
-/

namespace Docketworks

open Library Library.Transaction

namespace Purchasing

/-- The caller's allocation for one line, before validation. -/
structure ReceiptAllocationRequest where
  jobId : ℕ
  quantity : ℚ
  retailRate : Option ℚ
  materialMetadata : List (String × String)

structure ReceiptLineRequest where
  totalReceived : ℚ
  allocations : List ReceiptAllocationRequest

/-- The receipt of several lines, keyed by line. -/
abbrev LineAllocations := Table (Prod.fst : ℕ × ReceiptLineRequest → ℕ)

/-- What the accounting system answers to a state change. -/
inductive MirrorAnswer where
  /-- It holds the order as it stands now, or the order is its own. -/
  | acknowledged
  /-- It refuses the order: the operator has something to fix. -/
  | refused
  /-- It is not available; the order stays owed. -/
  | postponed
deriving DecidableEq, Repr

/-- The accounting system, as far as one call sees it. -/
abbrev Mirror := PurchaseOrder → MirrorAnswer

/-- `send_state_change`: spend the call now, or leave the order owing one. -/
def sendStateChange (mirror : Mirror) (po : PurchaseOrder) : PurchasingCall Unit := do
  let row ← theOrder po.id
  .when (row.xeroPushDue = true) do
    .require (mirror po ≠ .refused)
      (.invalidInput "The accounting system refused this purchase order.")
    .when (mirror po = .acknowledged)
      (.write fun db => { db with orders := db.orders.put { row with xeroPushDue := false } })

def receiptableStatuses : List PurchaseOrderStatus :=
  [.submitted, .partiallyReceived, .fullyReceived]

def allocationTolerance : ℚ := 1 / 1000

/-- `_load_po_and_lines`: every line named belongs to the order. -/
def loadPoAndLines (purchaseOrder : ℕ) (lineAllocations : LineAllocations) :
    PurchasingCall (PurchaseOrder × List PurchaseOrderLine) := do
  let db ← Transaction.read (fun db => db)
  let po ← Transaction.orRefuse (db.orders.find? purchaseOrder)
    (.invalidInput "PurchaseOrder %(po_id)s not found")
  let requested := lineAllocations.rows.map Prod.fst
  let lines := db.orderLines.rows.filter fun line =>
    line.id ∈ requested && line.purchaseOrder = po.id
  .require (lines.length = requested.length)
    (.invalidInput "Invalid or mismatched PurchaseOrderLine IDs provided: %(missing)s")
  pure (po, lines)

/-- `_load_jobs`: every job named is there, also where nothing is allocated to it. -/
def loadJobs (lineAllocations : LineAllocations) : PurchasingCall (List Job) := do
  let jobs ← Transaction.read (fun db => db.costing.jobs)
  let named := (lineAllocations.rows.flatMap fun entry =>
    entry.2.allocations.map ReceiptAllocationRequest.jobId)
  .require (∀ id ∈ named, (jobs.find? id).isSome)
    (.invalidInput "Invalid Job IDs provided in allocations: %(missing)s")
  pure (jobs.rows.filter fun job => job.id ∈ named)

/-- The allocation as it is materialised. -/
def prepare (line : PurchaseOrderLine) (jobs : List Job) (defaultPct : ℚ)
    (alloc : ReceiptAllocationRequest) : Option MaterialAllocation :=
  (jobs.find? fun job => job.id = alloc.jobId).map fun job =>
    { job := job
      quantity := alloc.quantity
      materialMetadata := AllocationMetadata.resolve alloc.materialMetadata line
      retailRatePct := alloc.retailRate.getD defaultPct }

/-- The received total, and the allocations to materialise: those of zero are passed over. -/
def validateAndPrepareAllocations (line : PurchaseOrderLine) (request : ReceiptLineRequest)
    (jobs : List Job) : PurchasingCall (ℚ × List MaterialAllocation) := do
  .require (line.unitCost ≠ none) (.invalidInput
    ("Price not confirmed for line %(line_id)s (%(description)s); " ++
      "cannot process delivery receipt."))
  let defaultPct ← defaultRetailRatePct
  let nonZero := request.allocations.filter fun alloc => alloc.quantity ≠ 0
  let prepared ← Transaction.orRefuse (nonZero.mapM (prepare line jobs defaultPct)) (.invalidInput
    "Invalid or missing job_id for non-zero allocation on line %(line_id)s.")
  let allocated := (prepared.map MaterialAllocation.quantity).sum
  .require (|allocated - request.totalReceived| ≤ allocationTolerance) (.invalidInput
    ("Allocation mismatch for line '%(description)s' (id %(line_id)s). " ++
      "Total Received=%(total_received)s, Sum of Allocations=%(allocated)s."))
  .require (¬(prepared = [] ∧ request.totalReceived = 0)) (.invalidInput
    ("Line '%(description)s' (id %(line_id)s) has nothing to receive; " ++
      "omit it from the receipt instead of sending a zero quantity."))
  pure (request.totalReceived, prepared)

/-- One allocation, to stock or to a job. -/
def materialiseOne (po : PurchaseOrder) (line : PurchaseOrderLine) (stockHoldingJobId staff : ℕ)
    (alloc : MaterialAllocation) : PurchasingCall Unit :=
  if alloc.job.id = stockHoldingJobId then do
    let _ ← createStockFromAllocation line alloc staff
    pure ()
  else do
    -- the job as it is by now: an earlier allocation may have given it its actuals
    let job ← theJob alloc.job.id
    let _ ← createCostlineFromAllocation po line job alloc.quantity alloc.retailRatePct staff
    pure ()

def materialise (po : PurchaseOrder) (line : PurchaseOrderLine)
    (allocations : List MaterialAllocation) (stockHoldingJobId staff : ℕ) : PurchasingCall Unit :=
  allocations.forM (materialiseOne po line stockHoldingJobId staff)

/-- `received_quantity = F("received_quantity") + total`: the column rounds the sum. -/
def addReceived (lineId : ℕ) (total : ℚ) : PurchasingCall Unit := do
  let found ← Transaction.read (fun db => db.orderLines.find? lineId)
  let stored ← Transaction.orRefuse found (.doesNotExist "PurchaseOrderLine")
  let received ← column 10 2 (stored.receivedQuantity + total)
  .write fun db => { db with
    orderLines := db.orderLines.put { stored with receivedQuantity := received } }

def receiveLine (po : PurchaseOrder) (lines : List PurchaseOrderLine) (jobs : List Job)
    (stockHoldingJobId staff : ℕ) (entry : ℕ × ReceiptLineRequest) : PurchasingCall Unit := do
  let line ← Transaction.orRefuse (lines.find? fun line => line.id = entry.1)
    (.doesNotExist "PurchaseOrderLine")
  let (total, prepared) ← validateAndPrepareAllocations line entry.2 jobs
  addReceived line.id total
  materialise po line prepared stockHoldingJobId staff

def processDeliveryReceipt (mirror : Mirror) (purchaseOrder : ℕ)
    (lineAllocations : LineAllocations) (staff : ℕ) (ifMatch : List PurchaseOrderETag) :
    PurchasingCall Unit := do
  let (po, lines) ← loadPoAndLines purchaseOrder lineAllocations
  requireCurrentEtag po ifMatch
  .require (po.status ∈ receiptableStatuses) (.invalidInput
    "Cannot process delivery receipt for PO %(po_number)s with status '%(status)s'.")
  let holding ← stockHoldingJob
  let jobs ← loadJobs lineAllocations
  lineAllocations.rows.forM (receiveLine po lines jobs holding.id staff)
  let po ← recomputePurchaseOrderStatus po
  .when (po.xeroPushDue = true) (sendStateChange mirror po)

/-- The whole outstanding quantity of a line, allocated to its job or to stock. -/
def outstandingRequest (stockJob : ℕ) (line : PurchaseOrderLine) : ReceiptLineRequest where
  totalReceived := line.quantity - line.receivedQuantity
  allocations :=
    [{ jobId := line.job.getD stockJob
       quantity := line.quantity - line.receivedQuantity
       retailRate := none
       materialMetadata := [] }]

/-- The receipt of everything an order still waits for. -/
def outstandingRequests (stockJob : ℕ) (lines : Table PurchaseOrderLine.id) (po : ℕ) :
    LineAllocations where
  rows := (lines.rows.filter fun line =>
      line.purchaseOrder = po && line.receivedQuantity < line.quantity).map
    fun line => (line.id, outstandingRequest stockJob line)
  nodup := by
    rw [List.map_map]
    exact lines.nodup.sublist (List.filter_sublist.map _)

/-- Submit only outstanding quantities through the canonical receipt command. -/
def receiveOutstandingOrder (mirror : Mirror) (purchaseOrder staff : ℕ)
    (ifMatch : List PurchaseOrderETag) : PurchasingCall Unit := do
  let po ← theOrder purchaseOrder
  requireCurrentEtag po ifMatch
  let rows ← Transaction.read Purchasing.orderLines
  let holding ← stockHoldingJob
  let requests := outstandingRequests holding.id rows po.id
  .when (requests.rows ≠ []) (processDeliveryReceipt mirror po.id requests staff ifMatch)

end Purchasing

end Docketworks
