import Mathlib.Data.Rat.Init
import Mathlib.Data.List.Perm.Basic
import Docketworks.Core.Text
import Docketworks.Library.Table

/-!
# Pushing local stock to Xero

`apps/xero/stock_sync.py`: `sync_all_local_stock_to_xero` and what it calls.

* `generateItemCode` — the code made of a row's metal, alloy and specifics, or of its id.
* `firstPass` — each waiting row is validated, given a code if it has none, and linked by its code; a code
  another row holds breaks the unique column and leaves the loop.
* `upsertBatch` — one call for up to fifty rows; a failed call fails all of them.
* `syncAllLocalStockToXero` — the run.

**Representation.**  Xero is what it answers: the items it lists at the start of a run, and an
`ItemsApi`.  `str.upper()` is a parameter.  The accounts are the two a run requires to be there.
-/

namespace Docketworks.Xero

open Library

/-! ## Rows and payloads -/

structure StockRow where
  id : String
  itemCode : Option String
  description : String
  quantity : ℚ
  unitCost : ℚ
  unitRevenue : Option ℚ
  metalType : Option String
  alloy : Option String
  specifics : Option String
  date : ℕ
  isActive : Bool
  xeroId : Option String
deriving DecidableEq, Repr

structure PriceDetails where
  unitPrice : ℚ
  accountCode : String
deriving DecidableEq, Repr

structure ItemPayload where
  code : String
  name : String
  description : String
  quantityOnHand : ℚ
  purchaseDetails : PriceDetails
  salesDetails : Option PriceDetails
  itemId : Option String
deriving DecidableEq, Repr

structure XeroItem where
  code : String
  itemId : String
deriving DecidableEq, Repr

/-- `update_or_create_items` as a run calls it.  A call with an item Xero refuses is refused whole, since
it does not turn error summaries off; otherwise every item comes back under its code, with the id it was
sent with or the one minted for it. -/
structure ItemsApi where
  accepts : ItemPayload → Bool
  mint : String → String
  answer : List ItemPayload → Option (List XeroItem)
  answer_refused : ∀ batch, (∃ p ∈ batch, accepts p = false) → answer batch = none
  answer_accepted : ∀ batch, (∀ p ∈ batch, accepts p = true) →
    answer batch = some (batch.map fun p => ⟨p.code, p.itemId.getD (mint p.code)⟩)

/-! ## Codes -/

def StockRow.hasCode (row : StockRow) : Bool := row.itemCode.any fun code => pythonStrip code ≠ ""

/-- `metal_map`. -/
def metalPrefix : Option String → String
  | some "mild_steel" => "MS"
  | some "stainless_steel" => "SS"
  | some "aluminium" => "AL"
  | some "brass" => "BR"
  | some "copper" => "CU"
  | some "titanium" => "TI"
  | some "zinc" => "ZN"
  | some "galvanised" => "GAL"
  | some "other" => "OT"
  | _ => "UN"

section Push

variable (upper : String → String)

/-- `value.strip().replace(" ", "").upper()[:length]`, where there is anything to take. -/
def codePart (value : Option String) (length : ℕ) : List String :=
  match value with
  | none => []
  | some text =>
      if pythonStrip text = "" then []
      else
        let packed := upper (String.ofList ((pythonStrip text).toList.filter (· ≠ ' ')))
        [String.ofList (packed.toList.take length)]

/-- `generate_item_code` of a row that has none. -/
def generateItemCode (row : StockRow) : String :=
  let rest := codePart upper row.alloy 6 ++ codePart upper row.specifics 10
  let (first, rest) :=
    if metalPrefix row.metalType = "UN" ∧ rest = [] then
      ("STK", [String.ofList (row.id.toList.take 8)])
    else (metalPrefix row.metalType, rest)
  -- "-".join(parts)[:30]
  String.ofList ((first.toList ++ rest.flatMap fun part => '-' :: part.toList).take 30)

def StockRow.codeFor (row : StockRow) : String :=
  if row.hasCode then row.itemCode.getD "" else generateItemCode upper row

/-! ## The first pass -/

def validateStockForXero (row : StockRow) : Bool :=
  pythonStrip row.description ≠ "" && 0 ≤ row.unitCost

def buildStockItemPayload (row : StockRow) (code purchaseAccount salesAccount : String) : ItemPayload where
  code
  name := String.ofList (row.description.toList.take 50)
  description := row.description
  quantityOnHand := row.quantity
  purchaseDetails := ⟨row.unitCost, purchaseAccount⟩
  salesDetails := (row.unitRevenue.filter (0 < ·)).map fun price => ⟨price, salesAccount⟩
  itemId := none

def listedItem (items : List XeroItem) (code : String) : Option XeroItem :=
  items.find? fun item => item.code = code

/-- `_ensure_unique_xero_link` refuses: another row has the item. -/
def linkedElsewhere (stock : Table StockRow.id) (id itemId : String) : Bool :=
  stock.rows.any fun other => other.xeroId = some itemId && other.id ≠ id

/-- A code another row holds. -/
def codeTaken (stock : Table StockRow.id) (id code : String) : Bool :=
  stock.rows.any fun other => other.itemCode = some code && other.id ≠ id

structure FirstPass where
  stock : Table StockRow.id
  /-- `items_to_upsert`, by row. -/
  queued : List (String × ItemPayload)
  failed : List (String × String)
  raised : Bool

namespace FirstPass

def andFailed (pass : FirstPass) (id reason : String) : FirstPass :=
  { pass with failed := (id, reason) :: pass.failed }

def andQueued (pass : FirstPass) (id : String) (payload : ItemPayload) : FirstPass :=
  { pass with queued := (id, payload) :: pass.queued }

end FirstPass

/-- The accounts and the item list a run starts with. -/
structure PushSettings where
  purchaseAccount : String
  salesAccount : String
  /-- `fetch_all_xero_items`. -/
  items : List XeroItem

/-- The payload of a row under a code, with the id of the item listed under it. -/
def PushSettings.payloadFor (settings : PushSettings) (row : StockRow) (code : String) : ItemPayload :=
  { buildStockItemPayload row code settings.purchaseAccount settings.salesAccount with
    itemId := (listedItem settings.items code).map XeroItem.itemId }

/-- The item listed under a row's code is another row's. -/
def PushSettings.linkRefused (settings : PushSettings) (stock : Table StockRow.id) (row : StockRow)
    (code : String) : Bool :=
  (listedItem settings.items code).any fun existing => linkedElsewhere stock row.id existing.itemId

/-- The table once a row that had no code was given one. -/
def giveCode (stock : Table StockRow.id) (row : StockRow) (code : String) : Table StockRow.id :=
  if row.hasCode then stock else stock.put { row with itemCode := some code }

def firstPass (settings : PushSettings) (stock : Table StockRow.id) : List StockRow → FirstPass
  | [] => ⟨stock, [], [], false⟩
  | row :: rows =>
      if !validateStockForXero row then (firstPass settings stock rows).andFailed row.id "Validation failed"
      else
        let code := row.codeFor upper
        if !row.hasCode && codeTaken stock row.id code then ⟨stock, [], [], true⟩
        else
          let stock := giveCode stock row code
          if settings.linkRefused stock row code then
            (firstPass settings stock rows).andFailed row.id "Duplicate Code linkage refused"
          else (firstPass settings stock rows).andQueued row.id (settings.payloadFor row code)

/-! ## The batches -/

def batchSize : ℕ := 50

def batchesOf {α : Type} (items : List α) : ℕ → List (List α)
  | 0 => []
  | fuel + 1 =>
      if items.isEmpty then [] else items.take batchSize :: batchesOf (items.drop batchSize) fuel

/-- Where the second pass stands. -/
structure PushState where
  stock : Table StockRow.id
  failed : List (String × String)
  raised : Bool

/-- An item of an answer, stored on the row sent under its code. -/
def saveXeroId (batch : List (String × ItemPayload)) (s : PushState) (item : XeroItem) : PushState :=
  if s.raised then s
  else
    match (batch.find? fun sent => sent.2.code = item.code).bind fun sent => s.stock.find? sent.1 with
    | none => s
    | some row =>
        if linkedElsewhere s.stock row.id item.itemId then { s with raised := true }
        else { s with stock := s.stock.put { row with xeroId := some item.itemId } }

def upsertBatch (api : ItemsApi) (s : PushState) (batch : List (String × ItemPayload)) : PushState :=
  if s.raised then s
  else
    match api.answer (batch.map Prod.snd) with
    | none => { s with failed := s.failed ++ batch.map fun sent => (sent.1, "Batch upsert failed") }
    | some items => items.foldl (saveXeroId batch) s

/-- `sync_all_local_stock_to_xero` over the waiting rows; the day's allowance covers so many batches, and
the run is aborted before the next. -/
def syncAllLocalStockToXero (api : ItemsApi) (settings : PushSettings) (allowance : ℕ)
    (stock : Table StockRow.id) (queue : List StockRow) : PushState :=
  let pass := firstPass upper settings stock queue
  if pass.raised then ⟨pass.stock, pass.failed, true⟩
  else
    let batches := batchesOf pass.queued pass.queued.length
    let s := (batches.take allowance).foldl (upsertBatch api) ⟨pass.stock, pass.failed, false⟩
    { s with raised := s.raised || allowance < batches.length }

end Push

/-! ## The waiting rows -/

/-- A row waits to be pushed. -/
def StockRow.pending (row : StockRow) : Bool := row.xeroId.isNone && row.isActive

/-- `stock_pending_sync`, up to a limit that is not zero: the pending rows in an order ascending by
date. -/
def StockPendingSync (stock : Table StockRow.id) (limit : Option ℕ) (queue : List StockRow) : Prop :=
  ∃ order, order.Perm (stock.rows.filter StockRow.pending) ∧
    order.Pairwise (fun row row' => row.date ≤ row'.date) ∧
    queue = if limit.getD 0 = 0 then order else order.take (limit.getD 0)

end Docketworks.Xero
