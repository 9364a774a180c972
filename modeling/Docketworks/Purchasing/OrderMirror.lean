import Docketworks.Library.Machine
import Docketworks.Purchasing.Models

/-!
# The order at the accounting system

What Xero is told about a purchase order, and when: `apps/purchasing/services/accounting_mirror.py`, the
order's writers (`purchase_order_service.py`, `delivery_receipt_service.py`, `allocation_service.py`), the
catch-up stage of `apps/xero/sync.py` and the push of `apps/xero/documents/po.py`.

* `isLocallyRaised`, `snapshot`, `sendStateChange` — which orders are pushed, and what is sent.
* `updatePurchaseOrder`, `processDeliveryReceipt`, `reverseAllocation` — the transactions, up to a call.
* `Session.answered` — Xero answers, and the transaction goes on.
* `orderMirror` — the transactions on one order, one after the other under its row lock, each committed or
  rolled back.
* `OrderSite.Safe` — what is promised.

**Representation.**  How an edit, a receipt or a reversal writes the lines is in the other modules of
purchasing: the lines it leaves are an input here, and a transaction that is refused before it changes the
status is no step.  A transaction holds the order's row from its start to its end, across its calls.
-/

namespace Docketworks.OrderMirror

open Library

/-! ## Orders -/

/-- The supplier of an order, as far as the push reads it. -/
structure Supplier where
  name : String
  xeroContactId : Option String
deriving DecidableEq

structure OrderLine where
  id : ℕ
  jobNumber : Option ℕ
  description : String
  quantity : ℚ
  receivedQuantity : ℚ
  unitCost : Option ℚ
  itemCode : Option String
  xeroLineItemId : Option String
deriving DecidableEq

/-- `xero_description`: the description under the job's number. -/
def OrderLine.xeroDescription (self : OrderLine) : String :=
  match self.jobNumber with
  | none => self.description
  | some jobNumber =>
      let jobPrefix := toString jobNumber ++ " - "
      if self.description.startsWith jobPrefix then self.description else jobPrefix ++ self.description

/-- A purchase order and its lines. -/
structure Order where
  poNumber : String
  supplier : Option Supplier
  lines : List OrderLine
  orderDate : ℕ
  expectedDelivery : Option ℕ
  reference : Option String
  status : PurchaseOrderStatus
  xeroId : Option String
  xeroPushDue : Bool
  updatedAt : ℕ
deriving DecidableEq

/-- What the instance is configured with: the prefix of its order numbers, and the account of purchases. -/
structure Books where
  poPrefix : String
  purchasesCode : Option String

/-- `is_locally_raised`: the prefix, then digits.  The pattern's end also matches before a last newline. -/
def isLocallyRaised (poPrefix poNumber : String) : Bool :=
  let rest := poNumber.toList.drop poPrefix.toList.length
  poPrefix.toList.isPrefixOf poNumber.toList && rest.takeWhile Char.isDigit ≠ [] &&
    (rest.dropWhile Char.isDigit = [] || rest.dropWhile Char.isDigit = ['\n'])

def Order.receivedStatus (self : Order) : PurchaseOrderStatus :=
  if ¬∃ line ∈ self.lines, 0 < line.receivedQuantity then
    if self.status = .deleted then .deleted else .submitted
  else if ∃ line ∈ self.lines, line.receivedQuantity < line.quantity then .partiallyReceived
  else .fullyReceived

/-- `recompute_purchase_order_status`: a status that moved is owed. -/
def recomputePurchaseOrderStatus (po : Order) : Order :=
  if po.receivedStatus ≠ po.status then
    { po with status := po.receivedStatus, xeroPushDue := true, updatedAt := po.updatedAt + 1 }
  else { po with updatedAt := po.updatedAt + 1 }

/-! ## The push -/

def poStatusMap : PurchaseOrderStatus → String
  | .draft => "DRAFT"
  | .submitted => "SUBMITTED"
  | .partiallyReceived => "AUTHORISED"
  | .fullyReceived => "AUTHORISED"
  | .deleted => "DELETED"

def zeroUuid : String := "00000000-0000-0000-0000-000000000000"

def Order.getXeroId (self : Order) : Option String := self.xeroId.filter fun id => id ≠ zeroUuid

/-- `state_valid_for_xero`: refuse to create a cancelled order in Xero; allow anything else. -/
def Order.stateValidForXero (self : Order) : Bool := self.getXeroId.isSome || self.status ≠ .deleted

structure DocumentLineItem where
  description : String
  quantity : ℚ
  unitAmount : ℚ
  itemCode : Option String
  accountCode : String
deriving DecidableEq

/-- The order as it is sent. -/
structure POPayload where
  supplierExternalId : String
  supplierName : String
  poNumber : String
  lineItems : List DocumentLineItem
  date : ℕ
  status : String
  deliveryDate : Option ℕ
  reference : Option String
  externalId : Option String
deriving DecidableEq

/-- One consistent local version, with the lines that were sent. -/
structure POPushSnapshot where
  version : ℕ
  payload : POPayload
  lines : List (ℕ × String)
deriving DecidableEq

/-- `can_sync_to_xero`, of the lines. -/
def Order.canSyncToXero (self : Order) : Bool :=
  !self.lines.isEmpty && self.lines.any fun line => line.description ≠ "" && line.unitCost.isSome

def Order.getLineItems (self : Order) (accountCode : String) : List DocumentLineItem :=
  self.lines.map fun line =>
    { description := line.xeroDescription
      quantity := line.quantity
      unitAmount := line.unitCost.getD 0
      itemCode := line.itemCode.filter fun code => code ≠ ""
      accountCode := accountCode }

def snapshot (books : Books) (po : Order) : Except String POPushSnapshot :=
  match po.supplier with
  | none => .error "Purchase order must have a supplier assigned"
  | some supplier =>
      match supplier.xeroContactId.filter fun id => id ≠ "" with
      | none => .error ("The supplier '%(supplier)s' isn't in Xero yet. Add them in Xero, or " ++
          "update from Xero if they are already there.")
      | some contactId =>
          if po.canSyncToXero then
            match books.purchasesCode with
            | none => .error "XeroAccount matching query does not exist."
            | some accountCode => .ok
                { version := po.updatedAt
                  payload :=
                    { supplierExternalId := contactId
                      supplierName := supplier.name
                      poNumber := po.poNumber
                      lineItems := po.getLineItems accountCode
                      date := po.orderDate
                      status := poStatusMap po.status
                      deliveryDate := po.expectedDelivery
                      reference := po.reference
                      externalId := po.getXeroId }
                  lines := po.lines.map fun line => (line.id, line.xeroDescription) }
          else .error ("This purchase order can't be sent to Xero yet: it needs a supplier, " ++
            "and every line needs a description and a cost.")

/-- `_update_line_item_ids_from_response`: one returned line, for the first line sent under its
description. -/
def updateLineItemId (lines : List OrderLine) (remaining : List (ℕ × String)) (returned : String × String) :
    List OrderLine × List (ℕ × String) :=
  match remaining.find? fun sent => returned.2 = sent.2 with
  | none => (lines, remaining)
  | some sent => (lines.map fun line =>
      if line.id = sent.1 then { line with xeroLineItemId := some returned.1 } else line, remaining.erase sent)

/-- `_save_po_with_xero_data`: the identity Xero answered with, and the lines of the version sent. -/
def Order.savedWithXeroData (self : Order) (snapshot : POPushSnapshot) (externalId : String)
    (returned : List (String × String)) : Order :=
  let po := if externalId ≠ zeroUuid then { self with xeroId := some externalId } else self
  if po.updatedAt ≠ snapshot.version then po
  else { po with
    lines := (returned.foldl (fun acc line => updateLineItemId acc.1 acc.2 line) (po.lines, snapshot.lines)).1 }

/-- How far a send goes without an answer. -/
inductive Sent where
  | settled (po : Order)
  | calls (snapshot : POPushSnapshot)

/-- `send_state_change` and `mirror_purchase_order`, up to the call: `row` is the locked row, `po` the
object it is called with. -/
def sendStateChange (books : Books) (row po : Order) : Except String Sent :=
  if row.xeroPushDue = false then .ok (.settled row)
  else if isLocallyRaised books.poPrefix po.poNumber = false then
    .ok (.settled { row with xeroPushDue := false })
  else if po.supplier.isNone then .error "A purchase order needs a supplier before it can reach Xero"
  else (snapshot books row).map .calls

/-! ## Transactions -/

/-- A transaction that holds the order's row. -/
structure Session where
  order : Order
  /-- The call under way, and the status an update began with, where it goes on after the call. -/
  calling : Option (POPushSnapshot × Option PurchaseOrderStatus)
  accepted : Bool
  deferred : Bool

namespace Session

/-- A transaction that has made no call. -/
def began (po : Order) : Session := ⟨po, none, false, false⟩

/-- The last send of a transaction. -/
def send (books : Books) (self : Session) (po : Order) : Except String Session :=
  (sendStateChange books self.order po).map fun
    | .settled order => { self with order := order, calling := none }
    | .calls snapshot => { self with calling := some (snapshot, none) }

/-- The end of `update_purchase_order`: any transition is sent. -/
def finishUpdate (books : Books) (self : Session) (statusBefore : PurchaseOrderStatus) :
    Except String Session :=
  if self.order.status ≠ statusBefore then
    let po := { self.order with xeroPushDue := true }
    { self with order := po }.send books po
  else .ok { self with calling := none }

/-- The send of the receipt within an update, and the rest of the update. -/
def sendThenFinish (books : Books) (self : Session) (statusBefore : PurchaseOrderStatus) :
    Except String Session :=
  match sendStateChange books self.order self.order with
  | .error message => .error message
  | .ok (.settled order) => { self with order := order }.finishUpdate books statusBefore
  | .ok (.calls snapshot) => .ok { self with calling := some (snapshot, some statusBefore) }

end Session

/-- An update's payload, and what it leaves of the lines. -/
structure OrderEdit where
  supplier : Option Supplier
  reference : Option (Option String)
  expectedDelivery : Option (Option ℕ)
  status : Option PurchaseOrderStatus
  linesGiven : Bool
  /-- The lines as they are after the deletions and the writes. -/
  lines : List OrderLine

/-- The order with its fields and lines written, and saved. -/
def Order.edited (self : Order) (data : OrderEdit) : Order :=
  { self with
    supplier := data.supplier.or self.supplier
    reference := data.reference.getD self.reference
    expectedDelivery := data.expectedDelivery.getD self.expectedDelivery
    status := data.status.getD self.status
    lines := data.lines
    updatedAt := self.updatedAt + 1 }

/-- A line waits for goods. -/
def OrderLine.outstanding (self : OrderLine) : Bool := self.receivedQuantity < self.quantity

/-- `receive_outstanding_order` is to receive something. -/
def OrderEdit.receives (self : OrderEdit) : Bool :=
  self.status = some .fullyReceived && self.lines.any OrderLine.outstanding

def Order.updated (self : Order) (data : OrderEdit) : Order :=
  let po := self.edited data
  if data.receives then
    recomputePurchaseOrderStatus { po with
      lines := po.lines.map fun line =>
        if line.outstanding then { line with receivedQuantity := line.quantity } else line }
  else if data.status ≠ some .fullyReceived ∧ data.linesGiven ∧ ∃ line ∈ po.lines, 0 < line.receivedQuantity then
    recomputePurchaseOrderStatus po
  else po

def updatePurchaseOrder (books : Books) (row : Order) (data : OrderEdit) : Except String Session :=
  let po := row.updated data
  if data.receives && po.xeroPushDue then (Session.began po).sendThenFinish books row.status
  else (Session.began po).finishUpdate books row.status

def processDeliveryReceipt (books : Books) (row : Order) (lines : List OrderLine) : Except String Session :=
  if row.status ∈ [.submitted, .partiallyReceived, .fullyReceived] then
    let po := recomputePurchaseOrderStatus { row with lines := lines }
    if po.xeroPushDue then (Session.began po).send books po else .ok (.began po)
  else .error "Cannot process delivery receipt for PO %(po_number)s with status '%(status)s'."

def reverseAllocation (row : Order) (lines : List OrderLine) : Session :=
  .began (recomputePurchaseOrderStatus { row with lines := lines })

/-! ## Xero's answers -/

/-- What becomes of a call. -/
inductive Answer where
  /-- Xero took the order, and answers with its id and its lines; storing the answer goes through or
  raises. -/
  | accepted (externalId : String) (lines : List (String × String)) (stored : Bool)
  /-- Xero took the order, and the answer was not understood. -/
  | unheard
  /-- A quota or an outage. -/
  | deferred
  | refused (message : String)

/-- Xero took the order. -/
def Answer.taken : Answer → Bool
  | .accepted _ _ _ => true
  | .unheard => true
  | .deferred => false
  | .refused _ => false

def Answer.raises : Answer → Bool
  | .accepted _ _ stored => !stored
  | .unheard => false
  | .deferred => false
  | .refused _ => true

namespace Session

/-- What follows a call. -/
def resume (books : Books) (self : Session) : Option PurchaseOrderStatus → Except String Session
  | none => .ok { self with calling := none }
  | some statusBefore => self.finishUpdate books statusBefore

/-- The call `snapshot` is answered. -/
def answered (books : Books) (self : Session) (snapshot : POPushSnapshot) (rest : Option PurchaseOrderStatus) :
    Answer → Except String Session
  | .accepted externalId lines stored =>
      if stored then
        { self with
          order := { self.order.savedWithXeroData snapshot externalId lines with xeroPushDue := false }
          accepted := true
          deferred := false }.resume books rest
      else .error "the answer could not be stored"
  | .unheard => { self with accepted := true, deferred := true }.resume books rest
  | .deferred => { self with deferred := true }.resume books rest
  | .refused message => .error message

end Session

/-! ## The system -/

/-- An order, here and at Xero. -/
structure OrderSite where
  order : Order
  session : Option Session
  /-- The requests about it that Xero has not answered. -/
  inFlight : List POPayload
  /-- The versions Xero accepted, the last one last. -/
  accepted : List POPayload
  changed : Bool
  /-- What the catch-up run has read of it and not yet sent. -/
  listed : List Order

def OrderSite.created (poNumber : String) (supplier : Option Supplier) (lines : List OrderLine)
    (orderDate : ℕ) (expectedDelivery : Option ℕ) (reference : Option String) : OrderSite where
  order := ⟨poNumber, supplier, lines, orderDate, expectedDelivery, reference, .draft, none, false, 0⟩
  session := none
  inFlight := []
  accepted := []
  changed := false
  listed := []

/-- A transaction begins: it takes the row, and its first request is under way. -/
def OrderSite.begins (self : OrderSite) (session : Except String Session) : Option OrderSite :=
  if self.session.isSome then none
  else session.toOption.map fun session => { self with
    session := some session
    inFlight := self.inFlight ++ (session.calling.map fun call => call.1.payload).toList }

/-- A call is answered: the transaction goes on, or raises and is rolled back. -/
def OrderSite.answers (books : Books) (self : OrderSite) (answer : Answer) : Option OrderSite :=
  self.session.bind fun session => session.calling.map fun call =>
    let session := (session.answered books call.1 call.2 answer).toOption
    { self with
      session := session
      inFlight := self.inFlight.erase call.1.payload ++
        ((session.bind Session.calling).map fun next => next.1.payload).toList
      accepted := if answer.taken then self.accepted ++ [call.1.payload] else self.accepted }

inductive OrderAct where
  | updates (data : OrderEdit)
  | receives (lines : List OrderLine)
  | reverses (lines : List OrderLine)
  /-- The catch-up run reads the owed orders. -/
  | catchUpReads
  /-- The catch-up run comes to this one. -/
  | catchUpSends
  | answers (answer : Answer)
  | commits
  | rollsBack

def orderMirror (books : Books) : Machine OrderSite OrderAct := fun s act =>
  match act with
  | .updates data => s.begins (updatePurchaseOrder books s.order data)
  | .receives lines => s.begins (processDeliveryReceipt books s.order lines)
  | .reverses lines => s.begins (.ok (reverseAllocation s.order lines))
  | .catchUpReads =>
      if s.order.xeroPushDue && isLocallyRaised books.poPrefix s.order.poNumber then
        some { s with listed := s.listed ++ [s.order] }
      else none
  | .catchUpSends =>
      match s.listed with
      | [] => none
      | po :: listed =>
          if s.session.isSome then none
          else
            -- what it raises is recorded, and the run goes on
            let s := { s with listed := listed }
            some ((s.begins ((Session.began s.order).send books po)).getD s)
  | .answers answer => s.answers books answer
  | .commits => s.session.bind fun session =>
      if session.calling.isSome then none
      else some { s with
        order := session.order
        session := none
        changed := s.changed || session.order.status ≠ s.order.status }
  | .rollsBack => s.session.bind fun session =>
      if session.calling.isSome then none else some { s with session := none }

/-! ## What is promised -/

/-- Xero's last accepted version has the status. -/
def AgreesOn (accepted : List POPayload) (status : PurchaseOrderStatus) : Prop :=
  accepted.getLast?.map POPayload.status = some (poStatusMap status)

instance (accepted : List POPayload) (status : PurchaseOrderStatus) : Decidable (AgreesOn accepted status) :=
  inferInstanceAs (Decidable (_ = _))

structure OrderSite.Safe (books : Books) (s : OrderSite) : Prop where
  /-- A committed order of ours whose status ever changed owes Xero, or agrees with it. -/
  owes : s.session = none → isLocallyRaised books.poPrefix s.order.poNumber → s.changed →
    s.order.xeroPushDue ∨ AgreesOn s.accepted s.order.status
  debt : ∀ session ∈ s.session, session.deferred → session.order.xeroPushDue
  apart : s.inFlight.length ≤ 1
  /-- Xero's first version of an order is not a deleted one. -/
  first : ∀ version ∈ s.accepted.head?, version.status ≠ poStatusMap .deleted

/-- A transaction in which Xero accepted a call is rolled back only where the order was owed a call before,
or has the status Xero was told; and an update leaves an order of ours, where it is fit to be sent, in a state
that is valid for Xero, or finds that it has reached Xero. -/
def Recoverable (books : Books) (s : OrderSite) : OrderAct → Prop
  | .updates data => isLocallyRaised books.poPrefix s.order.poNumber →
      (snapshot books (s.order.updated data)).isOk → (s.order.updated data).stateValidForXero ∨ s.accepted ≠ []
  | .answers answer => ∀ session ∈ s.session, answer.raises → session.accepted ∨ answer.taken →
      s.order.xeroPushDue ∨ poStatusMap session.order.status = poStatusMap s.order.status
  | .rollsBack => ∀ session ∈ s.session, session.accepted →
      s.order.xeroPushDue ∨ poStatusMap session.order.status = poStatusMap s.order.status
  | _ => True

instance (books : Books) (s : OrderSite) (act : OrderAct) : Decidable (Recoverable books s act) := by
  unfold Recoverable
  split <;> infer_instance

end Docketworks.OrderMirror
