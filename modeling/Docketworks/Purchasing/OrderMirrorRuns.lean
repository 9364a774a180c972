import Docketworks.Purchasing.OrderMirror

/-!
# A purchase order owes Xero or agrees with it

Every run of `Docketworks.Purchasing.OrderMirror`: edits, status changes, receipts, reversals and catch-up
runs, under every answer of Xero.

* `sendStateChange_cases` — what a send does to the row.
* `Settled`, `Reached` — what holds of a row, beside the versions Xero accepted.
* `Held` — what holds of a transaction under way; `Session.finishUpdate_held`, `Session.answered_held`.
* `Sound`, `Sound.step` — what holds between the steps.
* `order_owes_or_agrees` — what is promised holds in every run in which no transaction loses a call that
  Xero accepted, and no order of ours is deleted before it reached Xero.
* `deleted_order_is_created` — an order that never reached Xero is deleted, and created there.
-/

namespace Docketworks.OrderMirror

open Library

section Runs

variable {books : Books} {s s' : OrderSite} {po row : Order} {session : Session}
  {accepted : List POPayload} {changed : Bool}

/-! ## Sending -/

lemma sendStateChange_cases {sent : Sent} (h : sendStateChange books row po = .ok sent)
    (hnumber : po.poNumber = row.poNumber) :
    (row.xeroPushDue = false ∧ sent = .settled row) ∨
    (isLocallyRaised books.poPrefix row.poNumber = false ∧ sent = .settled { row with xeroPushDue := false }) ∨
    (row.xeroPushDue = true ∧ isLocallyRaised books.poPrefix row.poNumber = true ∧
      ∃ snap, snapshot books row = .ok snap ∧ sent = .calls snap) := by
  unfold sendStateChange at h
  rw [hnumber] at h
  split at h
  next hdue => exact .inl ⟨hdue, (Except.ok.inj h).symm⟩
  next hdue =>
    split at h
    next hforeign => exact .inr (.inl ⟨hforeign, (Except.ok.inj h).symm⟩)
    next hours =>
      split at h
      next => cases h
      next =>
        rcases hsnap : snapshot books row with message | snap
        · rw [hsnap] at h
          cases h
        · rw [hsnap] at h
          exact .inr (.inr ⟨Bool.of_not_eq_false hdue, Bool.of_not_eq_false hours, snap, rfl,
            (Except.ok.inj h).symm⟩)

lemma status_of_snapshot {snap : POPushSnapshot} (h : snapshot books po = .ok snap) :
    snap.payload.status = poStatusMap po.status := by
  unfold snapshot at h
  repeat' split at h
  all_goals cases h
  rfl

/-! ## A row beside Xero -/

/-- The row owes, or agrees. -/
def Settled (books : Books) (accepted : List POPayload) (changed : Bool) (po : Order) : Prop :=
  isLocallyRaised books.poPrefix po.poNumber → changed → po.xeroPushDue ∨ AgreesOn accepted po.status

/-- A row that is deleted, or has an id at Xero, has reached it. -/
structure Reached (books : Books) (accepted : List POPayload) (po : Order) : Prop where
  deleted : isLocallyRaised books.poPrefix po.poNumber → po.status = .deleted → accepted ≠ []
  identified : po.xeroId.isSome → accepted ≠ []

/-- What holds of a transaction, but for its debt. -/
structure Holding (books : Books) (accepted : List POPayload) (changed : Bool) (row : Order)
    (session : Session) : Prop where
  number : session.order.poNumber = row.poNumber
  /-- It may be rolled back before Xero accepted a call of it. -/
  undone : session.accepted = false → Settled books accepted changed row
  told : session.accepted → AgreesOn accepted session.order.status
  debt : session.deferred → isLocallyRaised books.poPrefix row.poNumber ∧ session.order.xeroPushDue
  identified : session.order.xeroId.isSome → accepted ≠ []

/-- What holds of a transaction between the steps. -/
structure Held (books : Books) (accepted : List POPayload) (changed : Bool) (row : Order)
    (session : Session) : Prop extends Holding books accepted changed row session where
  settled : Settled books accepted (changed || session.order.status ≠ row.status) session.order
  deleted : isLocallyRaised books.poPrefix row.poNumber → session.order.status = .deleted → accepted ≠ []
  calling : ∀ call ∈ session.calling, isLocallyRaised books.poPrefix row.poNumber ∧
    session.order.xeroPushDue ∧ snapshot books session.order = .ok call.1 ∧ ∀ before ∈ call.2, before = row.status

/-! ## Transactions -/

lemma Settled.unmoved {before : PurchaseOrderStatus} (h : Settled books accepted changed po)
    (hstatus : po.status = before) : Settled books accepted (changed || decide (po.status ≠ before)) po := by
  rw [decide_eq_false (not_not.mpr hstatus), Bool.or_false]
  exact h

lemma settled_of_due (h : po.xeroPushDue = true) : Settled books accepted changed po := fun _ _ => .inl h

lemma settled_of_foreign (h : isLocallyRaised books.poPrefix po.poNumber = false) :
    Settled books accepted changed po := fun hours => absurd hours (by rw [h]; exact Bool.false_ne_true)

/-- **The last send** of a transaction. -/
lemma Holding.send (h : Holding books accepted changed row session) {next : Session}
    (hsettled : Settled books accepted (changed || session.order.status ≠ row.status) session.order)
    (hdeleted : isLocallyRaised books.poPrefix row.poNumber → session.order.status = .deleted →
      session.order.xeroPushDue = false ∨ (snapshot books session.order).isOk → accepted ≠ [])
    (hnumber : po.poNumber = session.order.poNumber) (hsend : session.send books po = .ok next) :
    Held books accepted changed row next := by
  unfold Session.send at hsend
  rcases hsent : sendStateChange books session.order po with message | sent
  · rw [hsent] at hsend
    cases hsend
  rw [hsent] at hsend
  obtain rfl := Except.ok.inj hsend
  rcases sendStateChange_cases hsent hnumber with ⟨hdue, rfl⟩ | ⟨hforeign, rfl⟩ | ⟨hdue, hours, snap, hsnap, rfl⟩
  · exact ⟨⟨h.number, h.undone, h.told, h.debt, h.identified⟩, hsettled,
      fun hours hstatus => hdeleted hours hstatus (.inl hdue), fun call hcall => nomatch hcall⟩
  · have hrow : isLocallyRaised books.poPrefix row.poNumber = false := h.number ▸ hforeign
    refine ⟨⟨h.number, h.undone, h.told, fun hdeferred => ?_, h.identified⟩, settled_of_foreign hforeign,
      fun hours => ?_, fun call hcall => nomatch hcall⟩
    · exact absurd (h.debt hdeferred).1 (by rw [hrow]; exact Bool.false_ne_true)
    · exact absurd hours (by rw [hrow]; exact Bool.false_ne_true)
  · refine ⟨⟨h.number, h.undone, h.told, h.debt, h.identified⟩, settled_of_due hdue, fun hraised hstatus => ?_,
      fun call hcall => ?_⟩
    · exact hdeleted hraised hstatus (.inr (by rw [hsnap]; rfl))
    · obtain rfl := Option.some.inj hcall
      exact ⟨h.number ▸ hours, hdue, hsnap, fun before hbefore => nomatch hbefore⟩

lemma Holding.finishUpdate (h : Holding books accepted changed row session) {next : Session}
    (hsame : session.order.status = row.status → Settled books accepted changed session.order)
    (hdeleted : isLocallyRaised books.poPrefix row.poNumber → session.order.status = .deleted →
      session.order.status = row.status ∨ (snapshot books session.order).isOk → accepted ≠ [])
    (hfinish : session.finishUpdate books row.status = .ok next) : Held books accepted changed row next := by
  unfold Session.finishUpdate at hfinish
  split at hfinish
  next hmoved =>
    have hholding : Holding books accepted changed row
        { session with order := { session.order with xeroPushDue := true } } :=
      ⟨h.number, h.undone, h.told, fun hdeferred => ⟨(h.debt hdeferred).1, rfl⟩, h.identified⟩
    refine hholding.send (settled_of_due rfl) (fun hours hstatus hsent => ?_) rfl hfinish
    refine hdeleted hours hstatus (.inr ?_)
    rcases hsent with hdue | hsnap
    · cases hdue
    · exact hsnap
  next hmoved =>
    obtain rfl := Except.ok.inj hfinish
    have hstatus : session.order.status = row.status := not_not.mp hmoved
    exact ⟨⟨h.number, h.undone, h.told, h.debt, h.identified⟩, (hsame hstatus).unmoved hstatus,
      fun hours hdel => hdeleted hours hdel (.inl hstatus), fun call hcall => nomatch hcall⟩

/-- **The receipt within an update** is sent, and the update goes on. -/
lemma Holding.sendThenFinish (h : Holding books accepted changed row session) {next : Session}
    (hdue : session.order.xeroPushDue = true)
    (hdeleted : isLocallyRaised books.poPrefix row.poNumber → session.order.status = .deleted →
      session.order.status = row.status ∨ (snapshot books session.order).isOk → accepted ≠ [])
    (hsend : session.sendThenFinish books row.status = .ok next) : Held books accepted changed row next := by
  unfold Session.sendThenFinish at hsend
  rcases hsent : sendStateChange books session.order session.order with message | sent
  · rw [hsent] at hsend
    cases hsend
  rw [hsent] at hsend
  rcases sendStateChange_cases hsent rfl with ⟨hpaid, -⟩ | ⟨hforeign, rfl⟩ | ⟨-, hours, snap, hsnap, rfl⟩
  · rw [hdue] at hpaid
    cases hpaid
  · have hrow : isLocallyRaised books.poPrefix row.poNumber = false := h.number ▸ hforeign
    have hholding : Holding books accepted changed row
        { session with order := { session.order with xeroPushDue := false } } := by
      refine ⟨h.number, h.undone, h.told, fun hdeferred => ?_, h.identified⟩
      exact absurd (h.debt hdeferred).1 (by rw [hrow]; exact Bool.false_ne_true)
    refine hholding.finishUpdate (fun _ => settled_of_foreign hforeign) (fun hours => ?_) hsend
    exact absurd hours (by rw [hrow]; exact Bool.false_ne_true)
  · obtain rfl := Except.ok.inj hsend
    refine ⟨⟨h.number, h.undone, h.told, h.debt, h.identified⟩, settled_of_due hdue, fun hraised hstatus => ?_,
      fun call hcall => ?_⟩
    · exact hdeleted hraised hstatus (.inr (by rw [hsnap]; rfl))
    · obtain rfl := Option.some.inj hcall
      exact ⟨h.number ▸ hours, hdue, hsnap, fun before hbefore => (Option.some.inj hbefore).symm⟩

/-! ## The writers -/

lemma deleted_of_receivedStatus (h : po.receivedStatus = .deleted) : po.status = .deleted := by
  unfold Order.receivedStatus at h
  split at h
  · split at h
    · assumption
    · cases h
  · split at h <;> cases h

lemma recompute_fields (po : Order) : (recomputePurchaseOrderStatus po).poNumber = po.poNumber ∧
    (recomputePurchaseOrderStatus po).xeroId = po.xeroId ∧
    ((recomputePurchaseOrderStatus po).xeroPushDue = true ∨
      ((recomputePurchaseOrderStatus po).status = po.status ∧
        (recomputePurchaseOrderStatus po).xeroPushDue = po.xeroPushDue)) ∧
    ((recomputePurchaseOrderStatus po).status = .deleted → po.status = .deleted) := by
  unfold recomputePurchaseOrderStatus
  split
  next => exact ⟨rfl, rfl, .inl rfl, deleted_of_receivedStatus⟩
  next => exact ⟨rfl, rfl, .inr ⟨rfl, rfl⟩, id⟩

lemma updated_fields (row : Order) (data : OrderEdit) : (row.updated data).poNumber = row.poNumber ∧
    (row.updated data).xeroId = row.xeroId ∧
    ((row.updated data).xeroPushDue = true ∨ (row.updated data).xeroPushDue = row.xeroPushDue) := by
  unfold Order.updated
  dsimp only
  split
  · obtain ⟨hnumber, hid, hdue, -⟩ := recompute_fields { row.edited data with
      lines := (row.edited data).lines.map fun line =>
        if line.outstanding then { line with receivedQuantity := line.quantity } else line }
    exact ⟨hnumber, hid, hdue.imp_right And.right⟩
  · split
    · obtain ⟨hnumber, hid, hdue, -⟩ := recompute_fields (row.edited data)
      exact ⟨hnumber, hid, hdue.imp_right And.right⟩
    · exact ⟨rfl, rfl, .inr rfl⟩

/-- The row a transaction begins from. -/
structure Row (books : Books) (accepted : List POPayload) (changed : Bool) (row : Order) : Prop where
  settled : Settled books accepted changed row
  reached : Reached books accepted row

lemma Row.holding (h : Row books accepted changed row) (hnumber : po.poNumber = row.poNumber)
    (hid : po.xeroId = row.xeroId) : Holding books accepted changed row (.began po) :=
  ⟨hnumber, fun _ => h.settled, fun haccepted => (nomatch haccepted), fun hdeferred => (nomatch hdeferred),
    fun hsome => h.reached.identified (hid ▸ hsome)⟩

lemma Row.settled_of_same (h : Row books accepted changed row) (hnumber : po.poNumber = row.poNumber)
    (hstatus : po.status = row.status) (hdue : po.xeroPushDue = true ∨ po.xeroPushDue = row.xeroPushDue) :
    Settled books accepted changed po := by
  rcases hdue with hdue | hdue
  · exact settled_of_due hdue
  · intro hours hchanged
    rw [hdue, hstatus]
    exact h.settled (hnumber ▸ hours) hchanged

/-- **An update**, where it leaves a state that is valid for Xero, or the order has reached it. -/
lemma Row.updatePurchaseOrder (h : Row books accepted changed row) {data : OrderEdit} {next : Session}
    (hvalid : isLocallyRaised books.poPrefix row.poNumber → (snapshot books (row.updated data)).isOk →
      (row.updated data).stateValidForXero ∨ accepted ≠ [])
    (hupdate : updatePurchaseOrder books row data = .ok next) : Held books accepted changed row next := by
  obtain ⟨hnumber, hid, hdue⟩ := updated_fields row data
  have hholding := h.holding hnumber hid
  have hdeleted : isLocallyRaised books.poPrefix row.poNumber → (row.updated data).status = .deleted →
      (row.updated data).status = row.status ∨ (snapshot books (row.updated data)).isOk → accepted ≠ [] := by
    intro hours hstatus hsent
    rcases hsent with hsame | hsnap
    · exact h.reached.deleted hours (hsame ▸ hstatus)
    rcases hvalid hours hsnap with hstate | hreached
    · refine hholding.identified ?_
      unfold Order.stateValidForXero at hstate
      rw [hstatus] at hstate
      have hxero : ((row.updated data).xeroId.filter fun id => id ≠ zeroUuid).isSome := by
        simpa [Order.getXeroId] using hstate
      exact Option.isSome_of_isSome_filter _ _ hxero
    · exact hreached
  unfold OrderMirror.updatePurchaseOrder at hupdate
  dsimp only at hupdate
  split at hupdate
  next hsends =>
    exact hholding.sendThenFinish (Bool.and_eq_true_iff.mp hsends).2 hdeleted hupdate
  next =>
    exact hholding.finishUpdate (fun hsame => h.settled_of_same hnumber hsame hdue) hdeleted hupdate

lemma Row.recompute (h : Row books accepted changed row) (lines : List OrderLine) :
    Held books accepted changed row (.began (recomputePurchaseOrderStatus { row with lines := lines })) := by
  obtain ⟨hnumber, hid, hdue, hdeleted⟩ := recompute_fields { row with lines := lines }
  refine ⟨h.holding hnumber hid, ?_, fun hours hstatus => h.reached.deleted hours (hdeleted hstatus),
    fun call hcall => nomatch hcall⟩
  rcases hdue with hdue | ⟨hsame, hdue⟩
  · exact settled_of_due hdue
  · exact (h.settled_of_same hnumber hsame (.inr hdue)).unmoved hsame

lemma Row.processDeliveryReceipt (h : Row books accepted changed row) {lines : List OrderLine} {next : Session}
    (hreceive : processDeliveryReceipt books row lines = .ok next) : Held books accepted changed row next := by
  have hheld := h.recompute lines
  unfold OrderMirror.processDeliveryReceipt at hreceive
  dsimp only at hreceive
  split at hreceive
  · split at hreceive
    · exact hheld.toHolding.send hheld.settled (fun hours hstatus _ => hheld.deleted hours hstatus) rfl hreceive
    · exact Except.ok.inj hreceive ▸ hheld
  · cases hreceive

/-- **The catch-up run** sends the row as it is. -/
lemma Row.catchUp (h : Row books accepted changed row) (hnumber : po.poNumber = row.poNumber) {next : Session}
    (hsend : (Session.began row).send books po = .ok next) : Held books accepted changed row next := by
  exact (h.holding rfl rfl).send (h.settled.unmoved rfl)
    (fun hours hstatus _ => h.reached.deleted hours hstatus) hnumber hsend

/-! ## Answers -/

lemma snapshot_isOk {other : Order} (hsupplier : other.supplier = po.supplier)
    (hlines : other.canSyncToXero = po.canSyncToXero) (h : (snapshot books po).isOk) :
    (snapshot books other).isOk := by
  unfold snapshot at h ⊢
  rw [hsupplier, hlines]
  repeat' split at h
  all_goals try cases h
  rw [if_pos ‹po.canSyncToXero = true›]
  rfl

lemma canSync_updateLineItemId (lines : List OrderLine) (remaining : List (ℕ × String))
    (returned : String × String) : { po with
      lines := (updateLineItemId lines remaining returned).1 }.canSyncToXero =
        { po with lines := lines }.canSyncToXero := by
  unfold updateLineItemId
  split
  next => rfl
  next sent _ =>
    have htest : (fun line : OrderLine => decide (line.description ≠ "") && line.unitCost.isSome) ∘
        (fun line => if line.id = sent.1 then { line with xeroLineItemId := some returned.1 } else line) =
          fun line => decide (line.description ≠ "") && line.unitCost.isSome := by
      funext line
      dsimp only [Function.comp]
      split <;> rfl
    unfold Order.canSyncToXero
    dsimp only
    rw [List.isEmpty_map, List.any_map, htest]

lemma canSync_updateLineItemIds (returned : List (String × String)) (lines : List OrderLine)
    (remaining : List (ℕ × String)) : { po with
      lines := (returned.foldl (fun acc line => updateLineItemId acc.1 acc.2 line) (lines, remaining)).1
    }.canSyncToXero = { po with lines := lines }.canSyncToXero := by
  induction returned generalizing lines remaining with
  | nil => rfl
  | cons line returned ih => exact (ih _ _).trans (canSync_updateLineItemId lines remaining line)

lemma savedWithXeroData_fields (po : Order) (snap : POPushSnapshot) (externalId : String)
    (returned : List (String × String)) :
    (po.savedWithXeroData snap externalId returned).poNumber = po.poNumber ∧
      (po.savedWithXeroData snap externalId returned).status = po.status ∧
      (po.savedWithXeroData snap externalId returned).supplier = po.supplier ∧
      (po.savedWithXeroData snap externalId returned).canSyncToXero = po.canSyncToXero := by
  unfold Order.savedWithXeroData
  dsimp only
  split
  · split
    · exact ⟨rfl, rfl, rfl, rfl⟩
    · exact ⟨rfl, rfl, rfl, canSync_updateLineItemIds returned po.lines snap.lines⟩
  · split
    · exact ⟨rfl, rfl, rfl, rfl⟩
    · exact ⟨rfl, rfl, rfl, canSync_updateLineItemIds returned po.lines snap.lines⟩

lemma finishUpdate_isOk (h : isLocallyRaised books.poPrefix session.order.poNumber)
    (hsnap : (snapshot books session.order).isOk) (statusBefore : PurchaseOrderStatus) :
    (session.finishUpdate books statusBefore).isOk := by
  unfold Session.finishUpdate
  split
  · have hsupplier : session.order.supplier.isNone = false := by
      rcases hnone : session.order.supplier with _ | supplier
      · unfold snapshot at hsnap
        rw [hnone] at hsnap
        cases hsnap
      · rfl
    have hready : (snapshot books { session.order with xeroPushDue := true }).isOk :=
      snapshot_isOk rfl rfl hsnap
    unfold Session.send sendStateChange
    dsimp only
    rw [if_neg (by decide), if_neg (by rw [h]; decide), hsupplier, if_neg (by decide)]
    rcases hsend : snapshot books { session.order with xeroPushDue := true } with message | snap
    · rw [hsend] at hready
      cases hready
    · rfl
  · rfl

lemma agreesOn_append (accepted : List POPayload) {snap : POPushSnapshot} (h : snapshot books po = .ok snap) :
    AgreesOn (accepted ++ [snap.payload]) po.status := by
  unfold AgreesOn
  rw [List.getLast?_concat, Option.map_some, status_of_snapshot h]

/-- What Xero has accepted once the call is answered. -/
def after (accepted : List POPayload) (snap : POPushSnapshot) (answer : Answer) : List POPayload :=
  if answer.taken then accepted ++ [snap.payload] else accepted

/-- **A call is answered**, and the transaction goes on. -/
lemma Held.answered (h : Held books accepted changed row session) {snap : POPushSnapshot}
    {rest : Option PurchaseOrderStatus} {answer : Answer} {next : Session}
    (hcalling : session.calling = some (snap, rest))
    (hanswered : session.answered books snap rest answer = .ok next) :
    Held books (after accepted snap answer) changed row next := by
  obtain ⟨hours, hdue, hsnap, hrest⟩ := h.calling _ hcalling
  have hagrees := agreesOn_append accepted hsnap
  have hne : accepted ++ [snap.payload] ≠ [] := List.append_ne_nil_of_right_ne_nil _ (List.cons_ne_nil _ _)
  -- what goes on, from the row as the answer leaves it
  have hresume : ∀ (held : Session), Holding books (after accepted snap answer) changed row held →
      Settled books (after accepted snap answer) (changed || held.order.status ≠ row.status) held.order →
      Settled books (after accepted snap answer) changed held.order →
      (held.order.status = .deleted → after accepted snap answer ≠ []) →
      held.resume books rest = .ok next → Held books (after accepted snap answer) changed row next := by
    intro held hholding hsettled hsame hdeleted hresume
    rcases rest with _ | before
    · obtain rfl := Except.ok.inj hresume
      exact ⟨⟨hholding.number, hholding.undone, hholding.told, hholding.debt, hholding.identified⟩, hsettled,
        fun _ => hdeleted, fun call hcall => nomatch hcall⟩
    · obtain rfl := hrest before rfl
      exact hholding.finishUpdate (fun _ => hsame) (fun _ hstatus _ => hdeleted hstatus) hresume
  cases answer with
  | accepted externalId lines stored =>
      cases stored with
      | false => cases hanswered
      | true =>
          obtain ⟨hnumber, hstatus, -, -⟩ := savedWithXeroData_fields session.order snap externalId lines
          have htold : AgreesOn (accepted ++ [snap.payload])
              (session.order.savedWithXeroData snap externalId lines).status := hstatus ▸ hagrees
          let po := { session.order.savedWithXeroData snap externalId lines with xeroPushDue := false }
          refine hresume { session with order := po, accepted := true, deferred := false } ?_
            (fun _ _ => .inr htold) (fun _ _ => .inr htold) (fun _ => hne) hanswered
          exact ⟨hnumber.trans h.number, fun hfresh => (nomatch hfresh), fun _ => htold,
            fun hdeferred => (nomatch hdeferred), fun _ => hne⟩
  | unheard =>
      refine hresume { session with accepted := true, deferred := true } ?_ (settled_of_due hdue)
        (settled_of_due hdue) (fun _ => hne) hanswered
      exact ⟨h.number, fun hfresh => (nomatch hfresh), fun _ => hagrees, fun _ => ⟨hours, hdue⟩, fun _ => hne⟩
  | deferred =>
      refine hresume { session with deferred := true } ?_ (settled_of_due hdue) (settled_of_due hdue)
        (h.deleted ?_) hanswered
      · exact ⟨h.number, h.undone, h.told, fun _ => ⟨h.number ▸ hours, hdue⟩, h.identified⟩
      · exact h.number ▸ hours
  | refused message => cases hanswered

lemma Held.raises (h : Held books accepted changed row session) {snap : POPushSnapshot}
    {rest : Option PurchaseOrderStatus} {answer : Answer} {message : String}
    (hcalling : session.calling = some (snap, rest))
    (hanswered : session.answered books snap rest answer = .error message) : answer.raises := by
  obtain ⟨hours, -, hsnap, -⟩ := h.calling _ hcalling
  have hready : (snapshot books session.order).isOk := by
    rw [hsnap]
    rfl
  have hours : isLocallyRaised books.poPrefix session.order.poNumber := h.number ▸ hours
  have hresume : ∀ held : Session, isLocallyRaised books.poPrefix held.order.poNumber →
      (snapshot books held.order).isOk → (held.resume books rest).isOk := by
    intro held hours hready
    rcases rest with _ | before
    · rfl
    · exact finishUpdate_isOk hours hready before
  have hfails : ∀ held : Session, isLocallyRaised books.poPrefix held.order.poNumber →
      (snapshot books held.order).isOk → held.resume books rest ≠ .error message := by
    intro held hours hready herror
    have hok := hresume held hours hready
    rw [herror] at hok
    cases hok
  cases answer with
  | accepted externalId lines stored =>
      cases stored with
      | false => rfl
      | true =>
          obtain ⟨hnumber, -, hsupplier, hlines⟩ := savedWithXeroData_fields session.order snap externalId lines
          let po := { session.order.savedWithXeroData snap externalId lines with xeroPushDue := false }
          refine absurd hanswered (hfails { session with order := po, accepted := true, deferred := false } ?_ ?_)
          · exact hnumber ▸ hours
          · exact snapshot_isOk hsupplier hlines hready
  | unheard => exact absurd hanswered (hfails { session with accepted := true, deferred := true } hours hready)
  | deferred => exact absurd hanswered (hfails { session with deferred := true } hours hready)
  | refused message => rfl

/-! ## What holds between the steps -/

/-- What holds between the steps. -/
structure Sound (books : Books) (s : OrderSite) : Prop where
  settled : s.session = none → Settled books s.accepted s.changed s.order
  reached : Reached books s.accepted s.order
  held : ∀ session ∈ s.session, Held books s.accepted s.changed s.order session
  flight : s.inFlight = ((s.session.bind Session.calling).map fun call => call.1.payload).toList
  first : ∀ version ∈ s.accepted.head?, version.status ≠ poStatusMap .deleted
  listed : ∀ po ∈ s.listed, po.poNumber = s.order.poNumber

lemma Sound.safe (h : Sound books s) : s.Safe books := by
  refine ⟨fun hnone hours hchanged => h.settled hnone hours hchanged, fun session hsession hdeferred => ?_, ?_,
    h.first⟩
  · exact ((h.held session hsession).debt hdeferred).2
  · rw [h.flight]
    cases (s.session.bind Session.calling).map fun call => call.1.payload with
    | none => exact Nat.zero_le 1
    | some payload => exact Nat.le_refl 1

/-- **A transaction begins** where none holds the row. -/
lemma Sound.begins (h : Sound books s) {began : Except String Session}
    (hheld : s.session = none → ∀ session, began = .ok session →
      Held books s.accepted s.changed s.order session)
    (hbegins : s.begins began = some s') : Sound books s' := by
  unfold OrderSite.begins at hbegins
  split at hbegins
  · cases hbegins
  next hfree =>
    have hnone : s.session = none := Option.not_isSome_iff_eq_none.mp hfree
    rcases began with message | session
    · cases hbegins
    · obtain rfl := Option.some.inj hbegins
      have hflight : s.inFlight = [] := by
        rw [h.flight, hnone]
        rfl
      refine ⟨fun hopen => (nomatch hopen), h.reached, fun other hother => ?_, ?_, h.first, h.listed⟩
      · obtain rfl := Option.some.inj hother
        exact hheld hnone session rfl
      · show s.inFlight ++ _ = _
        rw [hflight]
        rfl

lemma Sound.locked (h : Sound books s) (hnone : s.session = none) : Row books s.accepted s.changed s.order :=
  ⟨h.settled hnone, h.reached⟩

lemma first_after (h : Held books accepted changed row session) {snap : POPushSnapshot}
    {rest : Option PurchaseOrderStatus} (answer : Answer) (hcalling : session.calling = some (snap, rest))
    (hfirst : ∀ version ∈ accepted.head?, version.status ≠ poStatusMap .deleted) :
    ∀ version ∈ (after accepted snap answer).head?, version.status ≠ poStatusMap .deleted := by
  obtain ⟨hours, -, hsnap, -⟩ := h.calling _ hcalling
  unfold after
  split
  · rcases accepted with _ | ⟨version, accepted⟩
    · intro version hversion
      obtain rfl := Option.some.inj hversion
      rw [status_of_snapshot hsnap]
      intro hdeleted
      refine h.deleted hours ?_ rfl
      revert hdeleted
      cases session.order.status <;> decide
    · exact hfirst
  · exact hfirst

/-- **A transaction is undone**: a version that Xero accepted in it is the row's, or the row is owed. -/
lemma Held.undo (h : Held books accepted changed row session) (taken : List POPayload)
    (htaken : AgreesOn taken session.order.status ∨ taken = accepted)
    (hsafe : session.accepted ∨ taken ≠ accepted →
      row.xeroPushDue ∨ poStatusMap session.order.status = poStatusMap row.status) :
    Settled books taken changed row := by
  intro hours hchanged
  by_cases hundone : session.accepted ∨ taken ≠ accepted
  · rcases hsafe hundone with hdue | hsame
    · exact .inl hdue
    · refine .inr ?_
      have hagrees : AgreesOn taken session.order.status := by
        rcases htaken with htaken | rfl
        · exact htaken
        · exact h.told (hundone.resolve_right fun hne => hne rfl)
      unfold AgreesOn at hagrees ⊢
      rw [hagrees, hsame]
  · obtain ⟨hfresh, htaken⟩ := not_or.mp hundone
    rw [not_not.mp htaken]
    exact h.undone (Bool.eq_false_of_not_eq_true hfresh) hours hchanged

lemma Reached.after (h : Reached books accepted po) (snap : POPushSnapshot) (answer : Answer) :
    Reached books (after accepted snap answer) po := by
  have hne : accepted ≠ [] → OrderMirror.after accepted snap answer ≠ [] := by
    intro hne
    unfold OrderMirror.after
    split
    · exact List.append_ne_nil_of_left_ne_nil hne _
    · exact hne
  exact ⟨fun hours hdeleted => hne (h.deleted hours hdeleted), fun hid => hne (h.identified hid)⟩

lemma Sound.answers (h : Sound books s) {answer : Answer}
    (hsafe : Recoverable books s (.answers answer)) (hanswers : s.answers books answer = some s') :
    Sound books s' := by
  obtain ⟨session, hsession, hanswers⟩ := Option.bind_eq_some_iff.mp hanswers
  obtain ⟨⟨snap, rest⟩, hcalling, rfl⟩ := Option.map_eq_some_iff.mp hanswers
  have hheld := h.held session hsession
  have hflight : s.inFlight.erase snap.payload = [] := by
    rw [h.flight, hsession, Option.bind_some, hcalling]
    exact List.erase_cons_head _ []
  have hagrees : AgreesOn (after s.accepted snap answer) session.order.status ∨
      after s.accepted snap answer = s.accepted := by
    unfold after
    split
    · exact .inl (agreesOn_append _ (hheld.calling _ hcalling).2.2.1)
    · exact .inr rfl
  have hreached := h.reached.after snap answer
  have hfirst := first_after hheld answer hcalling h.first
  rcases hnext : session.answered books snap rest answer with message | next
  · -- the answer is raised, and the transaction is undone
    have hraises := hheld.raises hcalling hnext
    refine ⟨fun _ => hheld.undo _ hagrees fun hlost => ?_, hreached, fun _ hother => (nomatch hother), ?_, hfirst,
      h.listed⟩
    · refine hsafe session hsession hraises (hlost.imp_right fun hne => ?_)
      by_contra htaken
      exact hne (if_neg htaken)
    · show s.inFlight.erase snap.payload ++ [] = []
      rw [hflight]
      rfl
  · refine ⟨fun hnone => (nomatch hnone), hreached, fun other hother => ?_, ?_, hfirst, h.listed⟩
    · obtain rfl := Option.some.inj hother
      exact hheld.answered hcalling hnext
    · show s.inFlight.erase snap.payload ++ _ = _
      rw [hflight]
      rfl

/-- **A step** keeps what holds, where it loses nothing Xero accepted. -/
lemma Sound.step (s : OrderSite) (act : OrderAct) (s' : OrderSite) (h : Sound books s)
    (hsafe : Recoverable books s act) (hstep : orderMirror books s act = some s') : Sound books s' := by
  cases act with
  | updates data =>
      exact h.begins (fun hnone _ hbegan => (h.locked hnone).updatePurchaseOrder hsafe hbegan) hstep
  | receives lines => exact h.begins (fun hnone _ hbegan => (h.locked hnone).processDeliveryReceipt hbegan) hstep
  | reverses lines =>
      refine h.begins (fun hnone session hbegan => ?_) hstep
      exact Except.ok.inj hbegan ▸ (h.locked hnone).recompute lines
  | catchUpReads =>
      unfold orderMirror at hstep
      dsimp only at hstep
      split at hstep
      · obtain rfl := Option.some.inj hstep
        refine ⟨h.settled, h.reached, h.held, h.flight, h.first, fun po hpo => ?_⟩
        rcases List.mem_append.mp hpo with hpo | hpo
        · exact h.listed po hpo
        · rw [List.mem_singleton.mp hpo]
      · cases hstep
  | catchUpSends =>
      unfold orderMirror at hstep
      dsimp only at hstep
      rcases hlisted : s.listed with _ | ⟨po, listed⟩
      · rw [hlisted] at hstep
        cases hstep
      rw [hlisted] at hstep
      have hmem : po ∈ s.listed := by
        rw [hlisted]
        exact List.mem_cons_self
      have hsound : Sound books { s with listed := listed } := by
        refine ⟨h.settled, h.reached, h.held, h.flight, h.first, fun other hother => h.listed other ?_⟩
        rw [hlisted]
        exact List.mem_cons_of_mem po hother
      dsimp only at hstep
      split at hstep
      · cases hstep
      · obtain rfl := Option.some.inj hstep
        rcases hbegins : { s with listed := listed }.begins ((Session.began s.order).send books po) with _ | next
        · rw [hbegins]
          exact hsound
        · rw [hbegins]
          exact hsound.begins (fun hnone _ hsend => (h.locked hnone).catchUp (h.listed po hmem) hsend) hbegins
  | answers answer => exact h.answers hsafe hstep
  | commits =>
      obtain ⟨session, hsession, hstep⟩ := Option.bind_eq_some_iff.mp hstep
      split at hstep
      · cases hstep
      next hdone =>
        obtain rfl := Option.some.inj hstep
        have hheld := h.held session hsession
        have hflight := h.flight
        rw [hsession, Option.bind_some, Option.not_isSome_iff_eq_none.mp hdone] at hflight
        exact ⟨fun _ => hheld.settled, ⟨fun hours => hheld.deleted (hheld.number ▸ hours), hheld.identified⟩,
          fun _ hother => (nomatch hother), hflight, h.first,
          fun po hpo => (h.listed po hpo).trans hheld.number.symm⟩
  | rollsBack =>
      obtain ⟨session, hsession, hstep⟩ := Option.bind_eq_some_iff.mp hstep
      split at hstep
      · cases hstep
      next hdone =>
        obtain rfl := Option.some.inj hstep
        have hheld := h.held session hsession
        have hflight := h.flight
        rw [hsession, Option.bind_some, Option.not_isSome_iff_eq_none.mp hdone] at hflight
        refine ⟨fun _ => hheld.undo _ (.inr rfl) fun hlost => ?_, h.reached, fun _ hother => (nomatch hother),
          hflight, h.first, h.listed⟩
        exact hsafe session hsession (hlost.resolve_right fun hne => hne rfl)

end Runs

/-- **A purchase order owes Xero or agrees with it**, in every run in which a transaction that Xero accepted
a call of is undone only where the order was owed or has that status, and an update leaves an order of ours in
a state that is valid for Xero or finds it there: a committed order of ours whose status ever changed owes a
call, or Xero's last version has its status; a deferred call leaves the debt; two pushes of it never cross; and
it is never created deleted. -/
theorem order_owes_or_agrees (books : Books) (poNumber : String) (supplier : Option Supplier)
    (lines : List OrderLine) (orderDate : ℕ) (expectedDelivery : Option ℕ) (reference : Option String)
    (acts : List OrderAct) (s : OrderSite)
    (hmeet : (orderMirror books).AllMeet (Recoverable books)
      (.created poNumber supplier lines orderDate expectedDelivery reference) acts)
    (hrun : (orderMirror books).run
      (.created poNumber supplier lines orderDate expectedDelivery reference) acts = some s) :
    s.Safe books := by
  have hcreated : Sound books (.created poNumber supplier lines orderDate expectedDelivery reference) :=
    ⟨fun _ _ hchanged => (nomatch hchanged), ⟨fun _ hdeleted => (nomatch hdeleted), fun hid => (nomatch hid)⟩,
      fun _ hother => (nomatch hother), rfl, fun _ hversion => (nomatch hversion),
      fun _ hpo => absurd hpo List.not_mem_nil⟩
  exact (Machine.run_keeps_of_meet Sound.step hcreated hmeet hrun).safe

private def steelSupplier : Supplier := ⟨"Steel", some "c-1"⟩

/-- A line with a description and a cost. -/
private def plateLine (received : ℚ) : OrderLine := ⟨1, some 42, "Plate", 2, received, some 5, none, none⟩

private def joBooks : Books := ⟨"JO-", some "300"⟩

private def statusEdit (status : PurchaseOrderStatus) : OrderEdit :=
  ⟨none, none, none, some status, false, [plateLine 0]⟩

/-- An order is submitted while Xero is away, received in part when it is back, and the catch-up run finds
nothing owed. -/
private def usualRun : List OrderAct :=
  [.updates (statusEdit .submitted), .answers .deferred, .commits, .catchUpReads, .receives [plateLine 1],
    .answers (.accepted "x-1" [("l-1", "42 - Plate")] true), .commits, .catchUpSends, .commits]

/-- The deferred call is made up for by the receipt's. -/
theorem deferred_order_agrees_in_the_end : ∃ s,
    (orderMirror joBooks).run (.created "JO-0001" (some steelSupplier) [plateLine 0] 0 none none) usualRun =
      some s ∧ s.Safe joBooks := by
  obtain ⟨s, hrun⟩ := Option.isSome_iff_exists.mp
    (by decide +kernel : ((orderMirror joBooks).run
      (.created "JO-0001" (some steelSupplier) [plateLine 0] 0 none none) usualRun).isSome = true)
  exact ⟨s, hrun, order_owes_or_agrees _ _ _ _ _ _ _ _ s (by decide +kernel) hrun⟩

/-- **A deleted order is created**: one that never reached Xero is deleted, and pushed as any other. -/
theorem deleted_order_is_created : ¬∀ (books : Books) (poNumber : String) (supplier : Option Supplier)
    (lines : List OrderLine) (acts : List OrderAct) (s : OrderSite),
    (orderMirror books).run (.created poNumber supplier lines 0 none none) acts = some s → s.Safe books := by
  intro h
  obtain ⟨s, hrun, hcreated⟩ := (Option.any_eq_true _ _).mp
    (by decide +kernel : (((orderMirror joBooks).run
      (.created "JO-0001" (some steelSupplier) [plateLine 0] 0 none none)
      [.updates (statusEdit .deleted), .answers (.accepted "x-1" [] true), .commits]).any
        fun s => decide (∃ version ∈ s.accepted.head?, version.status = poStatusMap .deleted)) = true)
  obtain ⟨version, hversion, hstatus⟩ := of_decide_eq_true hcreated
  exact (h _ _ _ _ _ s hrun).first version hversion hstatus

end Docketworks.OrderMirror
