import Docketworks.Library.Decimal
import Docketworks.Library.Mirroring
import Docketworks.Library.Table
import Docketworks.Library.Transaction
import Docketworks.Purchasing.OrderMirror

/-!
# The lines of a document Xero masters

How the lines of an invoice, a bill or a credit note, and of a purchase order Xero raised, follow Xero's
version of it (`set_invoice_or_bill_fields` of `apps/xero/raw_fields.py`, `transform_purchase_order` of
`apps/xero/transforms.py`).

* `deriveLineItems` — the entries of `_line_items`, each updated or created by its Xero line id.
* `syncPurchaseOrderLines`, `transformPurchaseOrder` — the lines of an order, matched by Xero identity.
* `synced_lines_are_the_versions` — when the stored lines are those of the version.

**Representation.**  A UUID is the number it is.  The amounts, the account and the tax of a line, what a
purchase order's header takes besides its number, and `raw_line_data` decide nothing here.  What raises
leaves the document as not synced.

**Design.**  Neither path removes a stored line the version no longer has.
-/

namespace Docketworks.DocumentLines

open Library
open OrderMirror (isLocallyRaised)

/-- What is read of a line, stored or asked for. -/
structure LineSays where
  lineId : Option ℕ
  description : String
  quantity : Option ℚ
  price : Option ℚ
deriving DecidableEq

/-- A number as a `numeric(10, 2)` column keeps it. -/
def kept (number : Option ℚ) : Option ℚ := number.map (roundHalfAway 2)

/-- The column has room for the number. -/
def fits (number : Option ℚ) : Bool := number.all fun q => |roundHalfAway 2 q| < 10 ^ 8

/-! ## Invoices, bills and credit notes -/

inductive DocumentType where
  | invoice
  | bill
  | creditNote

/-- `document_type.title()`. -/
def DocumentType.title : DocumentType → String
  | .invoice => "Invoice"
  | .bill => "Bill"
  | .creditNote => "Credit_Note"

/-- An entry of `_line_items`; a number's key may be missing, and its value null. -/
structure LineItemData where
  lineItemId : Option ℕ
  description : Option String
  quantity : Option (Option ℚ)
  unitAmount : Option (Option ℚ)

/-- A line of the version, with the defaults of a description-only line. -/
structure XeroLine where
  lineId : ℕ
  description : String
  quantity : Option ℚ
  unitPrice : Option ℚ

/-- The entry as a line; none where it carries no id. -/
def LineItemData.line? (data : LineItemData) : Option XeroLine :=
  data.lineItemId.map fun lineId =>
    { lineId := lineId
      description := (data.description.filter fun text => text ≠ "").getD "No description provided"
      quantity := data.quantity.getD (some 1)
      unitPrice := data.unitAmount.getD (some 1) }

/-- `BaseLineItem`. -/
structure LineItem where
  xeroLineId : ℕ
  description : String
  quantity : Option ℚ
  unitPrice : Option ℚ
deriving DecidableEq

/-- The columns written. -/
def XeroLine.item (line : XeroLine) : LineItem where
  xeroLineId := line.lineId
  description := line.description
  quantity := kept line.quantity
  unitPrice := kept line.unitPrice

def LineItem.says (item : LineItem) : LineSays :=
  ⟨some item.xeroLineId, item.description, item.quantity, item.unitPrice⟩

def XeroLine.says (line : XeroLine) : LineSays :=
  ⟨some line.lineId, line.description, line.quantity, line.unitPrice⟩

section Documents

variable (documentType : DocumentType) (number : String)
  -- the ids that lines of other documents are stored under
  (elsewhere : ℕ → Bool)

/-- One entry: `update_or_create` by the line's id. -/
def deriveLineItem (lines : Table LineItem.xeroLineId) (data : LineItemData) :
    Except String (Table LineItem.xeroLineId) :=
  match data.line? with
  | none => .error (documentType.title ++ " " ++ number ++ " carries a line item " ++
      "without _line_item_id; refusing to derive its lines")
  | some line =>
      if (lines.find? line.lineId).isNone && elsewhere line.lineId then
        .error "duplicate key value violates unique constraint"
      else if fits line.quantity && fits line.unitPrice then .ok (lines.upsert line.item)
      else .error "numeric field overflow"

/-- The loop of `set_invoice_or_bill_fields`. -/
def deriveLineItems (lines : Table LineItem.xeroLineId) (version : List LineItemData) :
    Except String (Table LineItem.xeroLineId) :=
  version.foldlM (deriveLineItem documentType number elsewhere) lines

end Documents

/-! ## Purchase orders -/

structure OrderLineData where
  lineItemId : Option ℕ
  description : Option String
  quantity : Option ℚ
  unitAmount : Option ℚ
  itemCode : Option String

/-- A line of the version, with what is required of it. -/
structure XeroOrderLine where
  lineId : ℕ
  description : String
  quantity : ℚ
  unitAmount : Option ℚ
  itemCode : Option String

/-- The line; none where something required is missing. -/
def OrderLineData.line? (data : OrderLineData) : Option XeroOrderLine := do
  let description ← data.description
  let quantity ← data.quantity
  let lineId ← data.lineItemId
  return ⟨lineId, description, quantity, data.unitAmount, data.itemCode⟩

/-- `PurchaseOrderLine`. -/
structure OrderLine where
  xeroLineItemId : Option ℕ
  description : String
  quantity : ℚ
  unitCost : Option ℚ
  priceTbc : Bool
  supplierItemCode : Option String
  receivedQuantity : ℚ
deriving DecidableEq

structure PurchaseOrder where
  poNumber : String
  lines : List OrderLine
deriving DecidableEq

def XeroOrderLine.over (line : XeroOrderLine) (row : OrderLine) : OrderLine :=
  { row with
    description := line.description
    quantity := roundHalfAway 2 line.quantity
    unitCost := kept line.unitAmount
    priceTbc := line.unitAmount.isNone
    supplierItemCode := line.itemCode.filter fun code => code ≠ "" }

/-- A line nobody had, with nothing received. -/
def XeroOrderLine.made (line : XeroOrderLine) : OrderLine :=
  line.over
    { xeroLineItemId := some line.lineId, description := "", quantity := 0, unitCost := none
      priceTbc := false, supplierItemCode := none, receivedQuantity := 0 }

/-- The columns have room for the line. -/
def XeroOrderLine.storable (line : XeroOrderLine) : Bool :=
  line.description.length ≤ 200 && fits (some line.quantity) && fits line.unitAmount &&
    line.itemCode.all fun code => code.length ≤ 50

def OrderLine.says (row : OrderLine) : LineSays :=
  ⟨row.xeroLineItemId, row.description, some row.quantity, row.unitCost⟩

def XeroOrderLine.says (line : XeroOrderLine) : LineSays :=
  ⟨some line.lineId, line.description, some line.quantity, line.unitAmount⟩

def OrderLine.receipted (row : OrderLine) : Bool := 0 < row.receivedQuantity

/-- What `required` raises: the first field that is missing. -/
def OrderLineData.missing (data : OrderLineData) (xeroId : String) : String :=
  let field := if data.description.isNone then "description"
    else if data.quantity.isNone then "quantity" else "line_item_id"
  "Missing fields ['" ++ field ++ "'] for purchase_order_line " ++ xeroId

/-- One line of `_sync_purchase_order_lines`; `validate_ordered_quantity` is asked of its row first. -/
def syncPurchaseOrderLine (xeroId : String) (rows : List OrderLine) (data : OrderLineData) :
    Except String (List OrderLine) :=
  match data.line? with
  | none => .error (data.missing xeroId)
  | some line =>
      let isOf (row : OrderLine) : Bool := row.xeroLineItemId = some line.lineId
      match rows.filter isOf with
      | _ :: _ :: _ =>
          .error ("More than one local line has Xero identity " ++ toString line.lineId ++ ".")
      | matched =>
          if line.quantity < (matched.headD line.made).receivedQuantity then
            .error ("%(description)s: ordered quantity %(quantity)s cannot be below " ++
              "net received quantity %(received)s. Reverse the receipt first.")
          else if !line.storable then .error "value too long or numeric field overflow"
          else if matched.isEmpty then .ok (rows ++ [line.made])
          else .ok (rows.map fun row => if isOf row then line.over row else row)

def syncPurchaseOrderLines (xeroId : String) (rows : List OrderLine) (version : List OrderLineData) :
    Except String (List OrderLine) :=
  version.foldlM (syncPurchaseOrderLine xeroId) rows

/-- `transform_purchase_order`, of an order that is there: a number of ours is kept, and the lines of an
order of Xero's are taken. -/
def transformPurchaseOrder (poPrefix xeroId : String) (po : PurchaseOrder) (poNumber : String)
    (version : List OrderLineData) : Except String PurchaseOrder := do
  let number := if isLocallyRaised poPrefix po.poNumber then po.poNumber else poNumber
  if isLocallyRaised poPrefix number then return { po with poNumber := number }
  let lines ← syncPurchaseOrderLines xeroId po.lines version
  return { poNumber := number, lines := lines }

/-! ## Both as mirrors -/

/-- The lines of a document, as a mirror of the version's. -/
def itemMirror : Mirror LineItem XeroLine ℕ LineSays where
  ident row := some row.xeroLineId
  key := XeroLine.lineId
  write line _ := line.item
  make := XeroLine.item
  said := LineItem.says
  asked := XeroLine.says
  held _ := false
  ident_write _ _ _ := rfl
  ident_make _ := rfl
  said_write _ _ _ := rfl
  held_write _ _ := rfl
  held_make _ := rfl
  identOf := LineSays.lineId
  identOf_said _ := rfl
  identOf_asked _ := rfl

/-- The lines of an order, those with a receipt held. -/
def orderMirror : Mirror OrderLine XeroOrderLine ℕ LineSays where
  ident := OrderLine.xeroLineItemId
  key := XeroOrderLine.lineId
  write := XeroOrderLine.over
  make := XeroOrderLine.made
  said := OrderLine.says
  asked := XeroOrderLine.says
  held := OrderLine.receipted
  ident_write _ _ h := h
  ident_make _ := rfl
  said_write line _ h := congr_arg
    (LineSays.mk · line.description (some (roundHalfAway 2 line.quantity)) (kept line.unitAmount)) h
  held_write _ _ := rfl
  held_make _ := decide_eq_false (lt_irrefl _)
  identOf := LineSays.lineId
  identOf_said _ := rfl
  identOf_asked _ := rfl

def versionLines (version : List LineItemData) : List XeroLine := version.filterMap LineItemData.line?

/-- The lines of a version of an order that are of no line with a receipt. -/
def unreceiptedLines (rows : List OrderLine) (version : List OrderLineData) : List XeroOrderLine :=
  (version.filterMap OrderLineData.line?).filter fun line =>
    !rows.any fun row => row.receipted && row.xeroLineItemId = some line.lineId

/-- A number with no more decimals than its column keeps. -/
def KeptWhole (number : Option ℚ) : Prop := kept number = number

section Synced

variable {documentType : DocumentType} {number poNumber poPrefix xeroId : String} {elsewhere : ℕ → Bool}
  {lines lines' : Table LineItem.xeroLineId} {version : List LineItemData} {po po' : PurchaseOrder}
  {rows rows' : List OrderLine} {amended : List OrderLineData}

lemma rows_upsert (line : XeroLine) : (lines.upsert line.item).rows = itemMirror.put lines.rows line := by
  have hof (row : LineItem) : itemMirror.IsOf line row ↔ row.xeroLineId = line.item.xeroLineId :=
    Option.some_inj
  unfold Mirror.put
  by_cases hmem : line.item.xeroLineId ∈ lines.rows.map LineItem.xeroLineId
  · rw [Table.rows_upsert_of_mem hmem, if_pos]
    · exact List.map_congr_left fun row _ => if_congr (hof row).symm rfl rfl
    · obtain ⟨row, hrow, hid⟩ := List.mem_map.mp hmem
      exact List.any_eq_true.mpr ⟨row, hrow, decide_eq_true ((hof row).mpr hid)⟩
  · rw [Table.rows_upsert_of_not_mem hmem, if_neg]
    · rfl
    · intro hany
      obtain ⟨row, hrow, hid⟩ := List.any_eq_true.mp hany
      exact hmem (List.mem_map.mpr ⟨row, hrow, (hof row).mp (of_decide_eq_true hid)⟩)

lemma rows_deriveLineItems (h : deriveLineItems documentType number elsewhere lines version = .ok lines') :
    lines'.rows = itemMirror.puts lines.rows (versionLines version) := by
  unfold deriveLineItems at h
  induction version generalizing lines with
  | nil => exact congr_arg _ (Except.ok.inj h).symm
  | cons data version ih =>
      rw [List.foldlM_cons] at h
      obtain ⟨next, hone, hrest⟩ := bind_eq_ok.mp h
      unfold deriveLineItem at hone
      split at hone
      · cases hone
      rename_i line hline
      split at hone
      · cases hone
      split at hone
      · obtain rfl := Except.ok.inj hone
        rw [ih hrest, rows_upsert]
        unfold versionLines
        rw [List.filterMap_cons_some hline]
        rfl
      · cases hone

lemma count_items_le (lines : Table LineItem.xeroLineId) (lineId : ℕ) :
    itemMirror.count lines.rows lineId ≤ 1 := by
  have hcount := List.nodup_iff_count_le_one.mp lines.nodup lineId
  rw [List.count, List.countP_map] at hcount
  refine le_trans (le_of_eq (List.countP_congr fun row _ => ?_)) hcount
  simp [itemMirror]

lemma syncPurchaseOrderLines_eq (h : syncPurchaseOrderLines xeroId rows amended = .ok rows') :
    rows' = orderMirror.puts rows (amended.filterMap OrderLineData.line?) ∧
      ∀ line ∈ amended.filterMap OrderLineData.line?, orderMirror.count rows line.lineId ≤ 1 := by
  unfold syncPurchaseOrderLines at h
  induction amended generalizing rows with
  | nil => exact ⟨(Except.ok.inj h).symm, nofun⟩
  | cons data amended ih =>
      rw [List.foldlM_cons] at h
      obtain ⟨next, hone, hrest⟩ := bind_eq_ok.mp h
      unfold syncPurchaseOrderLine at hone
      split at hone
      · cases hone
      rename_i line hline
      simp only at hone
      split at hone
      · cases hone
      rename_i hfew
      have hof (row : OrderLine) : decide (row.xeroLineItemId = some line.lineId) =
          decide (orderMirror.IsOf line row) := rfl
      have hcount : orderMirror.count rows line.lineId ≤ 1 := by
        have hlength : (rows.filter fun row => row.xeroLineItemId = some line.lineId).length ≤ 1 := by
          by_contra hlong
          rcases hrows : rows.filter (fun row => row.xeroLineItemId = some line.lineId) with
            _ | ⟨first, _ | ⟨second, rest⟩⟩
          · exact hlong (by rw [hrows]; exact Nat.zero_le 1)
          · exact hlong (by rw [hrows]; exact le_rfl)
          · exact hfew first second rest hrows
        rw [← List.countP_eq_length_filter] at hlength
        exact hlength
      have hnext : next = orderMirror.put rows line := by
        split at hone
        · cases hone
        split at hone
        · cases hone
        unfold Mirror.put
        split at hone <;> rename_i hempty
        · rw [← Except.ok.inj hone, if_neg]
          · rfl
          · simpa [List.filter_eq_nil_iff, hof] using hempty
        · rw [← Except.ok.inj hone, if_pos]
          · exact List.map_congr_left fun row _ => if_congr decide_eq_true_iff rfl rfl
          · simpa [List.filter_eq_nil_iff, hof] using hempty
      obtain ⟨hall, hcounts⟩ := ih hrest
      rw [List.filterMap_cons_some hline]
      refine ⟨hall.trans (hnext ▸ rfl), fun other hother => ?_⟩
      obtain rfl | hother := List.mem_cons.mp hother
      · exact hcount
      · exact Mirror.count_le_count_put.trans (hnext ▸ hcounts other hother)

lemma synced_of_transform (h : transformPurchaseOrder poPrefix xeroId po poNumber amended = .ok po')
    (hxeros : isLocallyRaised poPrefix po'.poNumber = false) :
    syncPurchaseOrderLines xeroId po.lines amended = .ok po'.lines := by
  unfold transformPurchaseOrder at h
  simp only at h
  generalize (if isLocallyRaised poPrefix po.poNumber then po.poNumber else poNumber) = taken at h
  split at h <;> rename_i hours
  · obtain rfl := Except.ok.inj h
    rw [hours] at hxeros
    cases hxeros
  · obtain ⟨lines, hlines, hmade⟩ := bind_eq_ok.mp h
    obtain rfl := Except.ok.inj hmade
    exact hlines

lemma says_item (line : XeroLine) :
    line.item.says = line.says ↔ KeptWhole line.quantity ∧ KeptWhole line.unitPrice := by
  simp [XeroLine.item, LineItem.says, XeroLine.says, KeptWhole]

lemma says_made (line : XeroOrderLine) :
    line.made.says = line.says ↔ KeptWhole (some line.quantity) ∧ KeptWhole line.unitAmount := by
  simp [XeroOrderLine.made, XeroOrderLine.over, OrderLine.says, XeroOrderLine.says, KeptWhole, kept]

/-- **The synced lines are the version's**, of a document and of the lines of an order that have no receipt,
just when each stored line is still in the version, the version repeats no line, and its numbers are kept
whole. -/
theorem synced_lines_are_the_versions
    (h : deriveLineItems documentType number elsewhere lines version = .ok lines')
    (hpo : transformPurchaseOrder poPrefix xeroId po poNumber amended = .ok po')
    (hxeros : isLocallyRaised poPrefix po'.poNumber = false) :
    ((lines'.rows.map LineItem.says).Perm ((versionLines version).map XeroLine.says) ↔
      (∀ row ∈ lines.rows, ∃ line ∈ versionLines version, line.lineId = row.xeroLineId) ∧
        ((versionLines version).map XeroLine.lineId).Nodup ∧
          ∀ line ∈ versionLines version, KeptWhole line.quantity ∧ KeptWhole line.unitPrice) ∧
    (((po'.lines.filter fun row => !row.receipted).map OrderLine.says).Perm
        ((unreceiptedLines po.lines amended).map XeroOrderLine.says) ↔
      (∀ row ∈ po.lines, row.receipted = false →
        ∃ line ∈ amended.filterMap OrderLineData.line?, row.xeroLineItemId = some line.lineId) ∧
        ((unreceiptedLines po.lines amended).map XeroOrderLine.lineId).Nodup ∧
          ∀ line ∈ unreceiptedLines po.lines amended,
            KeptWhole (some line.quantity) ∧ KeptWhole line.unitAmount) := by
  constructor
  · have hall : itemMirror.wanted lines.rows (versionLines version) = versionLines version :=
      List.filter_eq_self.mpr fun line _ => by simp [itemMirror]
    have hfree : (lines'.rows.filter fun row => !itemMirror.held row) = lines'.rows :=
      List.filter_eq_self.mpr fun _ _ => rfl
    have hexact := Mirror.perm_iff fun (line : XeroLine) (_ : line ∈ versionLines version) =>
      count_items_le lines line.lineId
    rw [hall, ← rows_deriveLineItems h, hfree] at hexact
    refine hexact.trans (and_congr ?_ (and_congr Iff.rfl ?_))
    · refine forall₂_congr fun row _ => ⟨fun hitem => ?_, fun hitem _ => ?_⟩
      · obtain ⟨line, hline, hof⟩ := hitem rfl
        exact ⟨line, hline, (Option.some.inj hof).symm⟩
      · obtain ⟨line, hline, hid⟩ := hitem
        exact ⟨line, hline, congr_arg some hid.symm⟩
    · exact forall₂_congr fun line _ => says_item line
  · obtain ⟨hrows, hcount⟩ := syncPurchaseOrderLines_eq (synced_of_transform hpo hxeros)
    have hexact := Mirror.perm_iff hcount
    rw [← hrows] at hexact
    exact hexact.trans (and_congr Iff.rfl (and_congr Iff.rfl (forall₂_congr fun line _ => says_made line)))

/-- An invoice and an order of Xero's, each with a line amended and a line put on. -/
theorem synced_lines_are_the_versions_amended :
    (([⟨7, "Cutting", some 3, some 40⟩, ⟨8, "Folding", some 1, some 25⟩] : List LineItem).map
      LineItem.says).Perm ((versionLines [⟨some 8, some "Folding", none, some (some 25)⟩,
        ⟨some 7, some "Cutting", some (some 3), some (some 40)⟩]).map XeroLine.says) ∧
    ((([⟨some 1, "Plate", 4, none, true, none, 0⟩, ⟨some 2, "Bar", 2, some 9, false, none, 0⟩] :
      List OrderLine).filter fun row => !row.receipted).map OrderLine.says).Perm
        ((unreceiptedLines [⟨some 1, "Sheet", 6, some 12, false, none, 0⟩]
          [⟨some 1, some "Plate", some 4, none, none⟩, ⟨some 2, some "Bar", some 2, some 9, none⟩]).map
            XeroOrderLine.says) := by
  have h : (deriveLineItems .invoice "INV-1" (fun _ => false) ⟨[⟨7, "Cut", some 2, some 5⟩], by decide⟩
      [⟨some 8, some "Folding", none, some (some 25)⟩,
        ⟨some 7, some "Cutting", some (some 3), some (some 40)⟩]).map Table.rows =
          .ok [⟨7, "Cutting", some 3, some 40⟩, ⟨8, "Folding", some 1, some 25⟩] := by
    decide +kernel
  obtain ⟨lines, h, hrows⟩ := map_eq_ok.mp h
  have hpo : transformPurchaseOrder "JO-" "po-1"
      ⟨"PO-0001", [⟨some 1, "Sheet", 6, some 12, false, none, 0⟩]⟩ "PO-0001"
        [⟨some 1, some "Plate", some 4, none, none⟩, ⟨some 2, some "Bar", some 2, some 9, none⟩] =
          .ok ⟨"PO-0001",
            [⟨some 1, "Plate", 4, none, true, none, 0⟩, ⟨some 2, "Bar", 2, some 9, false, none, 0⟩]⟩ := by
    decide +kernel
  have hexact := synced_lines_are_the_versions h hpo (by decide +kernel)
  rw [hrows] at hexact
  unfold KeptWhole at hexact
  exact ⟨hexact.1.mpr (by decide +kernel), hexact.2.mpr (by decide +kernel)⟩

/-- Xero took a line off an invoice; the stored invoice still has both. -/
theorem removed_line_stays :
    let cutting : LineItemData := ⟨some 1, some "Cutting", some (some 3), some (some 40)⟩
    let stored : Table LineItem.xeroLineId :=
      ⟨[⟨1, "Cutting", some 3, some 40⟩, ⟨2, "Welding", some 1, some 90⟩], by decide⟩
    ∃ lines, deriveLineItems .invoice "INV-1" (fun _ => false) stored [cutting] = .ok lines ∧
      ¬(lines.rows.map LineItem.says).Perm ((versionLines [cutting]).map XeroLine.says) := by
  intro cutting stored
  have hsynced : (deriveLineItems .invoice "INV-1" (fun _ => false) stored [cutting]).map Table.rows =
      .ok stored.rows := by
    decide +kernel
  obtain ⟨lines, hlines, hrows⟩ := map_eq_ok.mp hsynced
  refine ⟨lines, hlines, fun h => ?_⟩
  rw [hrows] at h
  exact absurd h.length_eq (by decide +kernel)

end Synced

end Docketworks.DocumentLines
