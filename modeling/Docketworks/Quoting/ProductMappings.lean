import Mathlib.Algebra.Order.Ring.Rat
import Docketworks.Core.Errors
import Docketworks.Core.Text
import Docketworks.Library.Json
import Docketworks.Library.Machine
import Docketworks.Library.Table

/-!
# Product mappings

What a supplier's product text is parsed into, by the language model or by an operator
(`apps/quoting/services/product_parser.py`, `validate_product_mapping` of
`apps/purchasing/services/supplier_pricing_service.py`).

* `parsedColumns` — the columns one answer of the model fills.
* `authoritative` — a mapping someone has already answered for.
* `getOrCreate`, `fill` — the two queries of `_save_mapping`.
* `validated` — the operator's row.
* `quoting` — every order in which workers and operators take their queries.

**Design.**  A mapping is keyed by SHA-256 of the text it is for; here the text itself is the key.
The model's answer is whatever comes back, and what number a text reads as is a parameter,
`readDecimal`.  The products that share a mapping's text copy its values and write nothing back, so
they are left out; so are the widths of text columns.
-/

namespace Docketworks.Quoting

open Library

/-! ## Rows -/

/-- The raw supplier text handed to the parser. -/
structure ProductInput where
  productName : String := ""
  description : String := ""
  specifications : String := ""
  itemNo : String := ""
  variantId : String := ""
  variantWidth : String := ""
  variantLength : String := ""
  variantPrice : Option ℚ := none
  priceUnit : String := ""
deriving DecidableEq, Repr

/-- `hash_source`: the text the mapping is keyed by: description, else name. -/
def ProductInput.hashSource (product : ProductInput) : String :=
  if product.description = "" then product.productName else product.description

/-- The columns `mapped_*`. -/
structure MappedValues where
  itemCode : Option String := none
  description : Option String := none
  metalType : Option String := none
  alloy : Option String := none
  specifics : Option String := none
  dimensions : Option String := none
  unitCost : Option ℚ := none
  priceUnit : Option String := none
deriving DecidableEq, Repr

/-- The columns one answer of the model fills: `_parsed_columns`. -/
structure ParsedColumns where
  mapped : MappedValues
  parserVersion : String
  parserConfidence : Option ℚ
  llmResponse : List Json.Members

structure ProductParsingMapping where
  inputHash : String
  inputData : ProductInput
  mapped : MappedValues
  parserVersion : Option String
  parserConfidence : Option ℚ
  llmResponse : Option (List Json.Members)
  isValidated : Bool
  validatedBy : Option ℕ
  validationNotes : Option String
  itemCodeIsInXero : Bool

def parserVersion : String := "1.1.0"

/-! ## What the model answered -/

def blankToNone (value : Option Json) : Option String :=
  match value with
  | some (.string text) => (some (pythonStrip text)).filter fun stripped => stripped ≠ ""
  | _ => none

section Answers

variable (readDecimal : String → Option ℚ)

/-- `to_optional_decimal`: a number its column has room for. -/
def toOptionalDecimal (maxDigits decimalPlaces : ℕ) (value : Option Json) : Option ℚ :=
  (match value with
  | some (.number number) => some number
  | some (.string text) => readDecimal text
  | _ => none).filter fun number => |number| < 10 ^ (maxDigits - decimalPlaces)

def parsedColumns (parsed : Json.Members) (llmResponse : List Json.Members) : ParsedColumns where
  mapped :=
    { itemCode := blankToNone (parsed.get? "item_code")
      description := blankToNone (parsed.get? "description")
      metalType := blankToNone (parsed.get? "metal_type")
      alloy := blankToNone (parsed.get? "alloy")
      specifics := blankToNone (parsed.get? "specifics")
      dimensions := blankToNone (parsed.get? "dimensions")
      unitCost := toOptionalDecimal readDecimal 10 2 (parsed.get? "unit_cost")
      priceUnit := blankToNone (parsed.get? "price_unit") }
  parserVersion := parserVersion
  parserConfidence := toOptionalDecimal readDecimal 3 2 (parsed.get? "confidence")
  llmResponse := llmResponse

end Answers

/-! ## The state -/

/-- A product a worker has asked the model about, and what it read of its mapping since. -/
structure Parse where
  id : ℕ
  product : ProductInput
  /-- The row as it was read, with the columns to save over it. -/
  read : Option (ProductParsingMapping × ParsedColumns)

/-- An operator's request: the row as it was read. -/
structure Validation where
  id : ℕ
  mapping : ProductParsingMapping

/-- The mappings, the item codes in stock, and what is under way. -/
structure MappingState where
  mappings : Table ProductParsingMapping.inputHash
  stockCodes : List String
  parses : Table Parse.id
  validations : Table Validation.id

/-! ## The parser -/

/-- `AUTHORITATIVE_MAPPING`: the parser at the current version has answered, or an operator. -/
def authoritative (mapping : ProductParsingMapping) : Bool :=
  mapping.parserVersion = some parserVersion || mapping.isValidated

/-- A mapping nobody has answered for. -/
def placeholder (product : ProductInput) : ProductParsingMapping where
  inputHash := product.hashSource
  inputData := product
  mapped := {}
  parserVersion := none
  parserConfidence := none
  llmResponse := none
  isValidated := false
  validatedBy := none
  validationNotes := none
  itemCodeIsInXero := false

/-- The row with the model's columns on it: what `save(update_fields=...)` leaves. -/
def withColumns (mapping : ProductParsingMapping) (columns : ParsedColumns) :
    ProductParsingMapping :=
  { mapping with
    mapped := columns.mapped
    parserVersion := some columns.parserVersion
    parserConfidence := columns.parserConfidence
    llmResponse := some columns.llmResponse }

/-- `create_mapping_record`: the mapping reserved, if there is none. -/
def createMappingRecord (s : MappingState) (product : ProductInput) : MappingState :=
  { s with mappings := (s.mappings.insert? (placeholder product)).getD s.mappings }

/-- The first query of `_save_mapping`: the row created with the model's columns, or read.  A row that
is authoritative by now is left. -/
def getOrCreate (s : MappingState) (parse : Parse) (columns : ParsedColumns) : MappingState :=
  match s.mappings.find? parse.product.hashSource with
  | none =>
      { s with
        mappings := (s.mappings.insert? (withColumns (placeholder parse.product) columns)).getD
          s.mappings
        parses := s.parses.erase parse.id }
  | some mapping =>
      if mapping.isValidated || mapping.parserVersion = some parserVersion then
        { s with parses := s.parses.erase parse.id }
      else { s with parses := s.parses.put { parse with read := some (mapping, columns) } }

/-- The second query of `_save_mapping`: the columns saved over the row as it is stored. -/
def fill (s : MappingState) (parse : Parse) : Option MappingState := do
  let (mapping, columns) ← parse.read
  let stored ← s.mappings.find? mapping.inputHash
  pure
    { s with
      mappings := s.mappings.put (withColumns stored columns)
      parses := s.parses.erase parse.id }

/-! ## The operator -/

/-- The mapping fields an operator may correct while validating; none where the field is not given. -/
structure ProductMappingValidateData where
  itemCode : Option (Option String) := none
  description : Option (Option String) := none
  metalType : Option (Option String) := none
  alloy : Option (Option String) := none
  specifics : Option (Option String) := none
  dimensions : Option (Option String) := none
  unitCost : Option (Option ℚ) := none
  priceUnit : Option (Option String) := none
  validationNotes : Option (Option String) := none
deriving DecidableEq, Repr

/-- `update_xero_status`: a code that is not in stock is cleared. -/
def updateXeroStatus (stockCodes : List String) (mapping : ProductParsingMapping) :
    ProductParsingMapping :=
  match mapping.mapped.itemCode.filter fun code => code ≠ "" with
  | some code =>
      if stockCodes.contains code then { mapping with itemCodeIsInXero := true }
      else
        { mapping with
          itemCodeIsInXero := false
          mapped := { mapping.mapped with itemCode := none } }
  | none => { mapping with itemCodeIsInXero := false }

/-- The row `validate_product_mapping` saves. -/
def validated (stockCodes : List String) (mapping : ProductParsingMapping)
    (data : ProductMappingValidateData) (staff : ℕ) : ProductParsingMapping :=
  updateXeroStatus stockCodes
    { mapping with
      isValidated := true
      validatedBy := some staff
      validationNotes := data.validationNotes.getD mapping.validationNotes
      mapped :=
        { itemCode := data.itemCode.getD mapping.mapped.itemCode
          description := data.description.getD mapping.mapped.description
          metalType := data.metalType.getD mapping.mapped.metalType
          alloy := data.alloy.getD mapping.mapped.alloy
          specifics := data.specifics.getD mapping.mapped.specifics
          dimensions := data.dimensions.getD mapping.mapped.dimensions
          unitCost := data.unitCost.getD mapping.mapped.unitCost
          priceUnit := data.priceUnit.getD mapping.mapped.priceUnit } }

/-- The constraints `*_not_blank`. -/
def notBlank (mapping : ProductParsingMapping) : Bool :=
  [mapping.mapped.itemCode, mapping.mapped.description, mapping.mapped.metalType,
    mapping.mapped.alloy, mapping.mapped.specifics, mapping.mapped.dimensions,
    mapping.mapped.priceUnit, mapping.parserVersion, mapping.validationNotes].all fun text =>
      text ≠ some ""

/-! ## What the writes keep -/

lemma find?_inserted {table : Table ProductParsingMapping.inputHash} {text : String}
    {mapping row : ProductParsingMapping}
    (h : table.find? text = some mapping) : ((table.insert? row).getD table).find? text = some mapping := by
  cases hinsert : table.insert? row with
  | none => exact h
  | some inserted =>
      have hne : text ≠ row.inputHash := by
        rintro rfl
        rw [Table.find?_of_insert? hinsert] at h
        cases h
      exact (Table.find?_insert?_of_ne hinsert hne).trans h

lemma columns_updateXeroStatus (stockCodes : List String) (mapping : ProductParsingMapping) :
    (updateXeroStatus stockCodes mapping).inputHash = mapping.inputHash ∧
      (updateXeroStatus stockCodes mapping).isValidated = mapping.isValidated := by
  unfold updateXeroStatus
  split
  · split <;> exact ⟨rfl, rfl⟩
  · exact ⟨rfl, rfl⟩

lemma columns_validated (stockCodes : List String) (mapping : ProductParsingMapping)
    (data : ProductMappingValidateData) (staff : ℕ) :
    (validated stockCodes mapping data staff).inputHash = mapping.inputHash ∧
      (validated stockCodes mapping data staff).isValidated = true :=
  columns_updateXeroStatus stockCodes _

/-! ## Every order of queries -/

/-- One query of a worker, or of an operator's request. -/
inductive MappingEvent where
  | reserved (product : ProductInput)
  /-- `_authoritative_mapping`, before the model is asked. -/
  | lookedUp (parse : ℕ) (product : ProductInput)
  | noAnswer (parse : ℕ)
  | answered (parse : ℕ) (parsed : Json.Members) (llmResponse : List Json.Members)
  | saved (parse : ℕ)
  | opened (request : ℕ) (mapping : String)
  | validated (request : ℕ) (data : ProductMappingValidateData) (staff : ℕ)

/-- Workers and operators, a query at a time.  A row the table refuses ends its request and leaves the
tables as they are. -/
def quoting (readDecimal : String → Option ℚ) : Machine MappingState MappingEvent := fun s event =>
  match event with
  | .reserved product => some (createMappingRecord s product)
  | .lookedUp parse product =>
      if (s.mappings.find? product.hashSource).any authoritative then some s
      else (s.parses.insert? ⟨parse, product, none⟩).map fun parses => { s with parses }
  | .noAnswer parse => (s.parses.find? parse).map fun _ => { s with parses := s.parses.erase parse }
  | .answered parse parsed llmResponse =>
      ((s.parses.find? parse).filter fun row => row.read.isNone).map fun row =>
        getOrCreate s row (parsedColumns readDecimal parsed llmResponse)
  | .saved parse => (s.parses.find? parse).bind (fill s)
  | .opened request mapping => do
      let mapping ← s.mappings.find? mapping
      let validations ← s.validations.insert? ⟨request, mapping⟩
      pure { s with validations }
  | .validated request data staff =>
      (s.validations.find? request).map fun row =>
        let mapping := validated s.stockCodes row.mapping data staff
        { s with
          validations := s.validations.erase request
          mappings := if notBlank mapping then s.mappings.put mapping else s.mappings }

end Docketworks.Quoting
