import Docketworks.Library.Decimal
import Docketworks.Quoting.ProductMappings

/-!
# Supplier products

The scraped catalogue and the values its mappings give it (`save_products` of
`apps/quoting/scrapers/base.py`, `apps/quoting/services/product_parser.py`,
`apps/purchasing/services/supplier_pricing_service.py`).

* `SupplierProduct`, `Catalogue` — a product with the values parsed for it, and the tables.
* `saveProduct` — one scraped row saved in its own savepoint.
* `applyMapping` — a mapping's values put on every product that shares its text.
* `parseProduct`, `parseProductsBatch`, `populateAllMappings` — the parser, over what the model replies.
* `validateProductMapping` — the operator's row saved, and put on its products.
* `cataloguing` — scraped rows, discontinued flags, parses and validations, one after another.

**Design.**  The text a mapping is keyed by stands for its SHA-256 here too.  What the model replies to
one call after another is a list; the call that finds it empty raises.  Nothing of a parse is rolled
back when it raises, so what is left is answered beside the result.
-/

namespace Docketworks.Quoting

open Library

/-! ## Rows -/

/-- One product variant as read off a supplier's page. -/
structure ScrapedProduct where
  itemNo : String
  variantId : String
  productName : String
  url : String
  description : Option String := none
  specifications : Option String := none
  variantWidth : Option String := none
  variantLength : Option String := none
  variantPrice : Option ℚ := none
  priceUnit : Option String := none
  variantAvailableStock : Option ℤ := none
  named : itemNo ≠ "" ∧ itemNo ≠ "N/A" ∧ variantId ≠ "" ∧ variantId ≠ "N/A" ∧ productName ≠ "" ∧
    url ≠ "" := by decide
  notBlank : ∀ text ∈ [description, specifications, variantWidth, variantLength, priceUnit],
    text ≠ some "" := by decide

/-- A scraped product, with the values parsed for its text. -/
structure SupplierProduct where
  supplier : ℕ
  url : String
  itemNo : String
  variantId : String
  productName : String
  description : Option String
  specifications : Option String
  variantWidth : Option String
  variantLength : Option String
  variantPrice : Option ℚ
  priceUnit : Option String
  variantAvailableStock : Option ℤ
  isDiscontinued : Bool
  parsed : MappedValues
  parserVersion : Option String
  parserConfidence : Option ℚ
  mappingHash : Option String

/-- `unique_together`. -/
def SupplierProduct.key (product : SupplierProduct) : ℕ × String × String × String :=
  (product.supplier, product.url, product.itemNo, product.variantId)

/-- `supplier_product_mapping_hash`: the text the product's mapping is keyed by. -/
def SupplierProduct.hashSource (product : SupplierProduct) : String :=
  (product.description.filter fun text => text ≠ "").getD product.productName

structure Catalogue where
  products : Table SupplierProduct.key
  mappings : Table ProductParsingMapping.inputHash
  stockCodes : List String

/-! ## Saving what was scraped -/

/-- The columns of the row have room for what was scraped. -/
def ScrapedProduct.storable (product : ScrapedProduct) : Bool :=
  product.productName.length ≤ 500 && product.itemNo.length ≤ 100 &&
    product.variantId.length ≤ 100 && product.url.length ≤ 1000 &&
      ([product.variantWidth, product.variantLength, product.priceUnit].all fun text =>
        text.all fun text => text.length ≤ 50) &&
        (product.variantPrice.all fun price => |roundHalfAway 2 price| < 10 ^ 8) &&
          product.variantAvailableStock.all fun stock => -2 ^ 31 ≤ stock && stock < 2 ^ 31

/-- The row with the scraped columns on it. -/
def ScrapedProduct.on (scraped : ScrapedProduct) (product : SupplierProduct) : SupplierProduct :=
  { product with
    productName := scraped.productName
    description := scraped.description
    specifications := scraped.specifications
    variantWidth := scraped.variantWidth
    variantLength := scraped.variantLength
    variantPrice := scraped.variantPrice
    priceUnit := scraped.priceUnit
    variantAvailableStock := scraped.variantAvailableStock }

def ScrapedProduct.made (scraped : ScrapedProduct) (supplier : ℕ) : SupplierProduct where
  supplier := supplier
  url := scraped.url
  itemNo := scraped.itemNo
  variantId := scraped.variantId
  productName := scraped.productName
  description := scraped.description
  specifications := scraped.specifications
  variantWidth := scraped.variantWidth
  variantLength := scraped.variantLength
  variantPrice := scraped.variantPrice
  priceUnit := scraped.priceUnit
  variantAvailableStock := scraped.variantAvailableStock
  isDiscontinued := false
  parsed := {}
  parserVersion := none
  parserConfidence := none
  mappingHash := none

/-- What the parser is handed of a product. -/
def SupplierProduct.input (product : SupplierProduct) : ProductInput where
  productName := product.productName
  description := product.description.getD ""
  specifications := product.specifications.getD ""
  itemNo := product.itemNo
  variantId := product.variantId
  variantWidth := product.variantWidth.getD ""
  variantLength := product.variantLength.getD ""
  variantPrice := product.variantPrice
  priceUnit := product.priceUnit.getD ""

/-- `create_mapping_record`: the new product stamped with its text, and the mapping reserved. -/
def Catalogue.createMappingRecord (db : Catalogue) (product : SupplierProduct) : Catalogue :=
  { db with
    products := db.products.put { product with mappingHash := some product.hashSource }
    mappings := (db.mappings.insert? (placeholder product.input)).getD db.mappings }

/-- One row of `save_products`: upserted in a savepoint of its own, and a new one given its mapping. -/
def saveProduct (db : Catalogue) (supplier : ℕ) (scraped : ScrapedProduct) : Catalogue :=
  if scraped.storable then
    match db.products.find? (scraped.made supplier).key with
    | some product => { db with products := db.products.put (scraped.on product) }
    | none =>
        match db.products.insert? (scraped.made supplier) with
        | some products => { db with products := products }.createMappingRecord (scraped.made supplier)
        | none => db
  else db

/-- `_mark_discontinued`, `_clear_discontinued`: the flag of a supplier's products at some URLs. -/
def flagDiscontinued (db : Catalogue) (supplier : ℕ) (urls : List String) (discontinued : Bool) :
    Catalogue :=
  { db with
    products := db.products.modify
      (fun product =>
        if product.supplier = supplier ∧ product.url ∈ urls then
          { product with isDiscontinued := discontinued }
        else product)
      (fun product => by split <;> rfl) }

/-! ## Mappings and their products -/

/-- `apply_mapping_to_products`: the mapping's values put on every product that shares its text. -/
def applyMapping (db : Catalogue) (mapping : ProductParsingMapping) : Catalogue :=
  { db with
    products := db.products.modify
      (fun product =>
        if product.mappingHash = some mapping.inputHash then
          { product with
            parsed := mapping.mapped
            parserVersion := mapping.parserVersion
            parserConfidence := mapping.parserConfidence }
        else product)
      (fun product => by split <;> rfl) }

/-- The columns `mapped_*` and the confidence have room for the values. -/
def storable (mapped : MappedValues) (confidence : Option ℚ) : Bool :=
  ([(mapped.itemCode, 100), (mapped.description, 255), (mapped.metalType, 50), (mapped.alloy, 50),
      (mapped.specifics, 255), (mapped.dimensions, 100), (mapped.priceUnit, 50)].all fun each =>
    each.1.all fun text => text.length ≤ each.2) &&
    (mapped.unitCost.all fun cost => |roundHalfAway 2 cost| < 10 ^ 8) &&
      confidence.all fun number => |roundHalfAway 2 number| < 10

/-- `validate_product_mapping`: the operator's row saved and put on its products; a row the table
refuses changes nothing. -/
def validateProductMapping (db : Catalogue) (mapping : ProductParsingMapping)
    (data : ProductMappingValidateData) (staff : ℕ) : Catalogue :=
  let row := validated db.stockCodes mapping data staff
  if notBlank row && storable row.mapped row.parserConfidence then
    applyMapping { db with mappings := db.mappings.put row } row
  else db

/-! ## The parser -/

/-- What a call of the model comes to: it raises, it replies nothing usable, or it replies objects. -/
inductive LlmReply where
  | raised
  | unusable
  | rows (rows : List Json.Members)

section Parser

variable (readDecimal : String → Option ℚ)

/-- An answer the mapping's columns have room for. -/
def storableAnswer (parsed : Json.Members) : Bool :=
  let columns := parsedColumns readDecimal parsed []
  storable columns.mapped columns.parserConfidence

/-- `_save_mapping`: the mapping saved with the answer, or the one that is authoritative by now; none
where the table refuses the answer. -/
def saveMapping (db : Catalogue) (product : ProductInput) (parsed : Json.Members)
    (llmResponse : List Json.Members) : Option (Catalogue × ProductParsingMapping) :=
  let columns := parsedColumns readDecimal parsed llmResponse
  match db.mappings.find? product.hashSource with
  | none =>
      if storableAnswer readDecimal parsed then
        (db.mappings.insert? (withColumns (placeholder product) columns)).map fun mappings =>
          ({ db with mappings := mappings }, withColumns (placeholder product) columns)
      else none
  | some mapping =>
      if mapping.isValidated || mapping.parserVersion = some parserVersion then some (db, mapping)
      else if storableAnswer readDecimal parsed then
        some ({ db with mappings := db.mappings.put (withColumns mapping columns) },
          withColumns mapping columns)
      else none

/-- `_authoritative_mapping`: the mapping of a text, where someone has answered for it. -/
def Catalogue.authoritativeMapping (db : Catalogue) (text : String) :
    Option ProductParsingMapping :=
  (db.mappings.find? text).filter authoritative

/-- `parse_product`: what is left, the replies still to come, and the mapping the result is read from;
no result where the call raises. -/
def parseProduct (db : Catalogue) (replies : List LlmReply) (product : ProductInput) :
    Catalogue × List LlmReply × Option (Option ProductParsingMapping) :=
  match db.authoritativeMapping product.hashSource with
  | some cached => (db, replies, some (some cached))
  | none =>
      match replies with
      | [] => (db, [], none)
      | .raised :: replies => (db, replies, none)
      | .unusable :: replies => (db, replies, some none)
      | .rows [] :: replies => (db, replies, some none)
      | .rows (parsed :: others) :: replies =>
          match saveMapping readDecimal db product parsed (parsed :: others) with
          | none => (db, replies, none)
          | some (db, mapping) => (db, replies, some (some mapping))

/-- Products parsed by a call each. -/
def parseEach : Catalogue → List LlmReply → List ProductInput →
    Catalogue × List LlmReply × Option (List (Option ProductParsingMapping))
  | db, replies, [] => (db, replies, some [])
  | db, replies, product :: products =>
      match parseProduct readDecimal db replies product with
      | (db, replies, none) => (db, replies, none)
      | (db, replies, some result) =>
          let (db, replies, results) := parseEach db replies products
          (db, replies, results.map fun results => result :: results)

/-- The answers of one call saved in turn. -/
def saveAnswers (llmResponse : List Json.Members) : Catalogue → List (ProductInput × Json.Members) →
    Catalogue × Option (List (Option ProductParsingMapping))
  | db, [] => (db, some [])
  | db, (product, parsed) :: answers =>
      match saveMapping readDecimal db product parsed llmResponse with
      | none => (db, none)
      | some (db, mapping) =>
          let (db, results) := saveAnswers llmResponse db answers
          (db, results.map fun results => some mapping :: results)

/-- The results of the pending products, put where there is none. -/
def fillIn {α : Type} : List (Option α) → List (Option α) → List (Option α)
  | [], _ => []
  | some result :: results, found => some result :: fillIn results found
  | none :: results, [] => none :: fillIn results []
  | none :: results, result :: found => result :: fillIn results found

/-- `parse_products_batch`: products parsed by one call, those with an authoritative mapping apart; by a
call each where the reply is of no use. -/
def parseProductsBatch (db : Catalogue) (replies : List LlmReply) (products : List ProductInput) :
    Catalogue × List LlmReply × Option (List (Option ProductParsingMapping)) :=
  let cached := products.map fun product => db.authoritativeMapping product.hashSource
  let pending := products.filter fun product =>
    (db.authoritativeMapping product.hashSource).isNone
  let oneByOne (replies : List LlmReply) :=
    let (db, replies, found) := parseEach readDecimal db replies pending
    (db, replies, found.map (fillIn cached))
  if pending.isEmpty then (db, replies, some cached)
  else match replies with
  | [] => (db, [], none)
  | .raised :: replies => (db, replies, none)
  | .unusable :: replies => oneByOne replies
  | .rows rows :: replies =>
      if rows.length = pending.length then
        let (db, found) := saveAnswers readDecimal rows db (pending.zip rows)
        (db, replies, found.map (fillIn cached))
      else oneByOne replies

/-! ## The fill at the end of a scrape -/

def inputFromMapping (mapping : ProductParsingMapping) : ProductInput :=
  { mapping.inputData with
    variantPrice := mapping.inputData.variantPrice.filter fun price => |price| < 10 ^ 8 }

def hashMatchesStoredInput (mapping : ProductParsingMapping) : Bool :=
  (inputFromMapping mapping).hashSource = mapping.inputHash

def batchSize : ℕ := 100

def slices {α : Type} (size : ℕ) (items : List α) : ℕ → List (List α)
  | 0 => []
  | fuel + 1 =>
      if items.isEmpty then [] else items.take size :: slices size (items.drop size) fuel

/-- The mappings to fill, in batches: those nobody has answered for, whose text is their key. -/
def Catalogue.batchesToFill (db : Catalogue) : List (List ProductParsingMapping) :=
  let placeholders := db.mappings.rows.filter fun mapping => !authoritative mapping
  (slices batchSize placeholders placeholders.length).map fun batch =>
    batch.filter hashMatchesStoredInput

/-- The mappings of a batch that were parsed, read again and put on their products. -/
def applyResults (db : Catalogue) :
    List (ProductParsingMapping × Option ProductParsingMapping) → Catalogue
  | [] => db
  | (_, none) :: rest => applyResults db rest
  | (mapping, some _) :: rest =>
      match db.mappings.find? mapping.inputHash with
      | some mapping => applyResults (applyMapping db mapping) rest
      | none => applyResults db rest

/-- The batches in turn; a call that raises ends the fill. -/
def fillBatches : Catalogue → List LlmReply → List (List ProductParsingMapping) → Catalogue
  | db, _, [] => db
  | db, replies, batch :: batches =>
      match parseProductsBatch readDecimal db replies (batch.map inputFromMapping) with
      | (db, _, none) => db
      | (db, replies, some results) =>
          fillBatches (applyResults db (batch.zip results)) replies batches

/-- `populate_all_mappings_with_llm`, as a scrape calls it: what raises is recorded and no more. -/
def populateAllMappings (db : Catalogue) (replies : List LlmReply) : Catalogue :=
  fillBatches readDecimal db replies db.batchesToFill

end Parser

/-! ## One after another -/

/-- A scraped row, a flag set or cleared, a fill, a stock row parsed, or a validation. -/
inductive CatalogueEvent where
  | saved (supplier : ℕ) (scraped : ScrapedProduct)
  | flagged (supplier : ℕ) (urls : List String) (discontinued : Bool)
  | populated (replies : List LlmReply)
  /-- `auto_parse_stock_item`, as far as the mapping of the stock's text. -/
  | stockParsed (replies : List LlmReply) (product : ProductInput)
  | validated (mapping : String) (data : ProductMappingValidateData) (staff : ℕ)

/-- The catalogue after an event.  A scrape is its rows saved one by one, then the flags, then the
fill. -/
def cataloguing (readDecimal : String → Option ℚ) : Machine Catalogue CatalogueEvent :=
  fun db event =>
    match event with
    | .saved supplier scraped => some (saveProduct db supplier scraped)
    | .flagged supplier urls discontinued => some (flagDiscontinued db supplier urls discontinued)
    | .populated replies => some (populateAllMappings readDecimal db replies)
    | .stockParsed replies product => some (parseProduct readDecimal db replies product).1
    | .validated mapping data staff =>
        (db.mappings.find? mapping).map fun mapping => validateProductMapping db mapping data staff

end Docketworks.Quoting
