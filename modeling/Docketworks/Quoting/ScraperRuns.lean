import Mathlib.Data.List.Dedup
import Mathlib.Data.List.Sort
import Docketworks.Quoting.SupplierProducts

/-!
# Scraper runs

One run of a supplier's scraper, and what it may conclude about the catalogue
(`apps/quoting/scrapers/base.py`).

* `Portal`, `PageOutcome` — what the portal answers: its sitemap, and each page.
* `visit`, `Scraper.run` — the pages read and saved in batches, the health of the run, the sweep of what
  left the sitemap and the retirement of what the portal no longer serves.
* `RetiresSafely`, `retirement_is_safe` — which products a run leaves discontinued.

**Design.**  The rows of a page carry its URL, as the portal's reader makes them.  An `AppError` row is
not kept: what is persisted there decides nothing.  The sweep is made by a refresh run only; a run that
visits what it has not seen before concludes nothing from the sitemap.
-/

namespace Docketworks.Quoting

open Library

/-! ## What the portal answers -/

/-- An exception, with its class. -/
structure Raised where
  text : String
  className : String

/-- `str(exc) or exc.__class__.__name__`. -/
def Raised.said (raised : Raised) : String :=
  if raised.text = "" then raised.className else raised.text

/-- What `scrape_product` comes to at a URL. -/
inductive PageOutcome (url : String) where
  /-- The rows of the page; a page without any is a failed one. -/
  | read (rows : List {row : ScrapedProduct // row.url = url})
  /-- The portal's not-found page. -/
  | notFound
  | unreadable
  /-- `ScraperLoginError`. -/
  | loginLost (raised : Raised)

structure Portal where
  /-- `open_browser` and `login`. -/
  opens : Except Raised Unit
  productUrls : Except Raised (List String)
  scrapeProduct : (url : String) → PageOutcome url

structure Scraper where
  supplier : ℕ
  limit : Option ℤ := none
  force : Bool := false
  refreshOld : Bool := false

/-! ## Choosing the pages -/

/-- `sorted(set(urls))`. -/
def sortedUrls (urls : List String) : List String :=
  urls.dedup.insertionSort (· ≤ ·)

/-- `items[:limit]`. -/
def upTo {α : Type} (limit : Option ℤ) (items : List α) : List α :=
  match limit with
  | none => items
  | some limit => items.take (if 0 ≤ limit then limit else items.length + limit).toNat

def Catalogue.knownUrls (db : Catalogue) (supplier : ℕ) : List String :=
  (db.products.rows.filter fun product => product.supplier = supplier).map SupplierProduct.url

def Scraper.selectUrls (scraper : Scraper) (db : Catalogue) (published : List String) : List String :=
  upTo scraper.limit <|
    if scraper.force || scraper.refreshOld then sortedUrls published
    else sortedUrls (published.filter fun url => url ∉ db.knownUrls scraper.supplier)

/-! ## Reading and saving -/

def saveBatchSize : ℕ := 50

structure ScrapeOutcome where
  succeeded : ℕ := 0
  failed : ℕ := 0
  refused : ℕ := 0
  saved : ℕ := 0

/-- The locals of `_visit`, with the tables and the URLs reported gone. -/
structure Visiting where
  db : Catalogue
  outcome : ScrapeOutcome := {}
  batch : List ScrapedProduct := []
  notFoundUrls : List String := []

/-- `save_products`: the tables, and how many rows the database refused. -/
def saveProducts (supplier : ℕ) (db : Catalogue) (products : List ScrapedProduct) : Catalogue × ℕ :=
  (products.foldl (fun db product => saveProduct db supplier product) db,
    products.countP fun product => !product.storable)

def Visiting.saveBatch (supplier : ℕ) (visiting : Visiting) : Visiting :=
  let (db, refused) := saveProducts supplier visiting.db visiting.batch
  { visiting with
    db := db
    batch := []
    outcome := { visiting.outcome with
      refused := visiting.outcome.refused + refused
      saved := visiting.outcome.saved + (visiting.batch.length - refused) } }

def Visiting.failedPage (visiting : Visiting) : Visiting :=
  { visiting with outcome := { visiting.outcome with failed := visiting.outcome.failed + 1 } }

/-- The rows of a page put to the batch, which is saved where it is full. -/
def Visiting.readPage (supplier : ℕ) (visiting : Visiting) (rows : List ScrapedProduct) : Visiting :=
  let visiting := { visiting with
    batch := visiting.batch ++ rows
    outcome := { visiting.outcome with succeeded := visiting.outcome.succeeded + 1 } }
  if saveBatchSize ≤ visiting.batch.length then visiting.saveBatch supplier else visiting

/-- `_visit`: what is left, and what stopped it. -/
def visit (supplier : ℕ) (page : (url : String) → PageOutcome url) :
    Visiting → List String → Visiting × Option Raised
  | visiting, [] => (if visiting.batch.isEmpty then visiting else visiting.saveBatch supplier, none)
  | visiting, url :: urls =>
      match page url with
      | .loginLost raised => (visiting, some raised)
      | .unreadable => visit supplier page visiting.failedPage urls
      | .notFound =>
          visit supplier page
            { visiting.failedPage with notFoundUrls := url :: visiting.notFoundUrls } urls
      | .read [] => visit supplier page visiting.failedPage urls
      | .read (row :: rows) =>
          visit supplier page (visiting.readPage supplier ((row :: rows).map Subtype.val)) urls

def ScrapeOutcome.unhealthyReason (outcome : ScrapeOutcome) : Option String :=
  let attempted := outcome.succeeded + outcome.failed
  let rowsHandled := outcome.saved + outcome.refused
  if attempted = 0 then none
  else if outcome.succeeded = 0 then
    some (s!"No product page could be read: all {attempted} failed. " ++
      "The portal's markup has probably changed.")
  else if (1 : ℚ) / 2 < (outcome.failed : ℚ) / attempted then
    some (s!"{outcome.failed} of {attempted} product pages could not be read " ++
      "(over the 50% failure threshold).")
  else if rowsHandled ≠ 0 ∧ (1 : ℚ) / 2 < (outcome.refused : ℚ) / rowsHandled then
    some (s!"The database refused {outcome.refused} of {rowsHandled} scraped " ++
      "rows (over the 50% threshold). Each refusal " ++
      "has an AppError row naming the product and the field.")
  else none

/-! ## Retiring -/

/-- The URLs of the supplier's products that are not discontinued, each once. -/
def Catalogue.liveUrls (db : Catalogue) (supplier : ℕ) : List String :=
  ((db.products.rows.filter fun product =>
    product.supplier = supplier ∧ product.isDiscontinued = false).map SupplierProduct.url).dedup

/-- The sitemap lists less than `MIN_SITEMAP_COVERAGE` of the live catalogue. -/
def Catalogue.collapsed (db : Catalogue) (supplier : ℕ) (published : List String) : Bool :=
  let live := db.liveUrls supplier
  let stillListed := live.filter fun url => url ∈ published
  !live.isEmpty && decide ((stillListed.length : ℚ) / live.length < 1 / 2)

def Scraper.mayRetire (scraper : Scraper) : Bool :=
  scraper.limit.isNone

def Scraper.reconcileCatalogue (scraper : Scraper) (db : Catalogue) (published : List String) :
    Catalogue :=
  if !scraper.mayRetire then db
  else if db.collapsed scraper.supplier published then
    flagDiscontinued db scraper.supplier published false
  else
    let vanished := (db.knownUrls scraper.supplier).filter fun url => url ∉ published
    flagDiscontinued (flagDiscontinued db scraper.supplier vanished true) scraper.supplier published false

def Scraper.retireNotFound (scraper : Scraper) (db : Catalogue) (notFoundUrls : List String) :
    Catalogue :=
  if scraper.mayRetire then flagDiscontinued db scraper.supplier notFoundUrls true else db

/-! ## A run -/

inductive JobStatus where
  | completed
  | failed
deriving DecidableEq

structure ScrapeJob where
  status : JobStatus
  productsScraped : ℕ := 0
  productsFailed : ℕ := 0
  errorMessage : Option String := none

/-- `run`, with the tables it leaves; where it raises, the job is the one it saved before that. -/
def Scraper.run (readDecimal : String → Option ℚ) (scraper : Scraper) (portal : Portal)
    (replies : List LlmReply) (db : Catalogue) : Catalogue × ScrapeJob :=
  match portal.opens with
  | .error raised => (db, { status := .failed, errorMessage := some raised.said })
  | .ok () =>
      match portal.productUrls with
      | .error raised => (db, { status := .failed, errorMessage := some raised.said })
      | .ok [] => (db, { status := .failed, errorMessage := some "No product URLs found" })
      | .ok (url :: urls) =>
          let published := url :: urls
          match visit scraper.supplier portal.scrapeProduct { db := db }
            (scraper.selectUrls db published) with
          | (visited, some raised) =>
              (visited.db, { status := .failed, errorMessage := some raised.said })
          | (visited, none) =>
              let counted (status : JobStatus) (message : Option String) : ScrapeJob :=
                { status := status
                  productsScraped := visited.outcome.succeeded
                  productsFailed := visited.outcome.failed
                  errorMessage := message }
              match visited.outcome.unhealthyReason with
              | some reason => (visited.db, counted .failed (some reason))
              | none =>
                  let swept := if scraper.refreshOld
                    then scraper.reconcileCatalogue visited.db published else visited.db
                  let retired := scraper.retireNotFound swept visited.notFoundUrls
                  let refused := visited.outcome.refused
                  (populateAllMappings readDecimal retired replies, counted .completed <|
                    if refused = 0 then none
                    else some (s!"{refused} scraped products were refused by the database " ++
                      "(see the AppError rows for this run)"))

/-! ## Which products are discontinued -/

/-- What a table says of a product's key: `(supplier, url, itemNo, variantId)`. -/
abbrev ProductKey := ℕ × String × String × String

/-- The keys of the products, with their flags. -/
def Catalogue.flags (db : Catalogue) : List (ProductKey × Bool) :=
  db.products.rows.map fun product => (product.key, product.isDiscontinued)

/-- A product of the key is stored. -/
def Catalogue.Known (db : Catalogue) (key : ProductKey) : Prop :=
  ∃ product ∈ db.products.rows, product.key = key

/-- The product of the key is stored, and discontinued. -/
def Catalogue.Discontinued (db : Catalogue) (key : ProductKey) : Prop :=
  ∃ product ∈ db.products.rows, product.key = key ∧ product.isDiscontinued = true

section Flags

variable {db db' : Catalogue} {key : ProductKey} {supplier : ℕ}

lemma discontinued_iff : db.Discontinued key ↔ (key, true) ∈ db.flags := by
  unfold Catalogue.Discontinued Catalogue.flags
  simp [Prod.ext_iff]

lemma known_iff : db.Known key ↔ key ∈ db.flags.map Prod.fst := by
  unfold Catalogue.Known Catalogue.flags
  simp

lemma Catalogue.Discontinued.known (h : db.Discontinued key) : db.Known key :=
  h.imp fun _ hproduct => ⟨hproduct.1, hproduct.2.1⟩

lemma flags_of_products (h : db'.products = db.products) : db'.flags = db.flags := by
  unfold Catalogue.flags
  rw [h]

lemma discontinued_congr (h : db'.flags = db.flags) : db'.Discontinued key ↔ db.Discontinued key := by
  rw [discontinued_iff, discontinued_iff, h]

lemma known_congr (h : db'.flags = db.flags) : db'.Known key ↔ db.Known key := by
  rw [known_iff, known_iff, h]

/-- A row saved leaves the flags as they are: over a product of its key it keeps the product's flag, and
a new product is live. -/
lemma discontinued_saveProduct {scraped : ScrapedProduct} :
    (saveProduct db supplier scraped).Discontinued key ↔ db.Discontinued key := by
  unfold saveProduct
  split
  · split
    · rename_i product hfound
      refine discontinued_congr ?_
      have hkey : (scraped.on product).key = product.key := rfl
      unfold Catalogue.flags
      rw [Table.rows_put, List.map_map]
      refine List.map_congr_left fun other hother => ?_
      simp only [Function.comp_apply]
      split <;> rename_i heq
      · rw [hkey] at heq
        rw [Table.eq_of_key_eq hother (Table.mem_of_find? hfound) heq]
        rfl
      · rfl
    · split
      · rename_i hnone _ products hinsert
        have hnew : ∀ product ∈ db.products.rows, product.key ≠ (scraped.made supplier).key :=
          Table.find?_eq_none_iff.mp hnone
        have hstamped : ({ db with products := products }.createMappingRecord
            (scraped.made supplier)).flags = db.flags ++ [((scraped.made supplier).key, false)] := by
          unfold Catalogue.createMappingRecord Catalogue.flags
          simp only [Table.rows_put, List.map_map]
          rw [Table.rows_insert? hinsert, List.map_append]
          refine congr_arg₂ _ (List.map_congr_left fun product hproduct => ?_) ?_
          · have hne : product.key ≠ SupplierProduct.key
                { scraped.made supplier with mappingHash := some (scraped.made supplier).hashSource } :=
              hnew product hproduct
            simp only [Function.comp_apply]
            rw [if_neg hne]
          · simp [SupplierProduct.key, ScrapedProduct.made]
        rw [discontinued_iff, discontinued_iff, hstamped]
        simp
      · rfl
  · rfl

lemma discontinued_saveProducts {products : List ScrapedProduct} :
    (saveProducts supplier db products).1.Discontinued key ↔ db.Discontinued key := by
  unfold saveProducts
  induction products generalizing db with
  | nil => rfl
  | cons product products ih => exact ih.trans discontinued_saveProduct

lemma known_flagDiscontinued {urls : List String} {flag : Bool} :
    (flagDiscontinued db supplier urls flag).Known key ↔ db.Known key := by
  rw [known_iff, known_iff]
  unfold flagDiscontinued Catalogue.flags
  rw [Table.rows_modify, List.map_map, List.map_map, List.map_map]
  refine iff_of_eq (congr_arg _ (List.map_congr_left fun product _ => ?_))
  simp only [Function.comp_apply]
  split <;> rfl

lemma discontinued_flagDiscontinued {urls : List String} {flag : Bool} :
    (flagDiscontinued db supplier urls flag).Discontinued key ↔
      if key.1 = supplier ∧ key.2.1 ∈ urls then flag = true ∧ db.Known key
      else db.Discontinued key := by
  unfold flagDiscontinued Catalogue.Discontinued Catalogue.Known
  simp only [Table.rows_modify, List.mem_map]
  constructor
  · rintro ⟨_, ⟨product, hproduct, rfl⟩, hkey, hflag⟩
    have hkey : product.key = key := by
      split at hkey <;> exact hkey
    subst hkey
    by_cases hat : product.supplier = supplier ∧ product.url ∈ urls
    · rw [if_pos hat] at hflag
      rw [if_pos (show product.key.1 = supplier ∧ product.key.2.1 ∈ urls from hat)]
      exact ⟨hflag, product, hproduct, rfl⟩
    · rw [if_neg hat] at hflag
      rw [if_neg (show ¬(product.key.1 = supplier ∧ product.key.2.1 ∈ urls) from hat)]
      exact ⟨product, hproduct, rfl, hflag⟩
  · split <;> rename_i hat
    · rintro ⟨rfl, product, hproduct, rfl⟩
      refine ⟨_, ⟨product, hproduct, rfl⟩, ?_⟩
      rw [if_pos (show product.supplier = supplier ∧ product.url ∈ urls from hat)]
      exact ⟨rfl, rfl⟩
    · rintro ⟨product, hproduct, rfl, hflag⟩
      refine ⟨_, ⟨product, hproduct, rfl⟩, ?_⟩
      rw [if_neg (show ¬(product.supplier = supplier ∧ product.url ∈ urls) from hat)]
      exact ⟨rfl, hflag⟩

end Flags

/-! ## The fill leaves the flags -/

section Fill

variable {readDecimal : String → Option ℚ} {db : Catalogue} {replies : List LlmReply}

lemma flags_applyMapping {mapping : ProductParsingMapping} : (applyMapping db mapping).flags = db.flags := by
  unfold applyMapping Catalogue.flags
  rw [Table.rows_modify, List.map_map]
  refine List.map_congr_left fun product _ => ?_
  simp only [Function.comp_apply]
  split <;> rfl

lemma products_saveMapping {product : ProductInput} {parsed : Json.Members} {rows : List Json.Members}
    {saved : Catalogue × ProductParsingMapping}
    (h : saveMapping readDecimal db product parsed rows = some saved) :
    saved.1.products = db.products := by
  unfold saveMapping at h
  split at h
  · split at h
    · obtain ⟨mappings, -, rfl⟩ := Option.map_eq_some_iff.mp h
      rfl
    · cases h
  · split at h
    · exact Option.some.inj h ▸ rfl
    split at h
    · exact Option.some.inj h ▸ rfl
    · cases h

lemma products_parseProduct {product : ProductInput} :
    (parseProduct readDecimal db replies product).1.products = db.products := by
  unfold parseProduct
  split
  · rfl
  split <;> try rfl
  split
  · rfl
  · rename_i hsaved
    exact products_saveMapping hsaved

lemma products_parseEach {products : List ProductInput} :
    (parseEach readDecimal db replies products).1.products = db.products := by
  induction products generalizing db replies with
  | nil => rfl
  | cons product products ih =>
      have hone := @products_parseProduct readDecimal db replies product
      unfold parseEach
      split <;> rename_i hparsed <;> rw [hparsed] at hone
      · exact hone
      · exact ih.trans hone

lemma products_saveAnswers {rows : List Json.Members} {answers : List (ProductInput × Json.Members)} :
    (saveAnswers readDecimal rows db answers).1.products = db.products := by
  induction answers generalizing db with
  | nil => rfl
  | cons answer answers ih =>
      unfold saveAnswers
      split
      · rfl
      · rename_i hsaved
        exact ih.trans (products_saveMapping hsaved)

lemma products_parseProductsBatch {products : List ProductInput} :
    (parseProductsBatch readDecimal db replies products).1.products = db.products := by
  unfold parseProductsBatch
  simp only
  split
  · rfl
  split
  · rfl
  · rfl
  · exact products_parseEach
  · split
    · exact products_saveAnswers
    · exact products_parseEach

lemma flags_applyResults {each : List (ProductParsingMapping × Option ProductParsingMapping)} :
    (applyResults db each).flags = db.flags := by
  induction each generalizing db with
  | nil => rfl
  | cons result each ih =>
      obtain ⟨mapping, _ | _⟩ := result <;> unfold applyResults
      · exact ih
      · split
        · exact ih.trans flags_applyMapping
        · exact ih

lemma flags_fillBatches {batches : List (List ProductParsingMapping)} :
    (fillBatches readDecimal db replies batches).flags = db.flags := by
  induction batches generalizing db replies with
  | nil => rfl
  | cons batch batches ih =>
      have hbatch := @products_parseProductsBatch readDecimal db replies
        (batch.map inputFromMapping)
      unfold fillBatches
      split <;> rename_i hparsed <;> rw [hparsed] at hbatch
      · exact flags_of_products hbatch
      · exact (ih.trans flags_applyResults).trans (flags_of_products hbatch)

lemma flags_populateAllMappings : (populateAllMappings readDecimal db replies).flags = db.flags :=
  flags_fillBatches

end Fill

/-! ## The pages visited -/

section Visits

variable {supplier : ℕ} {page : (url : String) → PageOutcome url} {visiting : Visiting}
  {urls : List String} {key : ProductKey} {url : String}

lemma discontinued_saveBatch :
    (visiting.saveBatch supplier).db.Discontinued key ↔ visiting.db.Discontinued key :=
  discontinued_saveProducts

lemma discontinued_readPage {rows : List ScrapedProduct} :
    (visiting.readPage supplier rows).db.Discontinued key ↔ visiting.db.Discontinued key := by
  unfold Visiting.readPage
  simp only
  split
  · exact discontinued_saveBatch
  · rfl

lemma notFoundUrls_readPage {rows : List ScrapedProduct} :
    (visiting.readPage supplier rows).notFoundUrls = visiting.notFoundUrls := by
  unfold Visiting.readPage
  simp only
  split <;> rfl

lemma discontinued_visit :
    (visit supplier page visiting urls).1.db.Discontinued key ↔ visiting.db.Discontinued key := by
  induction urls generalizing visiting with
  | nil =>
      unfold visit
      split
      · rfl
      · exact discontinued_saveBatch
  | cons url urls ih =>
      unfold visit
      split
      · rfl
      · exact ih
      · exact ih
      · exact ih
      · exact ih.trans discontinued_readPage

lemma mem_notFoundUrls_visit (h : (visit supplier page visiting urls).2 = none) :
    url ∈ (visit supplier page visiting urls).1.notFoundUrls ↔
      url ∈ visiting.notFoundUrls ∨ url ∈ urls ∧ page url = .notFound := by
  induction urls generalizing visiting with
  | nil =>
      unfold visit
      split <;> simp [Visiting.saveBatch]
  | cons first urls ih =>
      have hrest (hfirst : page first ≠ .notFound) :
          url ∈ first :: urls ∧ page url = .notFound ↔ url ∈ urls ∧ page url = .notFound := by
        refine and_congr_left fun hgone => ?_
        have hne : url ≠ first := by
          rintro rfl
          exact hfirst hgone
        rw [List.mem_cons, or_iff_right hne]
      unfold visit at h ⊢
      split at h
      · cases h
      · rename_i hpage
        rw [hrest (by rw [hpage]; nofun)]
        exact ih h
      · rename_i hpage
        rw [ih h]
        simp only [List.mem_cons, or_and_right]
        constructor
        · rintro ((rfl | hold) | hlater)
          exacts [.inr (.inl ⟨rfl, hpage⟩), .inl hold, .inr (.inr hlater)]
        · rintro (hold | ⟨rfl, -⟩ | hlater)
          exacts [.inl (.inr hold), .inl (.inl rfl), .inr hlater]
      · rename_i hpage
        rw [hrest (by rw [hpage]; nofun)]
        exact ih h
      · rename_i hpage
        rw [hrest (by rw [hpage]; nofun), ih h, notFoundUrls_readPage]

end Visits

/-! ## What a run concludes -/

/-- The pages a run visits. -/
def Scraper.visited (scraper : Scraper) (portal : Portal) (db : Catalogue) (published : List String) :
    Visiting × Option Raised :=
  visit scraper.supplier portal.scrapeProduct { db := db } (scraper.selectUrls db published)

/-- The portal answered for the URL with its not-found page. -/
def ReportedGone (scraper : Scraper) (portal : Portal) (db : Catalogue) (published : List String)
    (url : String) : Prop :=
  url ∈ scraper.selectUrls db published ∧ portal.scrapeProduct url = .notFound

/-- The sweep is made: the run is a refresh, and the sitemap covers the live catalogue to the floor. -/
def Sweeps (scraper : Scraper) (portal : Portal) (db : Catalogue) (published : List String) : Prop :=
  scraper.refreshOld = true ∧
    (scraper.visited portal db published).1.db.collapsed scraper.supplier published = false

/-- The products `after` a run of the scraper are discontinued as they may be. -/
structure RetiresSafely (scraper : Scraper) (portal : Portal) (db : Catalogue)
    (after : Catalogue × ScrapeJob) : Prop where
  /-- A run that fails, or is limited, discontinues nothing. -/
  refuses : after.2.status = .failed ∨ scraper.limit ≠ none →
    ∀ key, after.1.Discontinued key → db.Discontinued key
  /-- A run that makes no sweep discontinues what was reported gone, and nothing by absence. -/
  noAbsence : ∀ published, portal.productUrls = .ok published →
    ¬Sweeps scraper portal db published →
      ∀ key, after.1.Discontinued key →
        db.Discontinued key ∨ ReportedGone scraper portal db published key.2.1
  /-- After a sweep: the products whose URL is unpublished, or was reported gone. -/
  sweeps : ∀ published, portal.productUrls = .ok published → Sweeps scraper portal db published →
    after.2.status = .completed → scraper.limit = none →
      ∀ key, after.1.Known key → key.1 = scraper.supplier →
        (after.1.Discontinued key ↔
          key.2.1 ∉ published ∨ ReportedGone scraper portal db published key.2.1)
  /-- What was reported gone is discontinued, whether or not there was a sweep. -/
  gone : ∀ published, portal.productUrls = .ok published →
    after.2.status = .completed → scraper.limit = none →
      ∀ key, after.1.Known key → key.1 = scraper.supplier →
        ReportedGone scraper portal db published key.2.1 → after.1.Discontinued key
  /-- What was read with data is not left discontinued, by a refresh or by a run that is not forced. -/
  seen : ∀ published, portal.productUrls = .ok published →
    after.2.status = .completed → scraper.limit = none →
      scraper.refreshOld = true ∨ scraper.force = false →
        ∀ url ∈ scraper.selectUrls db published, ∀ rows, portal.scrapeProduct url = .read rows →
          ∀ row ∈ rows, ¬after.1.Discontinued (row.1.made scraper.supplier).key
  /-- The products of other suppliers are left alone. -/
  others : ∀ key, key.1 ≠ scraper.supplier → (after.1.Discontinued key ↔ db.Discontinued key)

section Runs

variable {readDecimal : String → Option ℚ} {scraper : Scraper} {portal : Portal}
  {replies : List LlmReply} {db : Catalogue} {published : List String} {key : ProductKey}

/-- The catalogue a healthy visit is concluded with. -/
def Scraper.concluded (scraper : Scraper) (visited : Visiting) (published : List String) : Catalogue :=
  scraper.retireNotFound
    (if scraper.refreshOld then scraper.reconcileCatalogue visited.db published else visited.db)
    visited.notFoundUrls

lemma run_cases (readDecimal : String → Option ℚ) (scraper : Scraper) (portal : Portal)
    (replies : List LlmReply) (db : Catalogue) :
    ((scraper.run readDecimal portal replies db).2.status = .failed ∧
      ∀ key, (scraper.run readDecimal portal replies db).1.Discontinued key ↔ db.Discontinued key) ∨
    ∃ published, portal.productUrls = .ok published ∧
      (scraper.visited portal db published).2 = none ∧
      (scraper.run readDecimal portal replies db).2.status = .completed ∧
      (scraper.run readDecimal portal replies db).1.flags =
        (scraper.concluded (scraper.visited portal db published).1 published).flags := by
  unfold Scraper.run
  split
  · exact .inl ⟨rfl, fun _ => Iff.rfl⟩
  split
  · exact .inl ⟨rfl, fun _ => Iff.rfl⟩
  · exact .inl ⟨rfl, fun _ => Iff.rfl⟩
  rename_i url urls hpublished
  have hflags (key) : (scraper.visited portal db (url :: urls)).1.db.Discontinued key ↔
      db.Discontinued key := discontinued_visit
  simp only
  split <;> rename_i hvisited <;>
    rw [show scraper.visited portal db (url :: urls) = _ from hvisited] at hflags
  · exact .inl ⟨rfl, hflags⟩
  split
  · exact .inl ⟨rfl, hflags⟩
  · refine .inr ⟨_, hpublished, ?_, rfl, ?_⟩
    · rw [show scraper.visited portal db (url :: urls) = _ from hvisited]
    · rw [show scraper.visited portal db (url :: urls) = _ from hvisited]
      exact flags_populateAllMappings

lemma Catalogue.Known.url_mem (h : db.Known key) (hsupplier : key.1 = scraper.supplier) :
    key.2.1 ∈ db.knownUrls scraper.supplier := by
  obtain ⟨product, hproduct, rfl⟩ := h
  exact List.mem_map.mpr ⟨product, List.mem_filter.mpr ⟨hproduct, decide_eq_true hsupplier⟩, rfl⟩

lemma known_reconcileCatalogue : (scraper.reconcileCatalogue db published).Known key ↔ db.Known key := by
  unfold Scraper.reconcileCatalogue
  simp only
  split
  · rfl
  split
  · exact known_flagDiscontinued
  · exact known_flagDiscontinued.trans known_flagDiscontinued

lemma discontinued_reconcileCatalogue (hlimit : scraper.limit = none) :
    (scraper.reconcileCatalogue db published).Discontinued key ↔
      if key.1 = scraper.supplier then
        key.2.1 ∉ published ∧ (db.Discontinued key ∨
          db.collapsed scraper.supplier published = false ∧ db.Known key)
      else db.Discontinued key := by
  have hmay : scraper.mayRetire = true := by
    unfold Scraper.mayRetire
    rw [hlimit]
    rfl
  unfold Scraper.reconcileCatalogue
  rw [if_neg (by rw [hmay]; decide)]
  by_cases hsupplier : key.1 = scraper.supplier
  · rw [if_pos hsupplier]
    by_cases hpublished : key.2.1 ∈ published
    · -- restored last, whatever was retired before it
      split <;> rw [discontinued_flagDiscontinued, if_pos ⟨hsupplier, hpublished⟩] <;> simp [hpublished]
    · split <;> rename_i hcollapsed <;>
        rw [discontinued_flagDiscontinued, if_neg fun h => hpublished h.2]
      · simp [hpublished, hcollapsed]
      · rw [discontinued_flagDiscontinued, Bool.not_eq_true _ |>.mp hcollapsed]
        simp only [hpublished, not_false_iff, true_and, hsupplier]
        constructor
        · intro h
          split at h
          exacts [.inr h, .inl h]
        · intro h
          have hknown : db.Known key := h.elim Catalogue.Discontinued.known id
          rw [if_pos (by simpa [hpublished] using hknown.url_mem hsupplier)]
          exact hknown
  · rw [if_neg hsupplier]
    split <;> rw [discontinued_flagDiscontinued, if_neg fun h => hsupplier h.1]
    rw [discontinued_flagDiscontinued, if_neg fun h => hsupplier h.1]

lemma known_concluded {visited : Visiting} :
    (scraper.concluded visited published).Known key ↔ visited.db.Known key := by
  unfold Scraper.concluded Scraper.retireNotFound
  split
  · rw [known_flagDiscontinued]
    split
    exacts [known_reconcileCatalogue, Iff.rfl]
  · split
    exacts [known_reconcileCatalogue, Iff.rfl]

lemma concluded_of_limit {visited : Visiting} (hlimit : scraper.limit ≠ none) :
    scraper.concluded visited published = visited.db := by
  have hmay : scraper.mayRetire = false := by
    unfold Scraper.mayRetire
    rw [← Option.not_isSome, Bool.not_eq_false']
    exact Option.isSome_iff_ne_none.mpr hlimit
  unfold Scraper.concluded Scraper.retireNotFound Scraper.reconcileCatalogue
  simp [hmay]

lemma discontinued_concluded {visited : Visiting} (hlimit : scraper.limit = none) :
    (scraper.concluded visited published).Discontinued key ↔
      if key.1 = scraper.supplier ∧ key.2.1 ∈ visited.notFoundUrls then visited.db.Known key
      else if scraper.refreshOld then (scraper.reconcileCatalogue visited.db published).Discontinued key
      else visited.db.Discontinued key := by
  have hmay : scraper.mayRetire = true := by
    unfold Scraper.mayRetire
    rw [hlimit]
    rfl
  unfold Scraper.concluded Scraper.retireNotFound
  rw [if_pos hmay, discontinued_flagDiscontinued]
  by_cases hat : key.1 = scraper.supplier ∧ key.2.1 ∈ visited.notFoundUrls
  · rw [if_pos hat, if_pos hat]
    rw [eq_self_iff_true, true_and]
    split
    exacts [known_reconcileCatalogue, Iff.rfl]
  · rw [if_neg hat, if_neg hat]
    split <;> rfl

lemma mem_sortedUrls {urls : List String} {url : String} : url ∈ sortedUrls urls ↔ url ∈ urls :=
  (List.perm_insertionSort _ _).mem_iff.trans List.mem_dedup

lemma mem_of_mem_upTo {α : Type} {limit : Option ℤ} {items : List α} {item : α}
    (h : item ∈ upTo limit items) : item ∈ items := by
  unfold upTo at h
  split at h
  exacts [h, List.mem_of_mem_take h]

lemma published_of_selected {url : String} (h : url ∈ scraper.selectUrls db published) :
    url ∈ published := by
  have h := mem_of_mem_upTo h
  split at h
  · exact mem_sortedUrls.mp h
  · exact (List.mem_filter.mp (mem_sortedUrls.mp h)).1

lemma unknown_of_selected {url : String} (hfresh : scraper.refreshOld = false)
    (hforce : scraper.force = false) (h : url ∈ scraper.selectUrls db published) :
    url ∉ db.knownUrls scraper.supplier := by
  have h := mem_of_mem_upTo h
  rw [hfresh, hforce] at h
  simpa using (List.mem_filter.mp (mem_sortedUrls.mp h)).2

/-- **Scraper retirement is safe.** -/
theorem retirement_is_safe (readDecimal : String → Option ℚ) (scraper : Scraper) (portal : Portal)
    (replies : List LlmReply) (db : Catalogue) :
    RetiresSafely scraper portal db (scraper.run readDecimal portal replies db) := by
  set after := scraper.run readDecimal portal replies db with hafter
  obtain ⟨hfailed, hkept⟩ | ⟨published, hpublished, hnone, hcompleted, hflags⟩ :=
    hafter ▸ run_cases readDecimal scraper portal replies db
  · have hnot : after.2.status ≠ .completed := by
      rw [hfailed]
      decide
    exact
      { refuses := fun _ key h => (hkept key).mp h
        noAbsence := fun _ _ _ key h => .inl ((hkept key).mp h)
        sweeps := fun _ _ _ hdone => absurd hdone hnot
        gone := fun _ _ hdone => absurd hdone hnot
        seen := fun _ _ hdone => absurd hdone hnot
        others := fun key _ => hkept key }
  set visited := (scraper.visited portal db published).1 with hvisited
  have hunique : ∀ other, portal.productUrls = .ok other → other = published := fun other hother =>
    Except.ok.inj (hother.symm.trans hpublished)
  have hbefore (key) : visited.db.Discontinued key ↔ db.Discontinued key := discontinued_visit
  have hgone (url) : url ∈ visited.notFoundUrls ↔ ReportedGone scraper portal db published url := by
    rw [hvisited]
    unfold Scraper.visited
    rw [mem_notFoundUrls_visit hnone]
    simp [ReportedGone]
  have hknown (key) : after.1.Known key ↔ visited.db.Known key :=
    (known_congr hflags).trans known_concluded
  have hflagged (key) : after.1.Discontinued key ↔ (scraper.concluded visited published).Discontinued key :=
    discontinued_congr hflags
  constructor
  case refuses =>
    rintro (hfailed | hlimit) key h
    · rw [hcompleted] at hfailed
      cases hfailed
    · rwa [hflagged, concluded_of_limit hlimit, hbefore] at h
  case noAbsence =>
    intro other hother hsweeps key h
    obtain rfl := hunique other hother
    rw [hflagged] at h
    by_cases hlimit : scraper.limit = none
    · rw [discontinued_concluded hlimit] at h
      split at h
      · rename_i hat
        exact .inr ((hgone _).mp hat.2)
      split at h
      · rename_i hrefresh
        rw [discontinued_reconcileCatalogue hlimit] at h
        split at h
        · have hcollapsed : ¬visited.db.collapsed scraper.supplier other = false :=
            fun hcovers => hsweeps ⟨hrefresh, hcovers⟩
          exact .inl ((hbefore key).mp (h.2.resolve_right fun h => hcollapsed h.1))
        · exact .inl ((hbefore key).mp h)
      · exact .inl ((hbefore key).mp h)
    · rw [concluded_of_limit hlimit] at h
      exact .inl ((hbefore key).mp h)
  case sweeps =>
    intro other hother hsweeps _ hlimit key hkey hsupplier
    obtain rfl := hunique other hother
    have hkey := (hknown key).mp hkey
    rw [hflagged, discontinued_concluded hlimit, if_pos hsweeps.1,
      discontinued_reconcileCatalogue hlimit, if_pos hsupplier, ← hgone]
    by_cases hreported : key.2.1 ∈ visited.notFoundUrls
    · rw [if_pos ⟨hsupplier, hreported⟩]
      exact iff_of_true hkey (.inr hreported)
    · rw [if_neg fun h => hreported h.2, or_iff_left hreported]
      exact and_iff_left (.inr ⟨hsweeps.2, hkey⟩)
  case gone =>
    intro other hother _ hlimit key hkey hsupplier hreported
    obtain rfl := hunique other hother
    rw [hflagged, discontinued_concluded hlimit, if_pos ⟨hsupplier, (hgone _).mpr hreported⟩]
    exact (hknown key).mp hkey
  case seen =>
    intro other hother _ hlimit hhow url hurl rows hrows row _ h
    obtain rfl := hunique other hother
    have hrow : (row.1.made scraper.supplier).key.2.1 = url := row.2
    have hread : ¬ReportedGone scraper portal db other url := by
      rintro ⟨-, hpage⟩
      rw [hrows] at hpage
      cases hpage
    have hsupplier : (row.1.made scraper.supplier).key.1 = scraper.supplier := rfl
    rw [hflagged, discontinued_concluded hlimit, if_neg fun h => hread ((hgone _).mp (hrow ▸ h.2))] at h
    split at h
    · rw [discontinued_reconcileCatalogue hlimit, if_pos hsupplier, hrow] at h
      exact h.1 (published_of_selected hurl)
    · rename_i hfresh
      have hforce : scraper.force = false := hhow.resolve_left hfresh
      have hstored := @Catalogue.Known.url_mem scraper _ _ ((hbefore _).mp h).known rfl
      rw [hrow] at hstored
      exact unknown_of_selected (Bool.not_eq_true _ |>.mp hfresh) hforce hurl hstored
  case others =>
    intro key hother
    rw [hflagged]
    by_cases hlimit : scraper.limit = none
    · rw [discontinued_concluded hlimit, if_neg fun h => hother h.1]
      split
      · rw [discontinued_reconcileCatalogue hlimit, if_neg hother, hbefore]
      · exact hbefore key
    · rw [concluded_of_limit hlimit, hbefore]

/-- A run that is not a refresh completes and leaves an unpublished product live. -/
theorem unpublished_product_stays_live :
    let flat : ScrapedProduct := { itemNo := "F1", variantId := "1", productName := "Flat", url := "/flat" }
    let angle : ScrapedProduct := { itemNo := "A1", variantId := "1", productName := "Angle", url := "/angle" }
    let db := [flat, angle].foldl (fun db product => saveProduct db 1 product) ⟨.empty, .empty, []⟩
    let scraper : Scraper := { supplier := 1 }
    let portal : Portal := ⟨.ok (), .ok ["/flat"], fun _ => .unreadable⟩
    let after := scraper.run (fun _ => none) portal [] db
    after.2.status = .completed ∧ scraper.limit = none ∧
      ∃ product ∈ after.1.products.rows, product.url ∉ ["/flat"] ∧ product.isDiscontinued = false := by
  decide +kernel

end Runs

end Docketworks.Quoting
