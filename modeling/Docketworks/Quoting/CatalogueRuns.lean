import Docketworks.Quoting.SupplierProducts

/-!
# Products and their mappings

Whether every product carries the mapping of its text, after every run of scraped rows, fills, parses
and validations.

* `Carries` — each product is stamped with its text, the text has a mapping, and a mapping someone has
  answered for has its values on the product.
* `Lags`, `Answered` — what holds between an answer saved and its values put on the products.
* `Meets` — what the events do not see to themselves.
* `products_carry_their_mappings` — every run whose events meet it.

**Design.**  A product is stamped when it is made and not again, and takes its values when a fill or an
operator answers for its text; a row saved over it and a product made for a text already answered for do
neither.  A fill saves a whole batch of answers before it puts the first on its products.
-/

namespace Docketworks.Quoting

open Library

/-! ## The invariant -/

/-- Every product is stamped with its text, and the text has a mapping. -/
def Stamped (db : Catalogue) : Prop :=
  ∀ product ∈ db.products.rows, product.mappingHash = some product.hashSource ∧
    (db.mappings.find? product.hashSource).isSome

/-- Products of the texts `late` apart, the values of an authoritative mapping are on its products. -/
def Lags (db : Catalogue) (late : String → Prop) : Prop :=
  ∀ product ∈ db.products.rows, ∀ mapping ∈ db.mappings.find? product.hashSource,
    authoritative mapping = true → product.parsed = mapping.mapped ∨ late product.hashSource

/-- **Every product carries its mapping.** -/
def Carries (db : Catalogue) : Prop :=
  ∀ product ∈ db.products.rows, product.mappingHash = some product.hashSource ∧
    ∃ mapping, db.mappings.find? product.hashSource = some mapping ∧
      (authoritative mapping = true → product.parsed = mapping.mapped)

instance (db : Catalogue) : Decidable (Carries db) :=
  decidable_of_iff (∀ product ∈ db.products.rows, product.mappingHash = some product.hashSource ∧
      (db.mappings.find? product.hashSource).any fun mapping =>
        !authoritative mapping || product.parsed = mapping.mapped) <| by
    refine forall₂_congr fun product _ => and_congr_right fun _ => ?_
    simp [Option.any_eq_true, imp_iff_not_or]

lemma carries_iff {db : Catalogue} : Carries db ↔ Stamped db ∧ Lags db fun _ => False := by
  constructor
  · refine fun h => ⟨fun product hproduct => ?_, fun product hproduct mapping hfound hauth => ?_⟩
    · obtain ⟨hstamp, mapping, hfound, -⟩ := h product hproduct
      exact ⟨hstamp, hfound ▸ rfl⟩
    · obtain ⟨-, mapping', hfound', hcarried⟩ := h product hproduct
      obtain rfl := Option.some.inj (hfound'.symm.trans hfound)
      exact .inl (hcarried hauth)
  · rintro ⟨hstamped, hlags⟩ product hproduct
    obtain ⟨hstamp, hsome⟩ := hstamped product hproduct
    obtain ⟨mapping, hfound⟩ := Option.isSome_iff_exists.mp hsome
    exact ⟨hstamp, mapping, hfound, fun hauth =>
      (hlags product hproduct mapping hfound hauth).resolve_right id⟩

lemma Lags.mono {db : Catalogue} {late late' : String → Prop} (h : Lags db late)
    (hlate : ∀ text, late text → late' text) : Lags db late' :=
  fun product hproduct mapping hfound hauth =>
    (h product hproduct mapping hfound hauth).imp_right (hlate _)

/-! ## Answers saved -/

/-- Mappings are answered for: no product changes, no mapping goes, and only those of `texts` change. -/
structure Answered (db db' : Catalogue) (texts : List String) : Prop where
  products : db'.products = db.products
  stays : ∀ text, (db.mappings.find? text).isSome → (db'.mappings.find? text).isSome
  others : ∀ text ∉ texts, db'.mappings.find? text = db.mappings.find? text

section Saving

variable {readDecimal : String → Option ℚ} {db db' db'' : Catalogue} {texts texts' : List String}
  {late : String → Prop} {product : ProductInput} {parsed : Json.Members} {mapping : ProductParsingMapping}

lemma Answered.refl (db : Catalogue) (texts : List String) : Answered db db texts :=
  ⟨rfl, fun _ h => h, fun _ _ => rfl⟩

lemma Answered.trans (h : Answered db db' texts) (h' : Answered db' db'' texts') :
    Answered db db'' (texts ++ texts') where
  products := h'.products.trans h.products
  stays text hsome := h'.stays text (h.stays text hsome)
  others text htext := by
    rw [List.mem_append, not_or] at htext
    exact (h'.others text htext.2).trans (h.others text htext.1)

lemma Answered.stamped (h : Answered db db' texts) (hdb : Stamped db) : Stamped db' := by
  intro product hproduct
  rw [h.products] at hproduct
  exact ⟨(hdb product hproduct).1, h.stays _ (hdb product hproduct).2⟩

lemma Answered.lags (h : Answered db db' texts) (hdb : Lags db late) :
    Lags db' fun text => text ∈ texts ∨ late text := by
  intro product hproduct mapping hfound hauth
  rw [h.products] at hproduct
  by_cases htext : product.hashSource ∈ texts
  · exact .inr (.inl htext)
  · rw [h.others _ htext] at hfound
    exact (hdb product hproduct mapping hfound hauth).imp_right .inr

lemma answered_saveMapping {rows : List Json.Members}
    (h : saveMapping readDecimal db product parsed rows = some (db', mapping)) :
    Answered db db' [product.hashSource] := by
  unfold saveMapping at h
  split at h
  · split at h
    · obtain ⟨mappings, hinsert, hmade⟩ := Option.map_eq_some_iff.mp h
      obtain ⟨rfl, rfl⟩ := Prod.mk.inj hmade
      refine ⟨rfl, fun text hsome => Table.isSome_find?_insert? hinsert hsome, fun text htext => ?_⟩
      exact Table.find?_insert?_of_ne hinsert fun heq => htext (List.mem_singleton.mpr heq)
    · cases h
  · rename_i stored hstored
    split at h
    · obtain ⟨rfl, rfl⟩ := Prod.mk.inj (Option.some.inj h)
      exact .refl _ _
    split at h
    · obtain ⟨rfl, rfl⟩ := Prod.mk.inj (Option.some.inj h)
      have hkey : stored.inputHash = product.hashSource := Table.key_of_find? hstored
      refine ⟨rfl, fun text hsome => ?_, fun text htext => ?_⟩
      · exact Table.isSome_find?_put (r := withColumns stored _) (hkey ▸ hstored) hsome
      · exact Table.find?_put_of_ne fun heq => htext (List.mem_singleton.mpr (heq.trans hkey))
    · cases h

lemma isSome_saveMapping {rows : List Json.Members}
    (hopen : db.authoritativeMapping product.hashSource = none) :
    (saveMapping readDecimal db product parsed rows).isSome = storableAnswer readDecimal parsed := by
  unfold saveMapping
  split
  · rename_i hnone
    by_cases hstorable : storableAnswer readDecimal parsed = true
    · obtain ⟨mappings, hinsert⟩ := Table.exists_insert?
        (r := withColumns (placeholder product) (parsedColumns readDecimal parsed rows)) hnone
      rw [if_pos hstorable, hstorable, hinsert]
      rfl
    · rw [if_neg hstorable, Bool.not_eq_true _ |>.mp hstorable]
      rfl
  · rename_i stored hstored
    have hplaceholder : authoritative stored = false := by
      unfold Catalogue.authoritativeMapping at hopen
      rw [hstored] at hopen
      by_contra hauth
      rw [Option.filter_some, if_pos (Bool.not_eq_false _ |>.mp hauth)] at hopen
      cases hopen
    have hboth : (stored.isValidated || decide (stored.parserVersion = some parserVersion)) = false := by
      rw [Bool.or_comm]
      exact hplaceholder
    rw [if_neg (by rw [hboth]; exact Bool.false_ne_true)]
    split <;> rename_i hstorable
    · rw [hstorable]
      rfl
    · rw [Bool.not_eq_true _ |>.mp hstorable]
      rfl

end Saving

/-! ## A batch -/

/-- What the replies to a batch come to: a stop after an answer was saved, a stop before, or the replies
that are left. -/
inductive Leaves where
  | interrupted
  | stopped
  | on (replies : List LlmReply)

section Batches

variable (readDecimal : String → Option ℚ)

/-- What the replies to a call each come to; whether an answer was saved before. -/
def eachLeaves (saved : Bool) : ℕ → List LlmReply → Leaves
  | 0, replies => .on replies
  | n + 1, .unusable :: replies => eachLeaves saved n replies
  | n + 1, .rows [] :: replies => eachLeaves saved n replies
  | n + 1, .rows (parsed :: _) :: replies =>
      if storableAnswer readDecimal parsed then eachLeaves true n replies
      else if saved then .interrupted else .stopped
  | _ + 1, .raised :: _ => if saved then .interrupted else .stopped
  | _ + 1, [] => if saved then .interrupted else .stopped

/-- What the rows of one reply come to. -/
def rowsLeave (saved : Bool) (replies : List LlmReply) : List Json.Members → Leaves
  | [] => .on replies
  | parsed :: rows =>
      if storableAnswer readDecimal parsed then rowsLeave true replies rows
      else if saved then .interrupted else .stopped

/-- What the replies to a batch of a size come to. -/
def batchLeaves (size : ℕ) (replies : List LlmReply) : Leaves :=
  if size = 0 then .on replies
  else match replies with
  | [] => .stopped
  | .raised :: _ => .stopped
  | .unusable :: replies => eachLeaves readDecimal false size replies
  | .rows rows :: replies =>
      if rows.length = size then rowsLeave readDecimal false replies rows
      else eachLeaves readDecimal false size replies

/-- No batch stops after an answer of it was saved: no call of it raises, and no answer is one the columns
have no room for, once one has been saved. -/
def NoneInterrupted : List LlmReply → List ℕ → Prop
  | _, [] => True
  | replies, size :: sizes =>
      match batchLeaves readDecimal size replies with
      | .interrupted => False
      | .stopped => True
      | .on replies => NoneInterrupted replies sizes

instance decidableNoneInterrupted :
    ∀ replies sizes, Decidable (NoneInterrupted readDecimal replies sizes)
  | _, [] => .isTrue trivial
  | replies, size :: sizes => by
      unfold NoneInterrupted
      split
      · exact .isFalse id
      · exact .isTrue trivial
      · exact decidableNoneInterrupted _ sizes

variable {readDecimal} {db db' : Catalogue} {products : List ProductInput}
  {results : List (Option ProductParsingMapping)}

/-- The texts of the products that have a result. -/
def answeredTexts (products : List ProductInput) (results : List (Option ProductParsingMapping)) :
    List String :=
  ((products.zip results).filter fun each => each.2.isSome).map fun each => each.1.hashSource

/-- Nobody has answered for the products' texts, and no two are of one text. -/
structure Open (db : Catalogue) (products : List ProductInput) : Prop where
  nodup : (products.map ProductInput.hashSource).Nodup
  placeholders : ∀ product ∈ products, db.authoritativeMapping product.hashSource = none

lemma Open.tail {product : ProductInput} (h : Open db (product :: products)) : Open db products :=
  ⟨(List.nodup_cons.mp h.nodup).2, fun other hother =>
    h.placeholders other (List.mem_cons_of_mem _ hother)⟩

lemma Open.after {product : ProductInput} (h : Open db (product :: products))
    (hanswered : Answered db db' [product.hashSource]) : Open db' products := by
  refine ⟨h.tail.nodup, fun other hother => ?_⟩
  have hne : other.hashSource ≠ product.hashSource := fun heq =>
    (List.nodup_cons.mp h.nodup).1 (List.mem_map.mpr ⟨other, hother, heq⟩)
  unfold Catalogue.authoritativeMapping
  rw [hanswered.others _ fun hin => hne (List.mem_singleton.mp hin)]
  exact h.placeholders other (List.mem_cons_of_mem _ hother)

/-- What a batch of calls does, by what the replies to it come to. -/
def Parses (leaves : Leaves) (db : Catalogue) (products : List ProductInput)
    (parsed : Catalogue × List LlmReply × Option (List (Option ProductParsingMapping))) : Prop :=
  match leaves with
  | .interrupted => True
  | .stopped => parsed.2.2 = none ∧ Answered db parsed.1 []
  | .on replies => parsed.2.1 = replies ∧ ∃ results, parsed.2.2 = some results ∧
      results.length = products.length ∧ Answered db parsed.1 (answeredTexts products results)

lemma Parses.unanswered {leaves : Leaves} {product : ProductInput}
    {parsed : Catalogue × List LlmReply × Option (List (Option ProductParsingMapping))}
    (h : Parses leaves db products parsed) : Parses leaves db (product :: products)
      (parsed.1, parsed.2.1, parsed.2.2.map fun results => none :: results) := by
  cases leaves with
  | interrupted => trivial
  | stopped =>
      obtain ⟨hnone, hanswered⟩ := h
      exact ⟨by rw [hnone]; rfl, hanswered⟩
  | on replies =>
      obtain ⟨hreplies, results, hsome, hlength, hanswered⟩ := h
      refine ⟨hreplies, none :: results, by rw [hsome]; rfl, congrArg Nat.succ hlength, ?_⟩
      exact hanswered

lemma Parses.answered {leaves : Leaves} {product : ProductInput} {mapping : ProductParsingMapping}
    {parsed : Catalogue × List LlmReply × Option (List (Option ProductParsingMapping))}
    (hfirst : Answered db db' [product.hashSource]) (hgoes : leaves ≠ .stopped)
    (h : Parses leaves db' products parsed) : Parses leaves db (product :: products)
      (parsed.1, parsed.2.1, parsed.2.2.map fun results => some mapping :: results) := by
  cases leaves with
  | interrupted => trivial
  | stopped => exact absurd rfl hgoes
  | on replies =>
      obtain ⟨hreplies, results, hsome, hlength, hanswered⟩ := h
      refine ⟨hreplies, some mapping :: results, by rw [hsome]; rfl, congrArg Nat.succ hlength, ?_⟩
      exact hfirst.trans hanswered

lemma eachLeaves_ne_stopped {saved : Bool} {n : ℕ} {replies : List LlmReply} (hsaved : saved = true) :
    eachLeaves readDecimal saved n replies ≠ .stopped := by
  fun_induction eachLeaves readDecimal saved n replies with
  | case1 => simp
  | case2 _ _ _ ih => exact ih hsaved
  | case3 _ _ _ ih => exact ih hsaved
  | case4 _ _ _ _ _ _ ih => exact ih rfl
  | case5 => simp
  | case6 _ _ _ _ _ _ hnot => exact absurd hsaved hnot
  | case7 => simp
  | case8 _ _ _ hnot => exact absurd hsaved hnot
  | case9 => simp
  | case10 _ _ hnot => exact absurd hsaved hnot

lemma rowsLeave_ne_stopped {replies : List LlmReply} {rows : List Json.Members} :
    rowsLeave readDecimal true replies rows ≠ .stopped := by
  induction rows with
  | nil => simp [rowsLeave]
  | cons parsed rows ih =>
      unfold rowsLeave
      split
      · exact ih
      · simp

lemma parses_stop {saved : Bool} (replies : List LlmReply) :
    Parses (if saved then .interrupted else .stopped) db products (db, replies, none) := by
  cases saved with
  | true => trivial
  | false => exact ⟨rfl, .refl _ _⟩

lemma parses_parseEach {saved : Bool} {replies : List LlmReply} (hopen : Open db products) :
    Parses (eachLeaves readDecimal saved products.length replies) db products
      (parseEach readDecimal db replies products) := by
  induction products generalizing db saved replies with
  | nil => exact ⟨rfl, [], rfl, rfl, .refl _ _⟩
  | cons product products ih =>
      have hnone := hopen.placeholders product List.mem_cons_self
      rw [List.length_cons, parseEach]
      unfold parseProduct
      rw [hnone]
      match replies with
      | [] => exact parses_stop []
      | .raised :: replies => exact parses_stop replies
      | .unusable :: replies => exact (ih hopen.tail).unanswered
      | .rows [] :: replies => exact (ih hopen.tail).unanswered
      | .rows (parsed :: others) :: replies =>
          have hsaves : (saveMapping readDecimal db product parsed (parsed :: others)).isSome =
              storableAnswer readDecimal parsed := isSome_saveMapping hnone
          simp only [eachLeaves]
          cases hsave : saveMapping readDecimal db product parsed (parsed :: others) with
          | none =>
              have hfull : ¬storableAnswer readDecimal parsed = true := by
                rw [← hsaves, hsave]
                exact Bool.false_ne_true
              rw [if_neg hfull]
              exact parses_stop replies
          | some made =>
              have hroom : storableAnswer readDecimal parsed = true := by
                rw [← hsaves, hsave]
                rfl
              rw [if_pos hroom]
              have hfirst := answered_saveMapping hsave
              exact (ih (hopen.after hfirst)).answered hfirst
                (eachLeaves_ne_stopped rfl)

/-- **The rows of one reply.** -/
lemma parses_saveAnswers {saved : Bool} {replies : List LlmReply} {llmResponse rows : List Json.Members}
    (hopen : Open db products) (hlength : rows.length = products.length) :
    Parses (rowsLeave readDecimal saved replies rows) db products
      ((saveAnswers readDecimal llmResponse db (products.zip rows)).1, replies,
        (saveAnswers readDecimal llmResponse db (products.zip rows)).2) := by
  induction products generalizing db saved rows with
  | nil =>
      obtain rfl := List.length_eq_zero_iff.mp hlength
      exact ⟨rfl, [], rfl, rfl, .refl _ _⟩
  | cons product products ih =>
      match rows with
      | [] => cases hlength
      | parsed :: rows =>
          have hsaves : (saveMapping readDecimal db product parsed llmResponse).isSome =
              storableAnswer readDecimal parsed :=
            isSome_saveMapping (hopen.placeholders product List.mem_cons_self)
          rw [List.zip_cons_cons, saveAnswers, rowsLeave]
          cases hsave : saveMapping readDecimal db product parsed llmResponse with
          | none =>
              have hfull : ¬storableAnswer readDecimal parsed = true := by
                rw [← hsaves, hsave]
                exact Bool.false_ne_true
              rw [if_neg hfull]
              exact parses_stop replies
          | some made =>
              have hroom : storableAnswer readDecimal parsed = true := by
                rw [← hsaves, hsave]
                rfl
              rw [if_pos hroom]
              have hfirst := answered_saveMapping hsave
              exact (ih (hopen.after hfirst) (Nat.succ.inj hlength)).answered hfirst
                rowsLeave_ne_stopped

lemma fillIn_none {α : Type} {found : List (Option α)} {results : List (Option α)}
    (hnone : ∀ result ∈ results, result = none) (hlength : found.length = results.length) :
    fillIn results found = found := by
  induction results generalizing found with
  | nil => exact (List.length_eq_zero_iff.mp hlength).symm
  | cons result results ih =>
      match found with
      | [] => cases hlength
      | first :: found =>
          obtain rfl := hnone result List.mem_cons_self
          rw [fillIn, ih (fun other hother => hnone other (List.mem_cons_of_mem _ hother))
            (Nat.succ.inj hlength)]

/-- **A batch** nobody has answered for. -/
lemma parses_parseProductsBatch {replies : List LlmReply} (hopen : Open db products) :
    Parses (batchLeaves readDecimal products.length replies) db products
      (parseProductsBatch readDecimal db replies products) := by
  have hpending : (products.filter fun product =>
      (db.authoritativeMapping product.hashSource).isNone) = products :=
    List.filter_eq_self.mpr fun product hproduct => by rw [hopen.placeholders product hproduct]; rfl
  have hcached : ∀ result ∈ products.map fun product => db.authoritativeMapping product.hashSource,
      result = none := by
    intro result hresult
    obtain ⟨product, hproduct, rfl⟩ := List.mem_map.mp hresult
    exact hopen.placeholders product hproduct
  -- what is found is what is answered
  have hfilled : ∀ {leaves : Leaves}
      {parsed : Catalogue × List LlmReply × Option (List (Option ProductParsingMapping))},
      Parses leaves db products parsed → Parses leaves db products (parsed.1, parsed.2.1,
        parsed.2.2.map (fillIn
          (products.map fun product => db.authoritativeMapping product.hashSource))) := by
    intro leaves parsed h
    cases leaves with
    | interrupted => trivial
    | stopped =>
        obtain ⟨hnone, hanswered⟩ := h
        exact ⟨by rw [hnone]; rfl, hanswered⟩
    | on replies =>
        obtain ⟨hreplies, results, hsome, hlength, hanswered⟩ := h
        refine ⟨hreplies, results, ?_, hlength, hanswered⟩
        rw [hsome, Option.map_some, fillIn_none hcached (by rw [hlength, List.length_map])]
  unfold parseProductsBatch batchLeaves
  simp only [hpending]
  by_cases hempty : products = []
  · subst hempty
    exact ⟨rfl, [], rfl, rfl, .refl _ _⟩
  rw [if_neg (List.length_eq_zero_iff.not.mpr hempty),
    if_neg (by simpa using hempty)]
  rcases replies with _ | ⟨_ | _ | rows, replies⟩
  · exact ⟨rfl, .refl _ _⟩
  · exact ⟨rfl, .refl _ _⟩
  · exact hfilled (parses_parseEach hopen)
  · simp only
    split
    · rename_i hlength
      exact hfilled (parses_saveAnswers hopen hlength)
    · exact hfilled (parses_parseEach hopen)

end Batches

/-! ## Values put on products -/

section Applying

variable {db : Catalogue} {late : String → Prop} {mapping : ProductParsingMapping}

lemma exists_of_mem_applyMapping {product : SupplierProduct}
    (h : product ∈ (applyMapping db mapping).products.rows) :
    ∃ before ∈ db.products.rows, product.mappingHash = before.mappingHash ∧
      product.hashSource = before.hashSource ∧
        if before.mappingHash = some mapping.inputHash then product.parsed = mapping.mapped
        else product.parsed = before.parsed := by
  obtain ⟨before, hbefore, rfl⟩ := List.mem_map.mp h
  refine ⟨before, hbefore, ?_⟩
  split
  · exact ⟨rfl, rfl, rfl⟩
  · exact ⟨rfl, rfl, rfl⟩

lemma stamped_applyMapping (h : Stamped db) (mapping : ProductParsingMapping) :
    Stamped (applyMapping db mapping) := by
  intro product hproduct
  obtain ⟨before, hbefore, hstamp, htext, -⟩ := exists_of_mem_applyMapping hproduct
  rw [hstamp, htext]
  exact h before hbefore

lemma lags_applyMapping (hstamped : Stamped db)
    (hlags : Lags db fun text => text = mapping.inputHash ∨ late text)
    (hfound : db.mappings.find? mapping.inputHash = some mapping) :
    Lags (applyMapping db mapping) late := by
  intro product hproduct stored hstored hauth
  obtain ⟨before, hbefore, -, htext, hvalues⟩ := exists_of_mem_applyMapping hproduct
  have hstored' : db.mappings.find? before.hashSource = some stored := htext ▸ hstored
  rw [htext]
  by_cases hsame : before.hashSource = mapping.inputHash
  · rw [if_pos ((hstamped before hbefore).1.trans (congrArg some hsame))] at hvalues
    rw [hsame, hfound] at hstored'
    obtain rfl := Option.some.inj hstored'
    exact .inl hvalues
  · have hother : before.mappingHash ≠ some mapping.inputHash := fun heq =>
      hsame (Option.some.inj ((hstamped before hbefore).1.symm.trans heq))
    rw [if_neg hother] at hvalues
    rw [hvalues]
    exact (hlags before hbefore stored hstored' hauth).imp_right fun hlate =>
      hlate.resolve_left hsame

lemma carries_applyResults {each : List (ProductParsingMapping × Option ProductParsingMapping)}
    (hstamped : Stamped db)
    (hlags : Lags db fun text => text ∈ (each.filter fun e => e.2.isSome).map fun e => e.1.inputHash) :
    Stamped (applyResults db each) ∧ Lags (applyResults db each) fun _ => False := by
  induction each generalizing db with
  | nil => exact ⟨hstamped, hlags.mono fun _ hin => absurd hin List.not_mem_nil⟩
  | cons first rest ih =>
      obtain ⟨mapping, result⟩ := first
      cases result with
      | none => exact ih hstamped hlags
      | some result =>
          have hlate : Lags db fun text => text = mapping.inputHash ∨
              text ∈ (rest.filter fun e => e.2.isSome).map fun e => e.1.inputHash :=
            hlags.mono fun _ hin => List.mem_cons.mp hin
          unfold applyResults
          cases hfound : db.mappings.find? mapping.inputHash with
          | none =>
              refine ih hstamped fun product hproduct stored hstored hauth => ?_
              refine (hlate product hproduct stored hstored hauth).imp_right fun h => ?_
              refine h.resolve_left fun heq => ?_
              rw [heq, hfound] at hstored
              cases hstored
          | some stored =>
              have hkey := Table.key_of_find? hfound
              refine ih (stamped_applyMapping hstamped stored) ?_
              exact lags_applyMapping hstamped (hkey ▸ hlate) (hkey ▸ hfound)

lemma mappings_applyResults {each : List (ProductParsingMapping × Option ProductParsingMapping)} :
    (applyResults db each).mappings = db.mappings := by
  induction each generalizing db with
  | nil => rfl
  | cons first rest ih =>
      obtain ⟨mapping, result⟩ := first
      cases result with
      | none => exact ih
      | some result =>
          unfold applyResults
          split
          · exact ih
          · exact ih

end Applying

/-! ## A fill -/

section Filling

variable {readDecimal : String → Option ℚ} {db : Catalogue} {replies : List LlmReply}

lemma flatten_slices {α : Type} {size fuel : ℕ} {items : List α} (hsize : 0 < size)
    (hfuel : items.length ≤ fuel) : (slices size items fuel).flatten = items := by
  induction fuel generalizing items with
  | zero => rw [List.length_eq_zero_iff.mp (Nat.le_zero.mp hfuel)]; rfl
  | succ fuel ih =>
      rw [slices]
      split
      · rename_i hempty
        rw [List.isEmpty_iff.mp hempty]
        rfl
      · rename_i hne
        have hpos : 0 < items.length := List.length_pos_iff.mpr (by simpa using hne)
        rw [List.flatten_cons, ih, List.take_append_drop]
        rw [List.length_drop]
        omega

/-- Mappings to fill: nobody has answered for them, their text is their key, and no two are one. -/
structure ToFill (db : Catalogue) (mappings : List ProductParsingMapping) : Prop where
  nodup : (mappings.map ProductParsingMapping.inputHash).Nodup
  keyed : ∀ mapping ∈ mappings, (inputFromMapping mapping).hashSource = mapping.inputHash
  placeholders : ∀ mapping ∈ mappings, db.authoritativeMapping mapping.inputHash = none

lemma ToFill.texts {mappings : List ProductParsingMapping} (h : ToFill db mappings) :
    (mappings.map inputFromMapping).map ProductInput.hashSource =
      mappings.map ProductParsingMapping.inputHash := by
  rw [List.map_map]
  exact List.map_congr_left h.keyed

lemma ToFill.open {mappings : List ProductParsingMapping} (h : ToFill db mappings) :
    Open db (mappings.map inputFromMapping) := by
  refine ⟨h.texts ▸ h.nodup, fun product hproduct => ?_⟩
  obtain ⟨mapping, hmapping, rfl⟩ := List.mem_map.mp hproduct
  rw [h.keyed mapping hmapping]
  exact h.placeholders mapping hmapping

lemma ToFill.left {first rest : List ProductParsingMapping} (h : ToFill db (first ++ rest)) :
    ToFill db first :=
  ⟨(List.nodup_append.mp (List.map_append ▸ h.nodup)).1,
    fun mapping hmapping => h.keyed mapping (List.mem_append_left _ hmapping),
    fun mapping hmapping => h.placeholders mapping (List.mem_append_left _ hmapping)⟩

lemma ToFill.right {first rest : List ProductParsingMapping} {db' : Catalogue} {texts : List String}
    (h : ToFill db (first ++ rest)) (hanswered : Answered db db' texts)
    (hsub : texts ⊆ first.map ProductParsingMapping.inputHash) : ToFill db' rest := by
  obtain ⟨-, hnodup, hapart⟩ := List.nodup_append.mp (List.map_append ▸ h.nodup)
  refine ⟨hnodup, fun mapping hmapping => h.keyed mapping (List.mem_append_right _ hmapping),
    fun mapping hmapping => ?_⟩
  have hout : mapping.inputHash ∉ texts := fun hin =>
    hapart _ (hsub hin) _ (List.mem_map_of_mem hmapping) rfl
  unfold Catalogue.authoritativeMapping
  rw [hanswered.others _ hout]
  exact h.placeholders mapping (List.mem_append_right _ hmapping)

lemma answeredTexts_batch {mappings : List ProductParsingMapping}
    (hkeyed : ∀ mapping ∈ mappings, (inputFromMapping mapping).hashSource = mapping.inputHash)
    (results : List (Option ProductParsingMapping)) :
    answeredTexts (mappings.map inputFromMapping) results =
      ((mappings.zip results).filter fun e => e.2.isSome).map fun e => e.1.inputHash := by
  unfold answeredTexts
  rw [List.zip_map_left, List.filter_map, List.map_map]
  refine List.map_congr_left fun each heach => ?_
  exact hkeyed each.1 (List.of_mem_zip (List.mem_of_mem_filter heach)).1

lemma carries_fillBatches {batches : List (List ProductParsingMapping)} (hdb : Carries db)
    (hfill : ToFill db batches.flatten)
    (hwhole : NoneInterrupted readDecimal replies (batches.map List.length)) :
    Carries (fillBatches readDecimal db replies batches) := by
  induction batches generalizing db replies with
  | nil => exact hdb
  | cons batch batches ih =>
      have hbatch : Parses (batchLeaves readDecimal _ replies) db _ _ :=
        parses_parseProductsBatch hfill.left.open
      rw [List.length_map] at hbatch
      rw [List.map_cons, NoneInterrupted] at hwhole
      obtain ⟨hstamped, hlags⟩ := carries_iff.mp hdb
      unfold fillBatches
      generalize batchLeaves readDecimal batch.length replies = leaves at hbatch hwhole
      cases leaves with
      | interrupted => exact absurd hwhole id
      | stopped =>
          obtain ⟨hnone, hanswered⟩ := hbatch
          split
          · rename_i hparsed
            rw [hparsed] at hanswered
            exact carries_iff.mpr ⟨hanswered.stamped hstamped,
              (hanswered.lags hlags).mono fun _ h => h.elim (fun hin => absurd hin List.not_mem_nil) id⟩
          · rename_i hparsed
            rw [hparsed] at hnone
            cases hnone
      | on left =>
          obtain ⟨hreplies, results, hsome, -, hanswered⟩ := hbatch
          split
          · rename_i hparsed
            rw [hparsed] at hsome
            cases hsome
          · rename_i parsed replies' results' hparsed
            rw [hparsed] at hreplies hsome hanswered
            obtain rfl := Option.some.inj hsome
            obtain rfl := hreplies
            simp only at hanswered
            rw [answeredTexts_batch hfill.left.keyed] at hanswered
            have hlate := (hanswered.lags hlags).mono fun text h => h.resolve_right id
            obtain ⟨hstamped', hlags'⟩ := carries_applyResults (hanswered.stamped hstamped) hlate
            have hsub : (((batch.zip results').filter fun e => e.2.isSome).map fun e => e.1.inputHash) ⊆
                batch.map ProductParsingMapping.inputHash := by
              intro text hin
              obtain ⟨each, heach, rfl⟩ := List.mem_map.mp hin
              exact List.mem_map_of_mem (List.of_mem_zip (List.mem_of_mem_filter heach)).1
            refine ih (carries_iff.mpr ⟨hstamped', hlags'⟩) ?_ hwhole
            obtain ⟨hnodup, hkeyed, hopen⟩ := hfill.right hanswered hsub
            refine ⟨hnodup, hkeyed, fun mapping hmapping => ?_⟩
            unfold Catalogue.authoritativeMapping
            rw [mappings_applyResults]
            exact hopen mapping hmapping

lemma toFill_batchesToFill (db : Catalogue) : ToFill db db.batchesToFill.flatten := by
  have hsub : db.batchesToFill.flatten.Sublist
      (db.mappings.rows.filter fun mapping => !authoritative mapping) := by
    have hsize : 0 < batchSize := by decide
    have hslices := flatten_slices hsize
      (Nat.le_refl (db.mappings.rows.filter fun mapping => !authoritative mapping).length)
    unfold Catalogue.batchesToFill
    rw [← List.filter_flatten, hslices]
    exact List.filter_sublist
  refine ⟨db.mappings.nodup.sublist ((hsub.trans List.filter_sublist).map _), fun mapping hmapping => ?_,
    fun mapping hmapping => ?_⟩
  · obtain ⟨batch, hbatch, hin⟩ := List.mem_flatten.mp hmapping
    obtain ⟨slice, -, rfl⟩ := List.mem_map.mp hbatch
    exact of_decide_eq_true (List.mem_filter.mp hin).2
  · obtain ⟨hrow, hopen⟩ := List.mem_filter.mp (hsub.subset hmapping)
    unfold Catalogue.authoritativeMapping
    rw [Table.find?_of_mem hrow, Option.filter_some, if_neg]
    simpa using hopen

/-- **A fill** none of whose batches is interrupted leaves every product with its mapping. -/
lemma carries_populate (hdb : Carries db)
    (hwhole : NoneInterrupted readDecimal replies (db.batchesToFill.map List.length)) :
    Carries (populateAllMappings readDecimal db replies) :=
  carries_fillBatches hdb (toFill_batchesToFill db) hwhole

end Filling

/-! ## One event -/

section Events

variable {readDecimal : String → Option ℚ} {db db' : Catalogue}

/-- What the event does not see to: a row saved over a product leaves its text, and a product is made for
no text whose values someone has answered for; no batch of a fill is interrupted; and no stock row is the
first to answer for a text that products share. -/
def Meets (readDecimal : String → Option ℚ) (db : Catalogue) : CatalogueEvent → Prop
  | .saved supplier scraped => scraped.storable = true →
      match db.products.find? (scraped.made supplier).key with
      | some product => (scraped.on product).hashSource = product.hashSource
      | none => ∀ mapping ∈ db.mappings.find? (scraped.made supplier).hashSource,
          authoritative mapping = true → mapping.mapped = {}
  | .populated replies => NoneInterrupted readDecimal replies (db.batchesToFill.map List.length)
  | .stockParsed (.rows (parsed :: _) :: _) product =>
      db.authoritativeMapping product.hashSource = none → storableAnswer readDecimal parsed = true →
        ∀ shared ∈ db.products.rows, shared.hashSource = product.hashSource →
          shared.parsed = (parsedColumns readDecimal parsed []).mapped
  | _ => True

instance (db : Catalogue) (event : CatalogueEvent) : Decidable (Meets readDecimal db event) := by
  unfold Meets
  split
  · exact @instDecidableForall _ _ _ (by split <;> infer_instance)
  · infer_instance
  · have : Decidable (db.authoritativeMapping (‹ProductInput› : ProductInput).hashSource = none) :=
      decidable_of_iff _ Option.isNone_iff_eq_none
    infer_instance
  · infer_instance

lemma hashSource_input (product : SupplierProduct) :
    product.input.hashSource = product.hashSource := by
  unfold SupplierProduct.input ProductInput.hashSource SupplierProduct.hashSource
  rcases product.description with _ | text
  · rfl
  · by_cases hblank : text = "" <;> simp [hblank, Option.filter]

lemma carries_savedOver {product : SupplierProduct} {scraped : ScrapedProduct} {supplier : ℕ}
    (hdb : Carries db) (hfound : db.products.find? (scraped.made supplier).key = some product)
    (htext : (scraped.on product).hashSource = product.hashSource) :
    Carries { db with products := db.products.put (scraped.on product) } := by
  intro other hother
  rcases Table.mem_put.mp hother with ⟨hold, -⟩ | ⟨rfl, -⟩
  · exact hdb other hold
  · rw [htext]
    exact hdb product (Table.mem_of_find? hfound)

lemma carries_savedNew {products : Table SupplierProduct.key} {product : SupplierProduct}
    (hdb : Carries db) (hinsert : db.products.insert? product = some products)
    (hfresh : ∀ mapping ∈ db.mappings.find? product.hashSource,
      authoritative mapping = true → mapping.mapped = product.parsed) :
    Carries ({ db with products := products }.createMappingRecord product) := by
  intro other hother
  rcases Table.mem_put.mp hother with ⟨hold, hkey⟩ | ⟨rfl, -⟩
  · rcases (Table.mem_insert? hinsert).mp hold with hin | rfl
    · obtain ⟨hstamp, mapping, hfound, hcarried⟩ := hdb other hin
      exact ⟨hstamp, mapping, find?_inserted hfound, hcarried⟩
    · exact absurd rfl hkey
  · refine ⟨rfl, ?_⟩
    have htext : (placeholder product.input).inputHash = product.hashSource := hashSource_input product
    change ∃ mapping, ((db.mappings.insert? (placeholder product.input)).getD db.mappings).find?
      product.hashSource = some mapping ∧ _
    cases hstored : db.mappings.find? product.hashSource with
    | some mapping =>
        exact ⟨mapping, find?_inserted hstored, fun hauth => (hfresh mapping hstored hauth).symm⟩
    | none =>
        obtain ⟨mappings, hreserved⟩ := Table.exists_insert? (r := placeholder product.input)
          (htext ▸ hstored)
        refine ⟨placeholder product.input, ?_, fun hauth => by cases hauth⟩
        rw [hreserved, Option.getD_some, ← htext]
        exact Table.find?_insert?_self hreserved

lemma carries_saveProduct {supplier : ℕ} {scraped : ScrapedProduct} (hdb : Carries db)
    (hmeets : Meets readDecimal db (.saved supplier scraped)) :
    Carries (saveProduct db supplier scraped) := by
  unfold saveProduct
  split
  · rename_i hstorable
    have hmeets := hmeets hstorable
    cases hfound : db.products.find? (scraped.made supplier).key with
    | some product =>
        rw [hfound] at hmeets
        exact carries_savedOver hdb hfound hmeets
    | none =>
        rw [hfound] at hmeets
        simp only
        split
        · rename_i hinsert
          exact carries_savedNew hdb hinsert hmeets
        · exact hdb
  · exact hdb

lemma carries_flagDiscontinued {supplier : ℕ} {urls : List String} {discontinued : Bool}
    (hdb : Carries db) : Carries (flagDiscontinued db supplier urls discontinued) := by
  intro product hproduct
  obtain ⟨before, hbefore, rfl⟩ := List.mem_map.mp hproduct
  split
  · exact hdb before hbefore
  · exact hdb before hbefore

lemma carries_applied {mapping : ProductParsingMapping} (hdb : Carries db)
    (hanswered : Answered db db' [mapping.inputHash])
    (hfound : db'.mappings.find? mapping.inputHash = some mapping) :
    Carries (applyMapping db' mapping) := by
  obtain ⟨hstamped, hlags⟩ := carries_iff.mp hdb
  refine carries_iff.mpr ⟨stamped_applyMapping (hanswered.stamped hstamped) mapping, ?_⟩
  refine lags_applyMapping (hanswered.stamped hstamped) ((hanswered.lags hlags).mono ?_) hfound
  exact fun text h => h.imp_left List.mem_singleton.mp

lemma carries_validate {mapping : ProductParsingMapping} {text : String}
    {data : ProductMappingValidateData} {staff : ℕ} (hdb : Carries db)
    (hfound : db.mappings.find? text = some mapping) :
    Carries (validateProductMapping db mapping data staff) := by
  obtain ⟨hkey, -⟩ := columns_validated db.stockCodes mapping data staff
  have hstored : db.mappings.find? (validated db.stockCodes mapping data staff).inputHash =
      some mapping := by
    rw [hkey, Table.key_of_find? hfound, hfound]
  unfold validateProductMapping
  simp only
  split
  · refine carries_applied hdb ⟨rfl, fun other hsome => ?_, fun other hother => ?_⟩
      (Table.find?_put_self hstored)
    · exact Table.isSome_find?_put hstored hsome
    · exact Table.find?_put_of_ne fun heq => hother (List.mem_singleton.mpr heq)
  · exact hdb

lemma mapped_saveMapping {product : ProductInput} {parsed : Json.Members} {rows : List Json.Members}
    {mapping : ProductParsingMapping} (hopen : db.authoritativeMapping product.hashSource = none)
    (h : saveMapping readDecimal db product parsed rows = some (db', mapping)) :
    db'.mappings.find? product.hashSource = some mapping ∧
      mapping.mapped = (parsedColumns readDecimal parsed []).mapped := by
  unfold saveMapping at h
  split at h
  · split at h
    · obtain ⟨mappings, hinsert, hmade⟩ := Option.map_eq_some_iff.mp h
      obtain ⟨rfl, rfl⟩ := Prod.mk.inj hmade
      exact ⟨Table.find?_insert?_self hinsert, rfl⟩
    · cases h
  · rename_i stored hstored
    split at h
    · rename_i hauth
      unfold Catalogue.authoritativeMapping at hopen
      have hanswered : authoritative stored = true := (Bool.or_comm _ _).trans hauth
      rw [hstored, Option.filter_some, if_pos hanswered] at hopen
      cases hopen
    split at h
    · obtain ⟨rfl, rfl⟩ := Prod.mk.inj (Option.some.inj h)
      have hkey : stored.inputHash = product.hashSource := Table.key_of_find? hstored
      exact ⟨hkey ▸ Table.find?_put_self (r := withColumns stored _) (hkey ▸ hstored), rfl⟩
    · cases h

lemma carries_stockParsed {replies : List LlmReply} {product : ProductInput} (hdb : Carries db)
    (hmeets : Meets readDecimal db (.stockParsed replies product)) :
    Carries (parseProduct readDecimal db replies product).1 := by
  unfold parseProduct
  split
  · exact hdb
  rename_i hopen
  match replies with
  | [] => exact hdb
  | .raised :: _ => exact hdb
  | .unusable :: _ => exact hdb
  | .rows [] :: _ => exact hdb
  | .rows (parsed :: others) :: _ =>
      have hsaves : (saveMapping readDecimal db product parsed (parsed :: others)).isSome =
          storableAnswer readDecimal parsed := isSome_saveMapping hopen
      simp only
      split
      · exact hdb
      · rename_i left mapping hsave
        have hstorable : storableAnswer readDecimal parsed = true := by
          rw [← hsaves, hsave]
          rfl
        obtain ⟨hstamped, hlags⟩ := carries_iff.mp hdb
        have hanswered := answered_saveMapping hsave
        obtain ⟨hfound, hmapped⟩ := mapped_saveMapping hopen hsave
        refine carries_iff.mpr ⟨hanswered.stamped hstamped, fun shared hshared stored hstored hauth => ?_⟩
        rcases hanswered.lags hlags shared hshared stored hstored hauth with hcarried | hin | hnone
        · exact .inl hcarried
        · have htext := List.mem_singleton.mp hin
          rw [htext, hfound] at hstored
          obtain rfl := Option.some.inj hstored
          rw [hanswered.products] at hshared
          exact .inl ((hmeets hopen hstorable shared hshared htext).trans hmapped.symm)
        · exact absurd hnone id

lemma carries_step {event : CatalogueEvent} (hdb : Carries db) (hmeets : Meets readDecimal db event)
    (hstep : cataloguing readDecimal db event = some db') : Carries db' := by
  cases event with
  | saved supplier scraped => exact Option.some.inj hstep ▸ carries_saveProduct hdb hmeets
  | flagged supplier urls discontinued =>
      exact Option.some.inj hstep ▸ carries_flagDiscontinued hdb
  | populated replies => exact Option.some.inj hstep ▸ carries_populate hdb hmeets
  | stockParsed replies product => exact Option.some.inj hstep ▸ carries_stockParsed hdb hmeets
  | validated mapping data staff =>
      obtain ⟨row, hfound, rfl⟩ := Option.map_eq_some_iff.mp hstep
      exact carries_validate hdb hfound

end Events

/-! ## Every run -/

/-- **Products carry their mappings** after every run of scraped rows, flags, fills, parses and validations
in which no row changes the text of a product, no product is made for a text that has values, no batch of
a fill is interrupted, and no stock row is the first to answer for a product's text. -/
theorem products_carry_their_mappings {readDecimal : String → Option ℚ} {start db : Catalogue}
    {events : List CatalogueEvent} (hstart : Carries start)
    (hmeets : (cataloguing readDecimal).AllMeet (Meets readDecimal) start events)
    (hrun : (cataloguing readDecimal).run start events = some db) : Carries db :=
  Machine.run_keeps_of_meet (fun _ _ _ hcarries hmeets hstep => carries_step hcarries hmeets hstep)
    hstart hmeets hrun

/-! ### A flat bar -/

section Examples

/-- No products and no mappings. -/
def emptyCatalogue : Catalogue := ⟨.empty, .empty, []⟩

def flatBarListed (itemNo : String) (description : String)
    (named : itemNo ≠ "" ∧ itemNo ≠ "N/A" := by decide)
    (notBlank : description ≠ "" := by decide) : ScrapedProduct where
  itemNo := itemNo
  variantId := "1"
  productName := "Flat bar"
  url := "https://supplier/flat-bar"
  description := some description
  named := ⟨named.1, named.2, by decide, by decide, by decide, by decide⟩
  notBlank := by simp [notBlank]

/-- The model prices what it is asked about at 5. -/
def pricedAtFive : LlmReply := .rows [[("unit_cost", .number 5)]]

/-- A flat bar is scraped, filled and scraped again. -/
theorem products_carry_their_mappings_filled :
    ∃ db, (cataloguing fun _ => none).run emptyCatalogue
        [.saved 1 (flatBarListed "FB40" "40X5 FB"), .populated [pricedAtFive],
          .saved 1 (flatBarListed "FB40" "40X5 FB")] = some db ∧
      db.products.rows.map (fun product => product.parsed.unitCost) = [some 5] ∧ Carries db := by
  let events : List CatalogueEvent := [.saved 1 (flatBarListed "FB40" "40X5 FB"),
    .populated [pricedAtFive], .saved 1 (flatBarListed "FB40" "40X5 FB")]
  have hall : ((cataloguing fun _ => none).run emptyCatalogue events).any (fun db =>
      db.products.rows.map (fun product => product.parsed.unitCost) = [some 5]) = true ∧
      (cataloguing fun _ => none).AllMeet (Meets fun _ => none) emptyCatalogue events := by
    decide +kernel
  obtain ⟨hends, hmeets⟩ := hall
  obtain ⟨db, hrun, hprice⟩ := (Option.any_eq_true _ _).mp hends
  have hempty : Carries emptyCatalogue := fun _ hproduct => absurd hproduct List.not_mem_nil
  exact ⟨db, hrun, of_decide_eq_true hprice, products_carry_their_mappings hempty hmeets hrun⟩

/-- **A product can lose its mapping**: one whose description changes stays stamped with the old text, and
one made for a text that was filled before has none of its values. -/
theorem changed_and_late_products_lack_their_mappings :
    Carries emptyCatalogue ∧
      ((cataloguing fun _ => none).run emptyCatalogue
        [.saved 1 (flatBarListed "FB40" "40X5 FB"), .saved 1 (flatBarListed "FB40" "40X6 FB")]).any
        (fun db => !decide (Carries db)) = true ∧
      ((cataloguing fun _ => none).run emptyCatalogue
        [.saved 1 (flatBarListed "FB40" "40X5 FB"), .populated [pricedAtFive],
          .saved 1 (flatBarListed "FB41" "40X5 FB")]).any
        (fun db => !decide (Carries db)) = true := by
  decide +kernel

end Examples

end Docketworks.Quoting
