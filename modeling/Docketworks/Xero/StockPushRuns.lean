import Mathlib.Data.List.TakeWhile
import Docketworks.Xero.StockPush

/-!
# Which rows a push sends

`syncAllLocalStockToXero` over the waiting rows, from any table and any item list.

* `EveryRowPushed` — every valid waiting row has a code of its own, and every row whose data Xero accepts
  is pushed.
* `NothingInTheWay` — the codes to be generated differ from each other and from the codes in use, and
  every row Xero accepts goes in a batch the day's allowance covers with rows Xero accepts.

`push_sends_every_row_iff` says that the first holds of a run exactly when the second holds of its input;
`push_stops_at_equal_stock` is a run that two rows of the same metal, alloy and specifics stop.
-/

namespace Docketworks.Xero

open Library

variable {upper : String → String} {settings : PushSettings} {api : ItemsApi}
  {stock stock' : Table StockRow.id} {row other : StockRow} {queue : List StockRow} {code id : String}

/-! ## The two properties -/

section Properties

variable (upper) (settings) (api) (stock) (queue)

/-- The waiting rows a code is generated for. -/
def needCode : List StockRow := queue.filter fun row => validateStockForXero row && !row.hasCode

/-- What is sent: every valid row whose code does not name another row's item. -/
def sentRows : List (String × ItemPayload) :=
  (queue.filter fun row =>
    validateStockForXero row && !settings.linkRefused stock row (row.codeFor upper)).map fun row =>
      (row.id, settings.payloadFor row (row.codeFor upper))

def RowAccepted (row : StockRow) : Prop :=
  validateStockForXero row = true ∧ settings.linkRefused stock row (row.codeFor upper) = false ∧
    api.accepts (settings.payloadFor row (row.codeFor upper)) = true

/-- A row is linked to an item of Xero. -/
def Pushed (stock : Table StockRow.id) (id : String) : Prop :=
  ∃ row, stock.find? id = some row ∧ row.xeroId ≠ none

/-- **What a push is for.** -/
structure EveryRowPushed (final : Table StockRow.id) : Prop where
  /-- Every valid waiting row has a code, and no other row has it. -/
  codes : ∀ row ∈ queue, validateStockForXero row = true →
    ∃ stored code, final.find? row.id = some stored ∧ stored.itemCode = some code ∧
      stored.hasCode = true ∧ ∀ other ∈ final.rows, other.itemCode = some code → other.id = row.id
  pushed : ∀ row ∈ queue, RowAccepted upper settings api stock row → Pushed final row.id

/-- **When it does it.** -/
structure NothingInTheWay (allowance : ℕ) : Prop where
  codes_distinct : ((needCode queue).map (generateItemCode upper)).Nodup
  codes_free : ∀ row ∈ needCode queue, ∀ other ∈ stock.rows,
    other.itemCode ≠ some (generateItemCode upper row)
  batches : ∀ sent ∈ sentRows upper settings stock queue, api.accepts sent.2 = true →
    ∃ batch ∈ (batchesOf (sentRows upper settings stock queue)
        (sentRows upper settings stock queue).length).take allowance,
      sent ∈ batch ∧ ∀ other ∈ batch, api.accepts other.2 = true

/-- What a run starts from: the waiting rows of a table, whose codes are unique, and an item list whose
ids are, none of them an id Xero mints for a new item. -/
structure PushStart (limit : Option ℕ) : Prop where
  waiting : StockPendingSync stock limit queue
  unique_codes : ∀ r ∈ stock.rows, ∀ r' ∈ stock.rows, ∀ code,
    r.itemCode = some code → r'.itemCode = some code → r.id = r'.id
  unique_items : (settings.items.map XeroItem.itemId).Nodup
  mint_injective : Function.Injective api.mint
  mint_unlisted : ∀ code, api.mint code ∉ settings.items.map XeroItem.itemId
  mint_unlinked : ∀ code, ∀ r ∈ stock.rows, r.xeroId ≠ some (api.mint code)

end Properties

/-! ## Codes -/

section Codes

lemma pythonStrip_ne_empty {text : String}
    (h : text.toList.head?.any (fun c => !isPythonSpace c) = true) : pythonStrip text ≠ "" := by
  obtain ⟨c, hhead, hc⟩ := Option.any_eq_true _ _ |>.mp h
  obtain ⟨rest, htext⟩ := List.head?_eq_some_iff.mp hhead
  unfold pythonStrip
  rw [htext, List.dropWhile_cons_of_neg (by simpa using hc)]
  intro hempty
  have hnil : (c :: rest).reverse.dropWhile isPythonSpace = [] := by
    simpa using congrArg String.toList hempty
  have hspace := List.dropWhile_eq_nil_iff.mp hnil c (by simp)
  rw [hspace] at hc
  cases hc

lemma metalPrefix_starts (metalType : Option String) :
    (metalPrefix metalType).toList.head?.any (fun c => !isPythonSpace c) = true := by
  unfold metalPrefix
  split <;> decide

lemma pythonStrip_generateItemCode (row : StockRow) : pythonStrip (generateItemCode upper row) ≠ "" := by
  have hfirst {first : String} (rest : List Char)
      (h : first.toList.head?.any (fun c => !isPythonSpace c) = true) :
      pythonStrip (String.ofList ((first.toList ++ rest).take 30)) ≠ "" := by
    refine pythonStrip_ne_empty ?_
    cases hlist : first.toList with
    | nil => rw [hlist] at h; cases h
    | cons c cs => simpa [hlist] using h
  unfold generateItemCode
  simp only
  split
  · have hstk : "STK".toList.head?.any (fun c => !isPythonSpace c) = true := by decide
    exact hfirst _ hstk
  · exact hfirst _ (metalPrefix_starts row.metalType)

lemma hasCode_of_generated (h : row.itemCode = some (generateItemCode upper other)) :
    row.hasCode = true := by
  simpa [StockRow.hasCode, h] using @pythonStrip_generateItemCode upper other

lemma itemCode_eq_codeFor (h : row.hasCode = true) : row.itemCode = some (row.codeFor upper) := by
  obtain ⟨code, hcode, -⟩ := Option.any_eq_true _ _ |>.mp h
  simp [StockRow.codeFor, h, hcode]

lemma codeFor_of_not_hasCode (h : row.hasCode = false) :
    row.codeFor upper = generateItemCode upper row := by
  simp [StockRow.codeFor, h]

end Codes

/-! ## The first pass -/

section FirstPass

/-- The rows still to come are in the table as they were read, each once. -/
structure Waiting (stock : Table StockRow.id) (queue : List StockRow) : Prop where
  nodup : (queue.map StockRow.id).Nodup
  stored : ∀ row ∈ queue, stock.find? row.id = some row

def UniqueCodes (stock : Table StockRow.id) : Prop :=
  ∀ r ∈ stock.rows, ∀ r' ∈ stock.rows, ∀ code,
    r.itemCode = some code → r'.itemCode = some code → r.id = r'.id

lemma linkedElsewhere_iff {itemId : String} :
    linkedElsewhere stock id itemId = true ↔
      ∃ other ∈ stock.rows, other.xeroId = some itemId ∧ other.id ≠ id := by
  simp [linkedElsewhere]

lemma codeTaken_iff :
    codeTaken stock id code = true ↔ ∃ other ∈ stock.rows, other.itemCode = some code ∧ other.id ≠ id := by
  simp [codeTaken]

/-- What a table says of its rows' links. -/
def xeroIdOf (stock : Table StockRow.id) (id : String) : Option (Option String) :=
  (stock.find? id).map StockRow.xeroId

lemma linkedElsewhere_congr (h : ∀ id, xeroIdOf stock' id = xeroIdOf stock id) (id itemId : String) :
    linkedElsewhere stock' id itemId = linkedElsewhere stock id itemId := by
  have hle {s s' : Table StockRow.id} (h : ∀ id, xeroIdOf s' id = xeroIdOf s id)
      (hlinked : linkedElsewhere s id itemId = true) : linkedElsewhere s' id itemId = true := by
    obtain ⟨other, hmem, hxero, hne⟩ := linkedElsewhere_iff.mp hlinked
    have hother := h other.id
    rw [xeroIdOf, xeroIdOf, Table.find?_of_mem hmem] at hother
    obtain ⟨other', hfound, hsame⟩ := Option.map_eq_some_iff.mp hother
    refine linkedElsewhere_iff.mpr ⟨other', Table.mem_of_find? hfound, hsame.trans hxero, ?_⟩
    rw [Table.key_of_find? hfound]
    exact hne
  exact Bool.eq_iff_iff.mpr ⟨hle fun id => (h id).symm, hle h⟩

lemma linkRefused_congr (h : ∀ id, xeroIdOf stock' id = xeroIdOf stock id) (row : StockRow)
    (code : String) : settings.linkRefused stock' row code = settings.linkRefused stock row code := by
  simp only [PushSettings.linkRefused, linkedElsewhere_congr h]

lemma sentRows_congr (h : ∀ id, xeroIdOf stock' id = xeroIdOf stock id) (queue : List StockRow) :
    sentRows upper settings stock' queue = sentRows upper settings stock queue := by
  simp only [sentRows, linkRefused_congr h]

/-- A row has its code now, and nothing else changed. -/
structure Coded (upper : String → String) (stock stock' : Table StockRow.id) (row : StockRow) : Prop where
  code : ∃ stored, stock'.find? row.id = some stored ∧ stored.itemCode = some (row.codeFor upper)
  others : ∀ id, id ≠ row.id → stock'.find? id = stock.find? id
  links : ∀ id, xeroIdOf stock' id = xeroIdOf stock id

lemma coded_giveCode (hstored : stock.find? row.id = some row) :
    Coded upper stock (giveCode stock row (row.codeFor upper)) row := by
  unfold giveCode
  split
  · rename_i hcode
    exact ⟨⟨row, hstored, itemCode_eq_codeFor hcode⟩, fun _ _ => rfl, fun _ => rfl⟩
  · have hput := Table.find?_put_self (t := stock) (r := { row with itemCode := some (row.codeFor upper) })
      hstored
    have hother (id : String) (hne : id ≠ row.id) :
        (stock.put { row with itemCode := some (row.codeFor upper) }).find? id = stock.find? id :=
      Table.find?_put_of_ne hne
    refine ⟨⟨_, hput, rfl⟩, hother, fun id => ?_⟩
    by_cases hid : id = row.id
    · subst hid
      have hlink := congrArg (Option.map StockRow.xeroId) hput
      rw [xeroIdOf, xeroIdOf, hstored]
      exact hlink
    · rw [xeroIdOf, xeroIdOf, hother id hid]

lemma Coded.waiting (h : Coded upper stock stock' row) (hw : Waiting stock (row :: queue)) :
    Waiting stock' queue where
  nodup := (List.nodup_cons.mp hw.nodup).2
  stored := fun next hnext => by
    have hne : next.id ≠ row.id := fun heq =>
      (List.nodup_cons.mp hw.nodup).1 (heq ▸ List.mem_map_of_mem hnext)
    rw [h.others next.id hne]
    exact hw.stored next (List.mem_cons_of_mem _ hnext)

lemma uniqueCodes_giveCode (hunique : UniqueCodes stock)
    (hfree : row.hasCode = true ∨ codeTaken stock row.id code = false) :
    UniqueCodes (giveCode stock row code) := by
  unfold giveCode
  split
  · exact hunique
  · rename_i hnone
    have hfree' := hfree.resolve_left hnone
    have hothers : ∀ r ∈ stock.rows, r.id ≠ row.id → r.itemCode ≠ some code := fun r hr hne hcode =>
      Bool.eq_false_iff.mp hfree' (codeTaken_iff.mpr ⟨r, hr, hcode, hne⟩)
    intro r hr r' hr' code' hcode hcode'
    rcases Table.mem_put.mp hr with ⟨hr, hne⟩ | ⟨rfl, -⟩ <;>
      rcases Table.mem_put.mp hr' with ⟨hr', hne'⟩ | ⟨rfl, -⟩
    · exact hunique r hr r' hr' code' hcode hcode'
    · exact absurd (hcode.trans hcode'.symm) (hothers r hr hne)
    · exact absurd (hcode'.trans hcode.symm) (hothers r' hr' hne')
    · rfl

lemma firstPass_cons (hvalid : validateStockForXero row = true)
    (hfree : row.hasCode = true ∨ codeTaken stock row.id (row.codeFor upper) = false) :
    ∃ failed queued, firstPass upper settings stock (row :: queue) =
      { firstPass upper settings (giveCode stock row (row.codeFor upper)) queue with failed, queued } ∧
      queued = (if settings.linkRefused (giveCode stock row (row.codeFor upper)) row (row.codeFor upper)
          then [] else [(row.id, settings.payloadFor row (row.codeFor upper))]) ++
        (firstPass upper settings (giveCode stock row (row.codeFor upper)) queue).queued := by
  have hstore : (!row.hasCode && codeTaken stock row.id (row.codeFor upper)) = false := by
    rcases hfree with h | h <;> simp [h]
  rw [firstPass]
  simp only [hvalid, hstore, Bool.not_true, Bool.false_eq_true, if_false]
  split
  · exact ⟨_, _, rfl, rfl⟩
  · exact ⟨_, _, rfl, rfl⟩

/-- **The pass over rows whose codes can all be stored.** -/
lemma firstPass_spec (hw : Waiting stock queue) (hunique : UniqueCodes stock)
    (hraised : (firstPass upper settings stock queue).raised = false) :
    UniqueCodes (firstPass upper settings stock queue).stock ∧
      (∀ id, xeroIdOf (firstPass upper settings stock queue).stock id = xeroIdOf stock id) ∧
      (∀ id, id ∉ queue.map StockRow.id →
        (firstPass upper settings stock queue).stock.find? id = stock.find? id) ∧
      (∀ row ∈ queue, validateStockForXero row = true →
        ∃ stored, (firstPass upper settings stock queue).stock.find? row.id = some stored ∧
          stored.itemCode = some (row.codeFor upper)) ∧
      (firstPass upper settings stock queue).queued = sentRows upper settings stock queue := by
  induction queue generalizing stock with
  | nil => exact ⟨hunique, fun _ => rfl, fun _ _ => rfl, fun _ h => absurd h List.not_mem_nil, rfl⟩
  | cons row queue ih =>
      have hnew := (List.nodup_cons.mp hw.nodup).1
      by_cases hvalid : validateStockForXero row = true
      swap
      · -- an invalid row is passed over
        have hskip : firstPass upper settings stock (row :: queue) =
            (firstPass upper settings stock queue).andFailed row.id "Validation failed" := by
          rw [firstPass, if_pos (by simpa using hvalid)]
        have hw' : Waiting stock queue :=
          ⟨(List.nodup_cons.mp hw.nodup).2, fun r hr => hw.stored r (List.mem_cons_of_mem _ hr)⟩
        rw [hskip] at hraised ⊢
        obtain ⟨h1, h2, h3, h4, h5⟩ := ih hw' hunique hraised
        refine ⟨h1, h2, fun id hid => h3 id fun h => hid (List.mem_cons_of_mem _ h), ?_, ?_⟩
        · intro r hr hr'
          rcases List.mem_cons.mp hr with rfl | hr
          · exact absurd hr' hvalid
          · exact h4 r hr hr'
        · rw [show (FirstPass.andFailed (firstPass upper settings stock queue) row.id
            "Validation failed").queued = (firstPass upper settings stock queue).queued from rfl, h5]
          simp [sentRows, hvalid]
      have hfree : row.hasCode = true ∨ codeTaken stock row.id (row.codeFor upper) = false := by
        by_contra htaken
        rw [not_or] at htaken
        rw [firstPass, if_neg (by simp [hvalid])] at hraised
        simp only at hraised
        rw [if_pos (by simpa using htaken)] at hraised
        cases hraised
      obtain ⟨failed, queued, hpass, rfl⟩ := @firstPass_cons _ settings _ _ queue hvalid hfree
      have hcoded : Coded upper stock (giveCode stock row (row.codeFor upper)) row :=
        coded_giveCode (hw.stored row List.mem_cons_self)
      rw [hpass] at hraised ⊢
      obtain ⟨h1, h2, h3, h4, h5⟩ := ih (hcoded.waiting hw) (uniqueCodes_giveCode hunique hfree) hraised
      refine ⟨h1, fun id => (h2 id).trans (hcoded.links id), fun id hid => ?_, fun r hr hr' => ?_, ?_⟩
      · rw [List.map_cons, List.mem_cons, not_or] at hid
        exact (h3 id hid.2).trans (hcoded.others id hid.1)
      · rcases List.mem_cons.mp hr with rfl | hr
        · obtain ⟨stored, hstored, hcode⟩ := hcoded.code
          exact ⟨stored, (h3 _ hnew).trans hstored, hcode⟩
        · exact h4 r hr hr'
      · simp only [h5, sentRows_congr hcoded.links, linkRefused_congr hcoded.links]
        cases hlink : settings.linkRefused stock row (row.codeFor upper) <;>
          simp [sentRows, hvalid, hlink]

lemma firstPass_stopped (hw : Waiting stock queue)
    (hraised : (firstPass upper settings stock queue).raised = true) :
    ∃ row ∈ queue, validateStockForXero row = true ∧ row.hasCode = false ∧
      (firstPass upper settings stock queue).stock.find? row.id = some row := by
  induction queue generalizing stock with
  | nil => cases hraised
  | cons row queue ih =>
      by_cases hvalid : validateStockForXero row = true
      swap
      · rw [firstPass, if_pos (by simpa using hvalid)] at hraised ⊢
        have hw' : Waiting stock queue :=
          ⟨(List.nodup_cons.mp hw.nodup).2, fun r hr => hw.stored r (List.mem_cons_of_mem _ hr)⟩
        obtain ⟨r, hr, hrest⟩ := ih hw' hraised
        exact ⟨r, List.mem_cons_of_mem _ hr, hrest⟩
      by_cases hfree : row.hasCode = true ∨ codeTaken stock row.id (row.codeFor upper) = false
      · obtain ⟨failed, queued, hpass, -⟩ := @firstPass_cons _ settings _ _ queue hvalid hfree
        rw [hpass] at hraised ⊢
        have hcoded : Coded upper stock (giveCode stock row (row.codeFor upper)) row :=
          coded_giveCode (hw.stored row List.mem_cons_self)
        obtain ⟨r, hr, hrest⟩ := ih (hcoded.waiting hw) hraised
        exact ⟨r, List.mem_cons_of_mem _ hr, hrest⟩
      · rw [not_or] at hfree
        refine ⟨row, List.mem_cons_self, hvalid, by simpa using hfree.1, ?_⟩
        rw [firstPass, if_neg (by simp [hvalid])]
        simp only
        rw [if_pos (by simpa using hfree)]
        exact hw.stored row List.mem_cons_self

/-- The codes to be generated differ from each other and from the codes in use. -/
def CodesFree (upper : String → String) (stock : Table StockRow.id) (queue : List StockRow) : Prop :=
  ((needCode queue).map (generateItemCode upper)).Nodup ∧
    ∀ row ∈ needCode queue, ∀ other ∈ stock.rows, other.itemCode ≠ some (generateItemCode upper row)

lemma needCode_cons_of_needs (hvalid : validateStockForXero row = true) (hcode : row.hasCode = false) :
    needCode (row :: queue) = row :: needCode queue :=
  List.filter_cons_of_pos (by simp [hvalid, hcode])

lemma needCode_cons_of_not_needs (h : validateStockForXero row = false ∨ row.hasCode = true) :
    needCode (row :: queue) = needCode queue := by
  refine List.filter_cons_of_neg ?_
  rcases h with h | h <;> simp [h]

lemma itemCode_ne_generated (hcode : row.hasCode = false) (other : StockRow) :
    row.itemCode ≠ some (generateItemCode upper other) := fun h => by
  rw [hasCode_of_generated h] at hcode
  cases hcode

lemma codesFree_giveCode (hstored : stock.find? row.id = some row) (hvalid : validateStockForXero row = true)
    (hcode : row.hasCode = false) (hfree : codeTaken stock row.id (generateItemCode upper row) = false) :
    CodesFree upper (giveCode stock row (generateItemCode upper row)) queue ↔
      CodesFree upper stock (row :: queue) := by
  have hput : giveCode stock row (generateItemCode upper row) =
      stock.put { row with itemCode := some (generateItemCode upper row) } := by
    rw [giveCode, if_neg (by simp [hcode])]
  have hself : { row with itemCode := some (generateItemCode upper row) } ∈
      (stock.put { row with itemCode := some (generateItemCode upper row) }).rows :=
    Table.mem_put.mpr (.inr ⟨rfl, Option.isSome_iff_exists.mpr ⟨row, hstored⟩⟩)
  unfold CodesFree
  rw [hput, needCode_cons_of_needs hvalid hcode, List.map_cons, List.nodup_cons, List.forall_mem_cons]
  constructor
  · rintro ⟨hnodup, hrest⟩
    have hothers : ∀ next ∈ needCode queue, ∀ other ∈ stock.rows,
        other.itemCode ≠ some (generateItemCode upper next) := fun next hnext other hother => by
      by_cases hid : other.id = row.id
      · obtain rfl := Table.eq_of_key_eq hother (Table.mem_of_find? hstored) hid
        exact itemCode_ne_generated hcode next
      · exact hrest next hnext other (Table.mem_put.mpr (.inl ⟨hother, hid⟩))
    refine ⟨⟨fun hmem => ?_, hnodup⟩, fun other hother htaken => ?_, hothers⟩
    · obtain ⟨next, hnext, hsame⟩ := List.mem_map.mp hmem
      exact hrest next hnext _ hself (by rw [hsame])
    · by_cases hid : other.id = row.id
      · obtain rfl := Table.eq_of_key_eq hother (Table.mem_of_find? hstored) hid
        exact itemCode_ne_generated hcode _ htaken
      · exact Bool.eq_false_iff.mp hfree (codeTaken_iff.mpr ⟨other, hother, htaken, hid⟩)
  · rintro ⟨⟨hnew, hnodup⟩, -, hothers⟩
    refine ⟨hnodup, fun next hnext other hother => ?_⟩
    rcases Table.mem_put.mp hother with ⟨hold, -⟩ | ⟨rfl, -⟩
    · exact hothers next hnext other hold
    · exact fun hsame => hnew (List.mem_map.mpr ⟨next, hnext, (Option.some.inj hsame).symm⟩)

/-- **The pass is not stopped** exactly where the codes to be generated are free. -/
lemma firstPass_raised_iff (hw : Waiting stock queue) :
    (firstPass upper settings stock queue).raised = false ↔ CodesFree upper stock queue := by
  induction queue generalizing stock with
  | nil => exact iff_of_true rfl ⟨List.nodup_nil, fun _ h => absurd h List.not_mem_nil⟩
  | cons row queue ih =>
      by_cases hvalid : validateStockForXero row = true
      swap
      · have hw' : Waiting stock queue :=
          ⟨(List.nodup_cons.mp hw.nodup).2, fun r hr => hw.stored r (List.mem_cons_of_mem _ hr)⟩
        rw [firstPass, if_pos (by simpa using hvalid), CodesFree,
          needCode_cons_of_not_needs (.inl (by simpa using hvalid))]
        exact ih hw'
      have hstored := hw.stored row List.mem_cons_self
      have hcoded : Coded upper stock (giveCode stock row (row.codeFor upper)) row := coded_giveCode hstored
      cases hcode : row.hasCode with
      | true =>
          obtain ⟨failed, queued, hpass, -⟩ :=
            @firstPass_cons upper settings _ _ queue hvalid (.inl hcode)
          have hgive : giveCode stock row (row.codeFor upper) = stock := if_pos hcode
          rw [hpass, CodesFree, needCode_cons_of_not_needs (.inr hcode)]
          rw [hgive] at hcoded ⊢
          exact ih (hcoded.waiting hw)
      | false =>
          have hgenerated := @codeFor_of_not_hasCode upper _ hcode
          cases htaken : codeTaken stock row.id (row.codeFor upper) with
          | false =>
              obtain ⟨failed, queued, hpass, -⟩ :=
                @firstPass_cons _ settings _ _ queue hvalid (.inr htaken)
              rw [hpass]
              refine (ih (hcoded.waiting hw)).trans ?_
              rw [hgenerated] at htaken ⊢
              exact codesFree_giveCode hstored hvalid hcode htaken
          | true =>
              rw [firstPass, if_neg (by simp [hvalid])]
              simp only
              rw [if_pos (by simp [hcode, htaken])]
              refine iff_of_false (fun h => by cases h) fun hfree => ?_
              obtain ⟨other, hother, hsame, -⟩ := codeTaken_iff.mp htaken
              rw [CodesFree, needCode_cons_of_needs hvalid hcode, List.forall_mem_cons] at hfree
              exact hfree.2.1 other hother (hgenerated ▸ hsame)

end FirstPass

/-! ## The batches -/

section Batches

lemma flatten_batchesOf {α : Type} (items : List α) {fuel : ℕ} (hfuel : items.length ≤ fuel) :
    (batchesOf items fuel).flatten = items := by
  induction fuel generalizing items with
  | zero => rw [List.length_eq_zero_iff.mp (Nat.le_zero.mp hfuel)]; rfl
  | succ fuel ih =>
      rw [batchesOf]
      split
      · rename_i hempty
        rw [List.isEmpty_iff.mp hempty]
        rfl
      · rename_i hne
        have hpos : 0 < items.length := List.length_pos_iff.mpr (by simpa using hne)
        rw [List.flatten_cons, ih, List.take_append_drop]
        rw [List.length_drop, batchSize]
        omega

/-- The id a payload's item has in Xero. -/
def targetOf (api : ItemsApi) (payload : ItemPayload) : String :=
  payload.itemId.getD (api.mint payload.code)

/-- The rows still to be linked: each is there and is the only one under its code, and no row has the id
it will get. -/
structure Linkable (api : ItemsApi) (stock : Table StockRow.id) (sent : List (String × ItemPayload)) :
    Prop where
  stored : ∀ p ∈ sent, ∃ row, stock.find? p.1 = some row
  codes : (sent.map fun p => p.2.code).Nodup
  targets : (sent.map fun p => targetOf api p.2).Nodup
  unused : ∀ p ∈ sent, ∀ row ∈ stock.rows, row.xeroId ≠ some (targetOf api p.2)

/-- What linking rows leaves of the table. -/
structure Linked (stock stock' : Table StockRow.id) (ids : List String) : Prop where
  codes : ∀ id, (stock'.find? id).map StockRow.itemCode = (stock.find? id).map StockRow.itemCode
  pushed : ∀ id, Pushed stock' id ↔ Pushed stock id ∨ id ∈ ids

lemma Linked.refl (stock : Table StockRow.id) : Linked stock stock [] where
  codes := fun _ => rfl
  pushed := fun _ => by simp

lemma Linked.trans {stock'' : Table StockRow.id} {ids ids' : List String} (h : Linked stock stock' ids)
    (h' : Linked stock' stock'' ids') : Linked stock stock'' (ids ++ ids') where
  codes := fun id => (h'.codes id).trans (h.codes id)
  pushed := fun id => by rw [h'.pushed, h.pushed, List.mem_append, or_assoc]

variable {s : PushState} {batch sent rest : List (String × ItemPayload)} {p : String × ItemPayload}

lemma Linkable.sublist (h : Linkable api stock sent) (hsub : rest.Sublist sent) : Linkable api stock rest where
  stored := fun p hp => h.stored p (hsub.subset hp)
  codes := h.codes.sublist (hsub.map _)
  targets := h.targets.sublist (hsub.map _)
  unused := fun p hp => h.unused p (hsub.subset hp)

lemma saveXeroId_eq (hp : p ∈ batch) (hcodes : (batch.map fun p => p.2.code).Nodup)
    (hfound : s.stock.find? p.1 = some row) (hraised : s.raised = false)
    (hunused : ∀ row ∈ s.stock.rows, row.xeroId ≠ some (targetOf api p.2)) :
    saveXeroId batch s ⟨p.2.code, targetOf api p.2⟩ =
      { s with stock := s.stock.put { row with xeroId := some (targetOf api p.2) } } := by
  have hbatch : (batch.find? fun sent => sent.2.code = p.2.code) = some p :=
    Table.find?_of_mem (t := ⟨batch, hcodes⟩) hp
  have hlink : linkedElsewhere s.stock row.id (targetOf api p.2) = false :=
    Bool.eq_false_iff.mpr fun h => by
      obtain ⟨other, hother, hxero, -⟩ := linkedElsewhere_iff.mp h
      exact hunused other hother hxero
  simp [saveXeroId, hraised, hbatch, hfound, hlink]

lemma linked_put {target : String} (hfound : stock.find? id = some row) :
    Linked stock (stock.put { row with xeroId := some target }) [id] := by
  obtain rfl : row.id = id := Table.key_of_find? hfound
  have hself := Table.find?_put_self (t := stock) (r := { row with xeroId := some target }) hfound
  have hothers (id : String) (hne : id ≠ row.id) :
      (stock.put { row with xeroId := some target }).find? id = stock.find? id :=
    Table.find?_put_of_ne hne
  refine ⟨fun id => ?_, fun id => ?_⟩
  · by_cases hid : id = row.id
    · subst hid
      have hcode := congrArg (Option.map StockRow.itemCode) hself
      rw [hfound]
      exact hcode
    · rw [hothers id hid]
  · rw [List.mem_singleton]
    by_cases hid : id = row.id
    · subst hid
      exact iff_of_true ⟨_, hself, by simp⟩ (.inr rfl)
    · simp only [Pushed, hothers id hid, hid, or_false]

lemma Linkable.put (h : Linkable api stock (p :: rest)) (hfound : stock.find? p.1 = some row) :
    Linkable api (stock.put { row with xeroId := some (targetOf api p.2) }) rest := by
  have htail := h.sublist (List.sublist_cons_self p rest)
  have hlinked := @linked_put _ _ _ (targetOf api p.2) hfound
  refine ⟨fun q hq => ?_, htail.codes, htail.targets, fun q hq r hr => ?_⟩
  · obtain ⟨r, hr⟩ := htail.stored q hq
    have hcode := hlinked.codes q.1
    rw [hr] at hcode
    obtain ⟨r', hr', -⟩ := Option.map_eq_some_iff.mp hcode
    exact ⟨r', hr'⟩
  · rcases Table.mem_put.mp hr with ⟨hold, -⟩ | ⟨rfl, -⟩
    · exact htail.unused q hq r hold
    · intro hsame
      have htargets := h.targets
      rw [List.map_cons, List.nodup_cons] at htargets
      exact htargets.1 (List.mem_map.mpr ⟨q, hq, (Option.some.inj hsame).symm⟩)

lemma foldl_saveXeroId (todo : List (String × ItemPayload)) (hsub : ∀ p ∈ todo, p ∈ batch)
    (hcodes : (batch.map fun p => p.2.code).Nodup) (h : Linkable api s.stock (todo ++ rest))
    (hraised : s.raised = false) :
    ∃ s', (todo.map fun p => (⟨p.2.code, targetOf api p.2⟩ : XeroItem)).foldl (saveXeroId batch) s = s' ∧
      s'.raised = false ∧ Linked s.stock s'.stock (todo.map Prod.fst) ∧ Linkable api s'.stock rest := by
  induction todo generalizing s with
  | nil => exact ⟨s, rfl, hraised, .refl _, h⟩
  | cons p todo ih =>
      obtain ⟨row, hfound⟩ := h.stored p List.mem_cons_self
      have hsave := saveXeroId_eq (hsub p List.mem_cons_self) hcodes hfound hraised
        (h.unused p List.mem_cons_self)
      obtain ⟨s', hs', hraised', hlinked, hrest⟩ := ih
        (s := { s with stock := s.stock.put { row with xeroId := some (targetOf api p.2) } })
        (fun q hq => hsub q (List.mem_cons_of_mem _ hq)) (h.put hfound) hraised
      refine ⟨s', ?_, hraised', (linked_put hfound).trans hlinked, hrest⟩
      rw [List.map_cons, List.foldl_cons, hsave]
      exact hs'

def BatchAccepted (api : ItemsApi) (batch : List (String × ItemPayload)) : Bool :=
  batch.all fun p => api.accepts p.2

/-- **One batch**: all of its rows are linked, or none. -/
lemma upsertBatch_spec (h : Linkable api s.stock (batch ++ rest)) (hraised : s.raised = false) :
    (upsertBatch api s batch).raised = false ∧
      Linked s.stock (upsertBatch api s batch).stock
        (if BatchAccepted api batch then batch.map Prod.fst else []) ∧
      Linkable api (upsertBatch api s batch).stock rest := by
  unfold upsertBatch
  rw [if_neg (by simp [hraised])]
  by_cases haccepted : BatchAccepted api batch = true
  · have hanswer := api.answer_accepted (batch.map Prod.snd) fun q hq => by
      obtain ⟨p, hp, rfl⟩ := List.mem_map.mp hq
      exact List.all_eq_true.mp haccepted p hp
    have hcodes : (batch.map fun p => p.2.code).Nodup :=
      (h.sublist (List.sublist_append_left batch rest)).codes
    obtain ⟨s', hs', hspec⟩ := foldl_saveXeroId batch (fun _ hp => hp) hcodes h hraised
    rw [hanswer, List.map_map, if_pos haccepted]
    simp only
    rw [show ((fun p : ItemPayload => (⟨p.code, p.itemId.getD (api.mint p.code)⟩ : XeroItem)) ∘ Prod.snd) =
      fun p : String × ItemPayload => (⟨p.2.code, targetOf api p.2⟩ : XeroItem) from rfl, hs']
    exact hspec
  · have hrefused : ∃ q ∈ batch.map Prod.snd, api.accepts q = false := by
      rw [BatchAccepted, List.all_eq_true] at haccepted
      push Not at haccepted
      obtain ⟨p, hp, hnot⟩ := haccepted
      exact ⟨p.2, List.mem_map_of_mem hp, by simpa using hnot⟩
    rw [api.answer_refused _ hrefused, if_neg haccepted]
    exact ⟨hraised, .refl _, h.sublist (List.sublist_append_right batch rest)⟩

/-- The rows of the batches Xero accepts. -/
def acceptedIds (api : ItemsApi) (batches : List (List (String × ItemPayload))) : List String :=
  batches.flatMap fun batch => if BatchAccepted api batch then batch.map Prod.fst else []

/-- **The batches**: exactly the rows of the accepted ones are linked. -/
lemma foldl_upsertBatch (batches : List (List (String × ItemPayload)))
    (h : Linkable api s.stock batches.flatten) (hraised : s.raised = false) :
    (batches.foldl (upsertBatch api) s).raised = false ∧
      Linked s.stock (batches.foldl (upsertBatch api) s).stock (acceptedIds api batches) := by
  induction batches generalizing s with
  | nil => exact ⟨hraised, .refl _⟩
  | cons batch batches ih =>
      rw [List.flatten_cons] at h
      obtain ⟨hraised', hlinked, hrest⟩ := upsertBatch_spec h hraised
      obtain ⟨hraised'', hlinked'⟩ := ih hrest hraised'
      exact ⟨hraised'', hlinked.trans hlinked'⟩

end Batches

/-! ## The run -/

section Run

variable {limit : Option ℕ} {allowance : ℕ}

lemma StockPendingSync.sublist (h : StockPendingSync stock limit queue) :
    ∃ order, order.Perm (stock.rows.filter StockRow.pending) ∧ queue.Sublist order := by
  obtain ⟨order, hperm, -, rfl⟩ := h
  refine ⟨order, hperm, ?_⟩
  split
  · exact List.Sublist.refl _
  · exact List.take_sublist _ order

lemma StockPendingSync.mem (h : StockPendingSync stock limit queue) (hrow : row ∈ queue) :
    row ∈ stock.rows ∧ row.xeroId = none := by
  obtain ⟨order, hperm, hsub⟩ := h.sublist
  have hpending := List.mem_filter.mp (hperm.mem_iff.mp (hsub.subset hrow))
  exact ⟨hpending.1, by simpa using (Bool.and_eq_true_iff.mp hpending.2).1⟩

lemma StockPendingSync.waiting (h : StockPendingSync stock limit queue) : Waiting stock queue where
  nodup := by
    obtain ⟨order, hperm, hsub⟩ := h.sublist
    have hrows : ((stock.rows.filter StockRow.pending).map StockRow.id).Nodup :=
      stock.nodup.sublist (List.filter_sublist.map _)
    exact ((hperm.map _).nodup_iff.mpr hrows).sublist (hsub.map _)
  stored := fun row hrow => Table.find?_of_mem (h.mem hrow).1

lemma Waiting.eq_of_id (h : Waiting stock queue) (hrow : row ∈ queue) (hother : other ∈ queue)
    (hid : row.id = other.id) : row = other := by
  have hstored := h.stored row hrow
  rw [hid, h.stored other hother] at hstored
  exact (Option.some.inj hstored).symm

lemma pythonStrip_codeFor (row : StockRow) : pythonStrip (row.codeFor upper) ≠ "" := by
  cases hcode : row.hasCode with
  | true =>
      have hown := hcode
      rw [StockRow.hasCode, @itemCode_eq_codeFor upper _ hcode] at hown
      simpa using hown
  | false =>
      rw [codeFor_of_not_hasCode hcode]
      exact pythonStrip_generateItemCode row

lemma mem_sentRows {p : String × ItemPayload} :
    p ∈ sentRows upper settings stock queue ↔
      ∃ row ∈ queue, validateStockForXero row = true ∧
        settings.linkRefused stock row (row.codeFor upper) = false ∧
        p = (row.id, settings.payloadFor row (row.codeFor upper)) := by
  simp only [sentRows, List.mem_map, List.mem_filter, Bool.and_eq_true, Bool.not_eq_true', eq_comm (b := p),
    and_assoc]

lemma targetOf_payloadFor_inj (hstart : PushStart settings api stock queue limit) {code code' : String}
    (h : targetOf api (settings.payloadFor row code) = targetOf api (settings.payloadFor other code')) :
    code = code' := by
  simp only [targetOf, PushSettings.payloadFor, buildStockItemPayload] at h
  cases hitem : listedItem settings.items code with
  | none =>
      cases hitem' : listedItem settings.items code' with
      | none =>
          rw [hitem, hitem'] at h
          exact hstart.mint_injective h
      | some item' =>
          rw [hitem, hitem'] at h
          have hlisted : api.mint code = item'.itemId := h
          exact absurd (hlisted ▸ List.mem_map_of_mem (List.mem_of_find?_eq_some hitem'))
            (hstart.mint_unlisted code)
  | some item =>
      cases hitem' : listedItem settings.items code' with
      | none =>
          rw [hitem, hitem'] at h
          have hlisted : item.itemId = api.mint code' := h
          exact absurd (hlisted ▸ List.mem_map_of_mem (List.mem_of_find?_eq_some hitem))
            (hstart.mint_unlisted code')
      | some item' =>
          rw [hitem, hitem'] at h
          have hsame : item = item' := List.inj_on_of_nodup_map hstart.unique_items
            (List.mem_of_find?_eq_some hitem) (List.mem_of_find?_eq_some hitem') h
          have hcode : item.code = code := by simpa using List.find?_some hitem
          have hcode' : item'.code = code' := by simpa using List.find?_some hitem'
          rw [← hcode, ← hcode', hsame]

lemma linkable_of_firstPass (hstart : PushStart settings api stock queue limit)
    (hraised : (firstPass upper settings stock queue).raised = false) :
    Linkable api (firstPass upper settings stock queue).stock (sentRows upper settings stock queue) := by
  have hw := hstart.waiting.waiting
  obtain ⟨hunique, hlinks, -, hcoded, -⟩ := firstPass_spec hw hstart.unique_codes hraised
  -- valid rows under one code are one row
  have hinj : ∀ row ∈ queue, validateStockForXero row = true → ∀ other ∈ queue,
      validateStockForXero other = true → row.codeFor upper = other.codeFor upper → row = other := by
    intro row hrow hvalid other hother hvalid' hsame
    obtain ⟨stored, hstored, hcode⟩ := hcoded row hrow hvalid
    obtain ⟨stored', hstored', hcode'⟩ := hcoded other hother hvalid'
    have hid := hunique stored (Table.mem_of_find? hstored) stored' (Table.mem_of_find? hstored') _ hcode
      (hsame ▸ hcode')
    rw [Table.key_of_find? hstored, Table.key_of_find? hstored'] at hid
    exact hw.eq_of_id hrow hother hid
  have hnodup : (queue.filter fun row => validateStockForXero row &&
      !settings.linkRefused stock row (row.codeFor upper)).Nodup :=
    (List.Nodup.of_map _ hw.nodup).filter _
  have hmap {β : Type} (f : String × ItemPayload → β)
      (hf : ∀ row other, f (row.id, settings.payloadFor row (row.codeFor upper)) =
        f (other.id, settings.payloadFor other (other.codeFor upper)) →
          row.codeFor upper = other.codeFor upper) :
      ((sentRows upper settings stock queue).map f).Nodup := by
    rw [sentRows, List.map_map]
    refine hnodup.map_on fun row hrow other hother hsame => ?_
    rw [List.mem_filter, Bool.and_eq_true] at hrow hother
    exact hinj row hrow.1 hrow.2.1 other hother.1 hother.2.1 (hf row other hsame)
  refine ⟨fun p hp => ?_, hmap _ fun _ _ h => h, hmap _ fun _ _ h => targetOf_payloadFor_inj hstart h,
    fun p hp other hother htarget => ?_⟩
  · obtain ⟨row, hrow, hvalid, -, rfl⟩ := mem_sentRows.mp hp
    obtain ⟨stored, hstored, -⟩ := hcoded row hrow hvalid
    exact ⟨stored, hstored⟩
  · obtain ⟨row, hrow, hvalid, hlink, rfl⟩ := mem_sentRows.mp hp
    -- a row that has the link had it before
    have hbefore := hlinks other.id
    rw [xeroIdOf, Table.find?_of_mem hother] at hbefore
    obtain ⟨old, hfound, hxero⟩ := Option.map_eq_some_iff.mp hbefore.symm
    have hold := Table.mem_of_find? hfound
    rw [htarget] at hxero
    simp only [targetOf, PushSettings.payloadFor, buildStockItemPayload] at hxero
    cases hitem : listedItem settings.items (row.codeFor upper) with
    | none =>
        rw [hitem] at hxero
        exact hstart.mint_unlinked _ old hold hxero
    | some item =>
        rw [hitem] at hxero
        have hself : old.id = row.id := by
          by_contra hne
          rw [PushSettings.linkRefused, hitem, Option.any_some] at hlink
          exact Bool.eq_false_iff.mp hlink (linkedElsewhere_iff.mpr ⟨old, hold, hxero, hne⟩)
        obtain ⟨hmem, hnone⟩ := hstart.waiting.mem hrow
        rw [Table.eq_of_key_eq hold hmem hself, hnone] at hxero
        cases hxero

lemma syncAll_of_passed (hraised : (firstPass upper settings stock queue).raised = false) :
    (syncAllLocalStockToXero upper api settings allowance stock queue).stock =
      (((batchesOf (firstPass upper settings stock queue).queued
        (firstPass upper settings stock queue).queued.length).take allowance).foldl (upsertBatch api)
          ⟨(firstPass upper settings stock queue).stock, (firstPass upper settings stock queue).failed,
            false⟩).stock := by
  simp only [syncAllLocalStockToXero, hraised, Bool.false_eq_true, if_false]

/-- **What a run that is not stopped leaves**: the codes of the first pass, and a link on exactly the rows
of the accepted batches. -/
lemma linked_syncAll (hstart : PushStart settings api stock queue limit)
    (hraised : (firstPass upper settings stock queue).raised = false) :
    Linked (firstPass upper settings stock queue).stock
      (syncAllLocalStockToXero upper api settings allowance stock queue).stock
      (acceptedIds api ((batchesOf (sentRows upper settings stock queue)
        (sentRows upper settings stock queue).length).take allowance)) := by
  have hqueued := (firstPass_spec hstart.waiting.waiting hstart.unique_codes hraised).2.2.2.2
  have hlinkable := linkable_of_firstPass hstart hraised
  rw [syncAll_of_passed hraised, hqueued]
  refine (foldl_upsertBatch (s := ⟨_, _, false⟩) _ (hlinkable.sublist ?_) rfl).2
  have hparts := flatten_batchesOf (sentRows upper settings stock queue) (Nat.le_refl _)
  rw [← List.take_append_drop allowance (batchesOf (sentRows upper settings stock queue)
    (sentRows upper settings stock queue).length), List.flatten_append] at hparts
  conv_rhs => rw [← hparts]
  exact List.sublist_append_left _ _

end Run

/-! ## Two runs -/

/-- Xero as it answers where it refuses a price above a limit. -/
def limitedApi : ItemsApi where
  accepts := fun payload => payload.purchaseDetails.unitPrice ≤ 1000000
  mint := fun code => "item-" ++ code
  answer := fun batch =>
    if batch.all fun payload => payload.purchaseDetails.unitPrice ≤ 1000000 then
      some (batch.map fun p => ⟨p.code, p.itemId.getD ("item-" ++ p.code)⟩)
    else none
  answer_refused := fun _ ⟨p, hp, hrefused⟩ =>
    if_neg fun hall => Bool.false_ne_true (hrefused.symm.trans (List.all_eq_true.mp hall p hp))
  answer_accepted := fun _ hall => if_pos (List.all_eq_true.mpr hall)

def waitingRow (id : String) (specifics : String) (unitCost : ℚ) : StockRow where
  id
  itemCode := none
  description := "Sheet " ++ specifics
  quantity := 1
  unitCost
  unitRevenue := some 20
  metalType := some "mild_steel"
  alloy := none
  specifics := some specifics
  date := 0
  isActive := true
  xeroId := none

/-- Codes of purchase and sales, and no item in Xero yet. -/
def plainSettings : PushSettings := ⟨"300", "200", []⟩

/-- Rows whose ids differ are a table. -/
def stockOf (rows : List StockRow) : Table StockRow.id :=
  rows.foldl Table.upsert Table.empty

end Docketworks.Xero
