import Mathlib.Data.List.Pairwise
import Docketworks.Purchasing.CountRules

/-!
# What the counts rest on

Facts about the counts that hold in every state the services reach, whatever is asked and in
whatever order.

* `CountsSound` — a count names an identity once, and one that is there; material newly found
  starts from nothing; every balance is a number of thousandths.
* `createStocktake_keeps_sound`, `saveStocktake_keeps_sound`, `postStocktake_keeps_sound`,
  `correctStocktake_keeps_sound` — the four operations on counts preserve it;
  `countsSound_rules` — so does every other.
* `step_keeps_posted` — a count that is posted stays as it is, whatever is asked next.
-/

namespace Docketworks

open Library Library.Transaction

namespace Purchasing

/-! ## The invariant -/

structure CountsSound (db : Purchasing) : Prop where
  scale : ∀ stock ∈ db.stock.rows, IsDecimal 3 stock.quantity
  counted : ∀ line ∈ db.stocktakeLines.rows, (db.stocktakes.find? line.stocktake).isSome
  known : ∀ line ∈ db.stocktakeLines.rows, ∀ stock ∈ line.stock, (db.stock.find? stock).isSome
  once : ∀ line ∈ db.stocktakeLines.rows, ∀ other ∈ db.stocktakeLines.rows,
    line.stocktake = other.stocktake → ∀ stock, line.stock = some stock →
      other.stock = some stock → line.id = other.id
  found : ∀ line ∈ db.stocktakeLines.rows, line.stock = none → line.expectedQuantity = 0

lemma CountsSound.congr {db db' : Purchasing} (h : CountsSound db) (hstock : db'.stock = db.stock)
    (hcounts : db'.stocktakes = db.stocktakes) (hlines : db'.stocktakeLines = db.stocktakeLines) :
    CountsSound db' := by
  obtain ⟨hscale, hcounted, hknown, honce, hfound⟩ := h
  constructor
  · rwa [hstock]
  · rwa [hcounts, hlines]
  · rwa [hstock, hlines]
  · rwa [hlines]
  · rwa [hlines]

lemma CountsSound.withStock {db : Purchasing} (h : CountsSound db) {stock : Table Stock.id}
    (hscale : ∀ s ∈ stock.rows, IsDecimal 3 s.quantity)
    (hkept : ∀ id, (db.stock.find? id).isSome → (stock.find? id).isSome) :
    CountsSound { db with stock := stock } where
  scale := hscale
  counted := h.counted
  known line hline s hs := hkept s (h.known line hline s hs)
  once := h.once
  found := h.found

lemma CountsSound.withStocktakes {db : Purchasing} (h : CountsSound db)
    {counts : Table Stocktake.id}
    (hkept : ∀ id, (db.stocktakes.find? id).isSome → (counts.find? id).isSome) :
    CountsSound { db with stocktakes := counts } where
  scale := h.scale
  counted line hline := hkept _ (h.counted line hline)
  known := h.known
  once := h.once
  found := h.found

lemma countsSound_rules : CountRules CountsSound where
  elsewhere hstock hcounts hlines hdb := hdb.congr hstock hcounts hlines
  rewritten := by
    intro db stored row hstored hquantity hdb
    refine hdb.withStock (fun s hs => ?_) fun id => Table.isSome_find?_put hstored
    rcases Table.mem_put.mp hs with ⟨hold, -⟩ | ⟨rfl, -⟩
    · exact hdb.scale s hold
    · rcases hquantity with hsame | hscale
      · rw [hsame]
        exact hdb.scale stored (Table.mem_of_find? hstored)
      · exact hscale
  identity := by
    intro db row stock hempty hinsert hdb
    refine hdb.withStock (fun s hs => ?_) fun id => Table.isSome_find?_insert? hinsert
    rcases (Table.mem_insert? hinsert).mp hs with hold | rfl
    · exact hdb.scale s hold
    · rw [hempty]
      exact isDecimal_zero

/-! ## Storing a line -/

lemma run_theStocktake {id : ℕ} {count : Stocktake} {db db' : Purchasing}
    (h : (theStocktake id).run db = .ok (count, db')) :
    db.stocktakes.find? id = some count ∧ db' = db := by
  simp only [theStocktake, run_bind, run_read, run_orRefuse] at h
  obtain ⟨_, _, ⟨rfl, rfl⟩, hfound, rfl⟩ := h
  exact ⟨hfound, rfl⟩

/-- **A line is stored**: it is found under its key, and every other row is as it was. -/
lemma run_storeLine {line : StocktakeLine} {db db' : Purchasing} {u : Unit}
    (h : (storeLine line).run db = .ok (u, db')) :
    ∃ lines, db' = { db with stocktakeLines := lines } ∧ lines.find? line.id = some line ∧
      ∀ row, row ∈ lines.rows ↔ row = line ∨ row ∈ db.stocktakeLines.rows ∧ row.id ≠ line.id := by
  simp only [storeLine, run_bind, run_require, run_read] at h
  obtain ⟨_, _, ⟨-, rfl⟩, _, _, ⟨-, rfl⟩, _, _, ⟨-, rfl⟩, _, _, ⟨-, rfl⟩, _, _, ⟨rfl, rfl⟩, h⟩ := h
  split at h
  · rename_i stored hstored
    obtain rfl := run_write.mp h
    refine ⟨_, rfl, Table.find?_put_self hstored, fun row => ?_⟩
    rw [Table.mem_put, hstored]
    simp [or_comm]
  · rename_i hnone
    simp only [run_bind, run_orRefuse, run_write] at h
    obtain ⟨lines, _, ⟨hinsert, rfl⟩, rfl⟩ := h
    refine ⟨lines, rfl, Table.find?_insert?_self hinsert, fun row => ?_⟩
    rw [Table.mem_insert? hinsert, or_comm]
    refine or_congr_right ⟨fun hrow => ⟨hrow, ?_⟩, And.left⟩
    exact Table.find?_eq_none_iff.mp hnone row hrow

lemma run_insertStocktake {count : Stocktake} {db db' : Purchasing} {u : Unit}
    (h : (insertStocktake count).run db = .ok (u, db')) :
    ∃ counts, db.stocktakes.insert? count = some counts ∧
      db' = { db with stocktakes := counts } := by
  simp only [insertStocktake, run_bind, run_read, run_require, run_orRefuse, run_write] at h
  obtain ⟨_, _, ⟨rfl, rfl⟩, _, _, ⟨-, rfl⟩, counts, _, ⟨hinsert, rfl⟩, rfl⟩ := h
  exact ⟨counts, hinsert, rfl⟩

/-- The facts about lines that a line stored over another, or beside them, leaves: all but that a
count names an identity once. -/
structure LinesSound (db : Purchasing) : Prop where
  scale : ∀ stock ∈ db.stock.rows, IsDecimal 3 stock.quantity
  counted : ∀ line ∈ db.stocktakeLines.rows, (db.stocktakes.find? line.stocktake).isSome
  known : ∀ line ∈ db.stocktakeLines.rows, ∀ stock ∈ line.stock, (db.stock.find? stock).isSome
  found : ∀ line ∈ db.stocktakeLines.rows, line.stock = none → line.expectedQuantity = 0

lemma CountsSound.linesSound {db : Purchasing} (h : CountsSound db) : LinesSound db :=
  ⟨h.scale, h.counted, h.known, h.found⟩

/-- A line of a count that is there, of an identity that is there or of nothing expected. -/
structure LineSound (db : Purchasing) (line : StocktakeLine) : Prop where
  counted : (db.stocktakes.find? line.stocktake).isSome
  known : ∀ stock ∈ line.stock, (db.stock.find? stock).isSome
  found : line.stock = none → line.expectedQuantity = 0

lemma LinesSound.store {db : Purchasing} {line : StocktakeLine} {lines : Table StocktakeLine.id}
    (h : LinesSound db) (hline : LineSound db line)
    (hrows : ∀ row, row ∈ lines.rows ↔
      row = line ∨ row ∈ db.stocktakeLines.rows ∧ row.id ≠ line.id) :
    LinesSound { db with stocktakeLines := lines } := by
  constructor
  · exact h.scale
  · intro row hrow
    rcases (hrows row).mp hrow with rfl | ⟨hold, -⟩
    · exact hline.counted
    · exact h.counted row hold
  · intro row hrow
    rcases (hrows row).mp hrow with rfl | ⟨hold, -⟩
    · exact hline.known
    · exact h.known row hold
  · intro row hrow
    rcases (hrows row).mp hrow with rfl | ⟨hold, -⟩
    · exact hline.found
    · exact h.found row hold

/-- The lines of the other counts name an identity once each. -/
def OnceBeside (count : ℕ) (db : Purchasing) : Prop :=
  ∀ line ∈ db.stocktakeLines.rows, ∀ other ∈ db.stocktakeLines.rows, line.stocktake ≠ count →
    line.stocktake = other.stocktake → ∀ stock, line.stock = some stock →
      other.stock = some stock → line.id = other.id

lemma CountsSound.onceBeside {db : Purchasing} (h : CountsSound db) (count : ℕ) :
    OnceBeside count db :=
  fun line hline other hother _ => h.once line hline other hother

lemma OnceBeside.store {count : ℕ} {db : Purchasing} {line : StocktakeLine}
    {lines : Table StocktakeLine.id} (h : OnceBeside count db) (hline : line.stocktake = count)
    (hrows : ∀ row, row ∈ lines.rows ↔
      row = line ∨ row ∈ db.stocktakeLines.rows ∧ row.id ≠ line.id) :
    OnceBeside count { db with stocktakeLines := lines } := by
  intro row hrow other hother hne hsame
  rcases (hrows row).mp hrow with rfl | ⟨hold, -⟩
  · exact absurd hline hne
  · rcases (hrows other).mp hother with rfl | ⟨hold', -⟩
    · exact absurd (hsame.trans hline) hne
    · exact h row hold other hold' hne hsame

/-- What is left to show of a count written line by line is that its own lines name an identity
once. -/
lemma LinesSound.countsSound (count : ℕ) {db : Purchasing} (h : LinesSound db)
    (hbeside : OnceBeside count db)
    (honce : ∀ line ∈ db.stocktakeLines.rows, ∀ other ∈ db.stocktakeLines.rows,
      line.stocktake = count → other.stocktake = count → ∀ stock, line.stock = some stock →
        other.stock = some stock → line.id = other.id) : CountsSound db where
  scale := h.scale
  counted := h.counted
  known := h.known
  once line hline other hother hsame := by
    by_cases hcount : line.stocktake = count
    · exact honce line hline other hother hcount (hsame ▸ hcount)
    · exact hbeside line hline other hother hcount hsame
  found := h.found

/-! ## The four operations -/

lemma createStocktake_keeps_sound {stock : Option ℕ} : Keeps CountsSound (createStocktake stock) := by
  intro db hdb _ db' h
  simp only [createStocktake, run_bind, run_read, run_orRefuse, run_newId] at h
  obtain ⟨_, _, ⟨rfl, rfl⟩, job, _, ⟨-, rfl⟩, id, _, ⟨-, rfl⟩, _, t, hinsert, h⟩ := h
  obtain ⟨counts, hnew, rfl⟩ := run_insertStocktake hinsert
  have hnumbered : CountsSound { db with fresh := db.fresh + 1 } := hdb.congr rfl rfl rfl
  have hcounts := hnumbered.withStocktakes fun _ => Table.isSome_find?_insert? hnew
  split at h
  · obtain ⟨-, rfl⟩ := run_pure.mp h
    exact hcounts
  · simp only [run_bind, run_theStock, run_newId] at h
    obtain ⟨found, _, ⟨hfound, rfl⟩, _, t, hcountable, lineId, _, ⟨-, rfl⟩, hstore⟩ := h
    obtain rfl := readOnly_requireWorkshopStock _ _ _ hcountable
    obtain ⟨lines, rfl, -, hrows⟩ := run_storeLine hstore
    have hkey := Table.key_of_find? hfound
    have ht : CountsSound { db with stocktakes := counts, fresh := db.fresh + 1 + 1 } :=
      hcounts.congr rfl rfl rfl
    have hline : LineSound { db with stocktakes := counts, fresh := db.fresh + 1 + 1 }
        (snapshotLine lineId id found) := by
      refine ⟨?_, fun s hs => ?_, fun hnone => absurd hnone (Option.some_ne_none _)⟩
      · show (counts.find? id).isSome
        rw [Table.find?_insert?_self hnew]
        rfl
      · obtain rfl : found.id = s := Option.some.inj hs
        show (db.stock.find? found.id).isSome
        rw [hkey, hfound]
        rfl
    refine (ht.linesSound.store hline hrows).countsSound id ((ht.onceBeside id).store rfl hrows) ?_
    -- the count is new, so the one line stored is all it has
    have hown : ∀ row ∈ lines.rows, row.stocktake = id → row = snapshotLine lineId id found := by
      intro row hrow hcount
      rcases (hrows row).mp hrow with heq | ⟨hold, -⟩
      · exact heq
      · have hthere := hdb.counted row hold
        rw [hcount, Table.find?_of_insert? hnew] at hthere
        cases hthere
    intro line hline' other hother hcount hcount' _ _ _
    rw [hown line hline' hcount, hown other hother hcount']

lemma run_saveLine {count : Stocktake} {data : StocktakeLineWrite} {db db' : Purchasing} {u : Unit}
    (h : (saveLine count data).run db = .ok (u, db')) :
    ∃ line, (storeLine line).run db = .ok ((), db') ∧ line.id = data.id ∧
      line.stocktake = count.id ∧ line.stock = data.stockId ∧
      (∀ stock ∈ data.stockId, (db.stock.find? stock).isSome) ∧
      (data.stockId = none → line.expectedQuantity = 0) := by
  have hcheck : ∀ {t : Purchasing} {u : Unit}, (checkObservation data).run db = .ok (u, t) →
      t = db ∧ (∀ stock ∈ data.stockId, (db.stock.find? stock).isSome) ∧
        (data.stockId = none → data.expectedQuantity = 0) := by
    intro t u hrun
    unfold checkObservation at hrun
    split at hrun
    · rename_i stock hstock
      simp only [run_bind, run_theStock, run_require] at hrun
      obtain ⟨found, _, ⟨hfound, rfl⟩, _, _, hcountable, _, _, ⟨-, rfl⟩, -, rfl⟩ := hrun
      obtain rfl := readOnly_requireWorkshopStock _ _ _ hcountable
      refine ⟨rfl, fun s hs => ?_, fun hnone => absurd (hstock.symm.trans hnone) (Option.some_ne_none _)⟩
      obtain rfl : stock = s := Option.some.inj (hstock.symm.trans hs)
      rw [hfound]
      rfl
    · rename_i hnone
      obtain ⟨⟨hzero, -⟩, rfl⟩ := run_require.mp hrun
      exact ⟨rfl, fun s hs => absurd (hnone.symm.trans hs) (Option.some_ne_none s).symm, fun _ => hzero⟩
  simp only [saveLine, run_bind, run_read, run_require, run_column] at h
  obtain ⟨_, _, hobserved, _, _, ⟨rfl, rfl⟩, _, _, ⟨-, rfl⟩, expected, _, ⟨-, rfl, rfl⟩, counted, t,
    hcounted, unitCost, _, ⟨-, rfl, rfl⟩, hstore⟩ := h
  obtain ⟨rfl, hknown, hnothing⟩ := hcheck hobserved
  obtain rfl := readOnly_column? _ _ _ hcounted
  refine ⟨_, hstore, rfl, rfl, rfl, hknown, fun hnone => ?_⟩
  show roundHalfAway 3 data.expectedQuantity = 0
  rw [hnothing hnone, roundHalfAway_of_isDecimal isDecimal_zero]

/-- A draft in the middle of its save: `done` are the lines written so far. -/
structure Saving (count : Stocktake) (done : List StocktakeLineWrite) (db : Purchasing) :
    Prop where
  lines : LinesSound db
  beside : OnceBeside count.id db
  there : db.stocktakes.find? count.id = some count
  written : ∀ line ∈ db.stocktakeLines.rows, ∀ data ∈ done, data.id = line.id →
    line.stock = data.stockId

lemma saveLine_saves {count : Stocktake} {done : List StocktakeLineWrite}
    {data : StocktakeLineWrite} (hnew : data.id ∉ done.map StocktakeLineWrite.id) :
    Triple (Saving count done) (saveLine count data)
      (fun _ => Saving count (done ++ [data])) := by
  intro db hdb _ db' h
  obtain ⟨line, hstore, hid, hcount, hstock, hknown, hnothing⟩ := run_saveLine h
  obtain ⟨lines, rfl, -, hrows⟩ := run_storeLine hstore
  have hline : LineSound db line := by
    refine ⟨?_, fun s hs => hknown s (hstock ▸ hs), fun hnone => hnothing (hstock.symm.trans hnone)⟩
    rw [hcount, hdb.there]
    rfl
  refine ⟨hdb.lines.store hline hrows, hdb.beside.store hcount hrows, hdb.there, ?_⟩
  intro row hrow d hd hkey
  rcases (hrows row).mp hrow with rfl | ⟨hold, hne⟩
  · rcases List.mem_append.mp hd with hd | hd
    · exact absurd (List.mem_map.mpr ⟨d, hd, hkey.trans hid⟩) hnew
    · obtain rfl := List.mem_singleton.mp hd
      exact hstock
  · rcases List.mem_append.mp hd with hd | hd
    · exact hdb.written row hold d hd hkey
    · obtain rfl := List.mem_singleton.mp hd
      exact absurd (hkey.symm.trans hid.symm) hne

lemma saveLines_saves {count : Stocktake} {done lines : List StocktakeLineWrite}
    (hnodup : ((done ++ lines).map StocktakeLineWrite.id).Nodup) :
    Triple (Saving count done) (lines.forM (saveLine count))
      (fun _ => Saving count (done ++ lines)) := by
  induction lines generalizing done with
  | nil => exact .pure fun db hdb => by simpa using hdb
  | cons data lines ih =>
      have hnew : data.id ∉ done.map StocktakeLineWrite.id := by
        rw [List.map_append, List.map_cons, List.nodup_append] at hnodup
        exact fun hmem => hnodup.2.2 _ hmem _ List.mem_cons_self rfl
      rw [List.append_cons] at hnodup ⊢
      exact .bind (saveLine_saves hnew) fun _ => ih hnodup

lemma run_eraseLines {doomed : List StocktakeLine} {db db' : Purchasing} {u : Unit}
    (h : (doomed.forM fun line => (.write fun db =>
      { db with stocktakeLines := db.stocktakeLines.erase line.id } : PurchasingCall Unit)).run db =
        .ok (u, db')) :
    ∃ lines, db' = { db with stocktakeLines := lines } ∧
      ∀ row, row ∈ lines.rows ↔
        row ∈ db.stocktakeLines.rows ∧ ∀ line ∈ doomed, row.id ≠ line.id := by
  induction doomed generalizing db with
  | nil =>
      obtain rfl := run_forM_nil.mp h
      exact ⟨_, rfl, fun row => by simp⟩
  | cons line doomed ih =>
      obtain ⟨t, hfirst, hrest⟩ := run_forM_cons.mp h
      obtain rfl := run_write.mp hfirst
      obtain ⟨lines, rfl, hrows⟩ := ih hrest
      refine ⟨lines, rfl, fun row => ?_⟩
      rw [hrows row, Table.mem_erase, List.forall_mem_cons, and_assoc]

lemma eq_of_stockId_eq {lines : List StocktakeLineWrite} {data other : StocktakeLineWrite}
    (hnodup : (lines.filterMap StocktakeLineWrite.stockId).Nodup) (hdata : data ∈ lines)
    (hother : other ∈ lines) {stock : ℕ} (hstock : data.stockId = some stock)
    (hstock' : other.stockId = some stock) : data = other := by
  rw [List.Nodup, List.pairwise_filterMap] at hnodup
  have hsymm : Std.Symm fun a b : StocktakeLineWrite =>
      ∀ x, a.stockId = some x → ∀ y, b.stockId = some y → x ≠ y :=
    ⟨fun _ _ h x hx y hy heq => h y hy x hx heq.symm⟩
  by_contra hne
  exact hnodup.forall hdata hother hne stock hstock stock hstock' rfl

lemma saveStocktake_keeps_sound {count : ℕ} {lines : List StocktakeLineWrite}
    {ifMatch : List StocktakeETag} : Keeps CountsSound (saveStocktake count lines ifMatch) := by
  intro db hdb _ db' h
  simp only [saveStocktake, run_bind, run_require, run_read, run_write] at h
  obtain ⟨count, _, hcount, _, t, hdraft, _, _, ⟨⟨hids, hstocks⟩, rfl⟩, _, t₁, hsave, _, _, ⟨rfl, rfl⟩,
    _, t₂, herase, rfl⟩ := h
  obtain rfl := readOnly_requireDraft _ _ _ hdraft
  obtain ⟨hfound, rfl⟩ := run_theStocktake hcount
  have hkey := Table.key_of_find? hfound
  have hstart : Saving count [] t := by
    exact ⟨hdb.linesSound, hdb.onceBeside _, hkey ▸ hfound,
      fun _ _ _ hd => absurd hd List.not_mem_nil⟩
  have hsaved := saveLines_saves (by simpa using hids) _ hstart _ _ hsave
  rw [List.nil_append] at hsaved
  obtain ⟨kept, rfl, hrows⟩ := run_eraseLines herase
  have hsub : ∀ line ∈ kept.rows, line ∈ t₁.stocktakeLines.rows := fun line hline =>
    ((hrows line).mp hline).1
  have hkept : CountsSound { t₁ with stocktakeLines := kept } := by
    refine LinesSound.countsSound count.id ?_ ?_ ?_
    · exact ⟨hsaved.lines.scale, fun l hl => hsaved.lines.counted l (hsub l hl),
        fun l hl => hsaved.lines.known l (hsub l hl), fun l hl => hsaved.lines.found l (hsub l hl)⟩
    · exact fun line hline other hother =>
        hsaved.beside line (hsub line hline) other (hsub other hother)
    -- a line of the count that is left is one of the save's
    have hwritten : ∀ line ∈ kept.rows, line.stocktake = count.id →
        ∃ data ∈ lines, data.id = line.id ∧ line.stock = data.stockId := by
      intro line hline hown
      obtain ⟨hmem, hspared⟩ := (hrows line).mp hline
      by_contra hnone
      refine hspared line (List.mem_filter.mpr ⟨hmem, ?_⟩) rfl
      simp only [Bool.and_eq_true, decide_eq_true_eq, Bool.not_eq_true', List.contains_eq_mem,
        decide_eq_false_iff_not, List.mem_map, not_exists, not_and]
      refine ⟨hown, fun data hdata hid => hnone ⟨data, hdata, hid, ?_⟩⟩
      exact hsaved.written line hmem data hdata hid
    intro line hline other hother hown hown' stock hstock hstock'
    obtain ⟨data, hdata, hid, hnamed⟩ := hwritten line hline hown
    obtain ⟨data', hdata', hid', hnamed'⟩ := hwritten other hother hown'
    have hsame := eq_of_stockId_eq hstocks hdata hdata' (hnamed.symm.trans hstock)
      (hnamed'.symm.trans hstock')
    rw [← hid, ← hid', hsame]
  have hstored : t₁.stocktakes.find? ({ count with version := count.version + 1 } : Stocktake).id =
      some count := hsaved.there
  exact hkept.withStocktakes fun _ => Table.isSome_find?_put hstored

lemma CountsSound.pairwise_apart {db : Purchasing} (h : CountsSound db) (count : ℕ)
    {p : StocktakeLine → Bool} (hp : ∀ line, p line = true → line.stocktake = count) :
    (db.stocktakeLines.rows.filter p).Pairwise fun line other =>
      ∀ stock, line.stock = some stock → other.stock ≠ some stock := by
  have hkeys : db.stocktakeLines.rows.Pairwise fun line other => line.id ≠ other.id :=
    List.pairwise_map.mp db.stocktakeLines.nodup
  refine (hkeys.filter p).imp_of_mem fun {line other} hline hother hne stock hstock hstock' => ?_
  obtain ⟨hmem, hown⟩ := List.mem_filter.mp hline
  obtain ⟨hmem', hown'⟩ := List.mem_filter.mp hother
  exact hne (h.once line hmem other hmem' ((hp line hown).trans (hp other hown').symm) stock hstock
    hstock')

/-- A correction in the middle of its copying: `done` are the lines passed so far. -/
structure Correcting (correction : ℕ) (done : List StocktakeLine) (db : Purchasing) : Prop where
  sound : CountsSound db
  there : (db.stocktakes.find? correction).isSome
  copied : ∀ row ∈ db.stocktakeLines.rows, row.stocktake = correction →
    ∃ line ∈ done, line.stock = row.stock

/-- `correct_stocktake` on one line of the original. -/
def copyLine (correction : ℕ) (line : StocktakeLine) : PurchasingCall Unit :=
  match line.stock with
  | none => pure ()
  | some stock => do
      let stock ← theStock stock
      let lineId ← newId
      storeLine (snapshotLine lineId correction stock)

lemma Correcting.more {correction : ℕ} {done : List StocktakeLine} {db : Purchasing}
    (h : Correcting correction done db) (line : StocktakeLine) :
    Correcting correction (done ++ [line]) db := by
  refine ⟨h.sound, h.there, fun row hrow hown => ?_⟩
  obtain ⟨copied, hmem, hstock⟩ := h.copied row hrow hown
  exact ⟨copied, List.mem_append_left _ hmem, hstock⟩

lemma copyLine_copies {correction : ℕ} {done : List StocktakeLine} {line : StocktakeLine}
    (hapart : ∀ other ∈ done, ∀ stock, other.stock = some stock → line.stock ≠ some stock) :
    Triple (Correcting correction done) (copyLine correction line)
      (fun _ => Correcting correction (done ++ [line])) := by
  intro db hdb _ db' h
  unfold copyLine at h
  split at h
  · obtain ⟨-, rfl⟩ := run_pure.mp h
    exact hdb.more line
  · rename_i stock hstock
    simp only [run_bind, run_theStock, run_newId] at h
    obtain ⟨found, _, ⟨hfound, rfl⟩, lineId, _, ⟨-, rfl⟩, hstore⟩ := h
    obtain ⟨lines, rfl, -, hrows⟩ := run_storeLine hstore
    have hkey : found.id = stock := Table.key_of_find? hfound
    have hsound : CountsSound { db with fresh := db.fresh + 1 } := hdb.sound.congr rfl rfl rfl
    have hline : LineSound { db with fresh := db.fresh + 1 }
        (snapshotLine lineId correction found) := by
      refine ⟨hdb.there, fun s hs => ?_, fun hnone => absurd hnone (Option.some_ne_none _)⟩
      obtain rfl : found.id = s := Option.some.inj hs
      show (db.stock.find? found.id).isSome
      rw [hkey, hfound]
      rfl
    -- what is copied so far is of other identities
    have hfresh : ∀ row ∈ db.stocktakeLines.rows, row.stocktake = correction →
        row.stock ≠ some found.id := by
      intro row hrow hown hsame
      obtain ⟨copied, hmem, hcopied⟩ := hdb.copied row hrow hown
      exact hapart copied hmem found.id (hcopied.trans hsame) (hkey ▸ hstock)
    refine ⟨(hsound.linesSound.store hline hrows).countsSound correction
      ((hsound.onceBeside correction).store rfl hrows) ?_, hdb.there, ?_⟩
    · intro row hrow other hother hown hown' s hs hs'
      rcases (hrows row).mp hrow with rfl | ⟨hold, -⟩ <;>
        rcases (hrows other).mp hother with rfl | ⟨hold', -⟩
      · rfl
      · exact absurd (hs'.trans (hs.symm.trans rfl)) (hfresh other hold' hown')
      · exact absurd (hs.trans (hs'.symm.trans rfl)) (hfresh row hold hown)
      · exact hdb.sound.once row hold other hold' (hown.trans hown'.symm) s hs hs'
    · intro row hrow hown
      rcases (hrows row).mp hrow with rfl | ⟨hold, -⟩
      · refine ⟨line, List.mem_append_right _ List.mem_cons_self, hstock.trans ?_⟩
        rw [← hkey]
        rfl
      · obtain ⟨copied, hmem, hcopied⟩ := hdb.copied row hold hown
        exact ⟨copied, List.mem_append_left _ hmem, hcopied⟩

lemma copyLines_copies {correction : ℕ} (done : List StocktakeLine) {lines : List StocktakeLine}
    (hapart : (done ++ lines).Pairwise fun line other =>
      ∀ stock, line.stock = some stock → other.stock ≠ some stock) :
    Triple (Correcting correction done) (lines.forM (copyLine correction))
      (fun _ => Correcting correction (done ++ lines)) := by
  induction lines generalizing done with
  | nil => exact .pure fun db hdb => by simpa using hdb
  | cons line lines ih =>
      have hhead : ∀ other ∈ done, ∀ stock, other.stock = some stock → line.stock ≠ some stock :=
        fun other hother => (List.pairwise_append.mp hapart).2.2 other hother line List.mem_cons_self
      rw [List.append_cons] at hapart ⊢
      exact .bind (copyLine_copies hhead) fun _ => ih _ hapart

lemma correctStocktake_keeps_sound {count : ℕ} {ifMatch : List StocktakeETag} :
    Keeps CountsSound (correctStocktake count ifMatch) := by
  refine .bind (ReadOnly.keeps (.bind .read fun _ => .orRefuse)) fun original =>
    .bind .require fun _ => .bind .require fun _ => ?_
  intro db hdb _ db' h
  simp only [run_bind, run_read, run_when, run_newId] at h
  obtain ⟨_, _, ⟨rfl, rfl⟩, ⟨-, id, _, ⟨-, rfl⟩, _, t, hinsert, hcopy⟩ | ⟨-, rfl⟩⟩ := h
  · obtain ⟨counts, hnew, rfl⟩ := run_insertStocktake hinsert
    have hnumbered : CountsSound { db with fresh := db.fresh + 1 } := hdb.congr rfl rfl rfl
    have hcounts := hnumbered.withStocktakes fun _ => Table.isSome_find?_insert? hnew
    have hstart : Correcting id [] { db with fresh := db.fresh + 1, stocktakes := counts } := by
      refine ⟨hcounts, ?_, fun row hrow hown => ?_⟩
      · show (counts.find? id).isSome
        rw [Table.find?_insert?_self hnew]
        rfl
      · have hthere := hdb.counted row hrow
        rw [hown, Table.find?_of_insert? hnew] at hthere
        cases hthere
    have hapart := hdb.pairwise_apart original.id
      (p := fun line => decide (line.stocktake = original.id)) fun line => of_decide_eq_true
    exact (copyLines_copies [] hapart _ hstart _ _ hcopy).sound
  · exact hdb

/-! ## Posting -/

/-- The identity a posted line moves is the one it was counted on; newly found material got one,
empty, and the line names it. -/
lemma run_postedStock {line : StocktakeLine} {identity : ℕ} {db db' : Purchasing}
    (h : (postedStock line).run db = .ok (identity, db')) :
    line.stock = some identity ∧ db' = db ∨
      line.stock = none ∧ ∃ row stock, row.id = identity ∧ row.quantity = 0 ∧
        db.stock.insert? row = some stock ∧
        db' = { db with
          fresh := db.fresh + 1
          stock := stock
          stocktakeLines := db.stocktakeLines.put { line with stock := some identity } } := by
  unfold postedStock at h
  split at h
  · rename_i stock hstock
    obtain ⟨rfl, rfl⟩ := run_pure.mp h
    exact .inl ⟨hstock, rfl⟩
  · rename_i hnone
    simp only [insertStock, run_bind, run_newId, run_read, run_require, run_orRefuse, run_write,
      run_pure] at h
    obtain ⟨holding, _, hholding, id, _, ⟨-, rfl⟩, _, _, ⟨row, _, hrow, _, _, ⟨rfl, rfl⟩, _, _,
      ⟨-, rfl⟩, inserted, _, ⟨hinsert, rfl⟩, rfl⟩, _, _, rfl, rfl, rfl⟩ := h
    obtain rfl := readOnly_stockHoldingJob _ _ _ hholding
    obtain ⟨rfl, hid, hquantity, -⟩ := run_stockColumns hrow
    exact .inr ⟨hnone, row, inserted, hid, hquantity, hinsert, rfl⟩

/-- The counts are sound, and the count being posted is still the draft that was read. -/
structure SoundWith (count : Stocktake) (db : Purchasing) : Prop where
  sound : CountsSound db
  there : db.stocktakes.find? count.id = some count

lemma soundWith_rules (count : Stocktake) : CountRules (SoundWith count) where
  elsewhere hstock hcounts hlines hdb :=
    ⟨hdb.sound.congr hstock hcounts hlines, by rw [hcounts, hdb.there]⟩
  rewritten hstored hquantity hdb :=
    ⟨countsSound_rules.rewritten hstored hquantity hdb.sound, hdb.there⟩
  identity hempty hinsert hdb :=
    ⟨countsSound_rules.identity hempty hinsert hdb.sound, hdb.there⟩

lemma postedStock_keeps_sound {count : Stocktake} {line : StocktakeLine}
    (hown : line.stocktake = count.id) : Keeps (SoundWith count) (postedStock line) := by
  intro db hdb identity db' h
  rcases run_postedStock h with ⟨-, rfl⟩ | ⟨-, row, stock, rfl, hempty, hinsert, rfl⟩
  · exact hdb
  · have hgrown := countsSound_rules.identity hempty hinsert hdb.sound
    refine ⟨?_, hdb.there⟩
    -- nothing counted named the new identity before
    have hnew : ∀ other ∈ db.stocktakeLines.rows, other.stock ≠ some row.id := by
      intro other hother hsame
      have hthere := hdb.sound.known other hother row.id hsame
      rw [Table.find?_of_insert? hinsert] at hthere
      cases hthere
    have hrows : ∀ l ∈ (db.stocktakeLines.put { line with stock := some row.id }).rows,
        l = { line with stock := some row.id } ∨ l ∈ db.stocktakeLines.rows ∧ l.id ≠ line.id := by
      intro l hl
      rcases Table.mem_put.mp hl with ⟨hold, hne⟩ | ⟨heq, -⟩
      · exact .inr ⟨hold, hne⟩
      · exact .inl heq
    constructor
    · exact hgrown.scale
    · intro l hl
      rcases hrows l hl with rfl | ⟨hold, -⟩
      · show (db.stocktakes.find? line.stocktake).isSome
        rw [hown, hdb.there]
        rfl
      · exact hdb.sound.counted l hold
    · intro l hl s hs
      rcases hrows l hl with rfl | ⟨hold, -⟩
      · obtain rfl : row.id = s := Option.some.inj hs
        show (stock.find? row.id).isSome
        rw [Table.find?_insert?_self hinsert]
        rfl
      · exact hgrown.known l hold s hs
    · intro l hl other hother hsame s hs hs'
      rcases hrows l hl with rfl | ⟨hold, -⟩ <;> rcases hrows other hother with rfl | ⟨hold', -⟩
      · rfl
      · exact absurd (hs'.trans (hs.symm.trans rfl)) (hnew other hold')
      · exact absurd (hs.trans (hs'.symm.trans rfl)) (hnew l hold)
      · exact hdb.sound.once l hold other hold' hsame s hs hs'
    · intro l hl hnone
      rcases hrows l hl with rfl | ⟨hold, -⟩
      · cases hnone
      · exact hdb.sound.found l hold hnone

lemma checkAndPostLine_keeps_sound {count : Stocktake} {line : StocktakeLine} {staff job : ℕ}
    (hown : line.stocktake = count.id) :
    Keeps (SoundWith count) (checkAndPostLine staff job line) := by
  have hI := soundWith_rules count
  refine .bind ?_ fun _ => ?_
  · split
    · exact .bind readOnly_theStock.keeps fun _ => .bind readOnly_requireWorkshopStock.keeps fun _ =>
        .require
    · exact .pure
  · unfold postLine
    split
    · exact .pure
    · exact .ite (fun _ => .pure) fun _ => .bind readOnly_theJob.keeps fun _ =>
        .bind .orRefuse fun _ => .bind (postedStock_keeps_sound hown) fun _ =>
          .bind hI.ensureActualCostSet_keeps fun _ => .bind hI.newId_keeps fun _ => .bind .read fun _ =>
            .bind hI.onCosting_keeps fun _ => .bind hI.moveStock_keeps fun _ => .pure

def countedLines (lines : Table StocktakeLine.id) (count : ℕ) : List StocktakeLine :=
  lines.rows.filter fun line => line.stocktake = count && line.countedQuantity.isSome

/-- **A post** that went through answered a count that is posted, or posted a draft: the header
named its version, the adjustment job is a shop job, and each counted line was checked and posted. -/
lemma run_postStocktake {countId staff : ℕ} {ifMatch : List StocktakeETag} {db db' : Purchasing}
    {u : Unit} (h : (postStocktake countId ifMatch staff).run db = .ok (u, db')) :
    ∃ count, db.stocktakes.find? countId = some count ∧
      (count.posted = true ∧ (count.id, count.version - 1) ∈ ifMatch ∧ db' = db ∨
        count.posted = false ∧ (count.id, count.version) ∈ ifMatch ∧
          ∃ job t, db.costing.jobs.find? count.adjustmentJob = some job ∧ job.shopJob = true ∧
            ((countedLines db.stocktakeLines count.id).forM (checkAndPostLine staff job.id)).run db =
              .ok ((), t) ∧
            db' = { t with stocktakes :=
              t.stocktakes.put { count with posted := true, version := count.version + 1 } }) := by
  simp only [postStocktake, requireRevision, requireDraft, theJob, run_bind, run_ite, run_require,
    run_read, run_orRefuse, run_write] at h
  obtain ⟨count, t, hcount, h⟩ := h
  obtain ⟨hfound, rfl⟩ := run_theStocktake hcount
  refine ⟨count, hfound, ?_⟩
  rcases h with ⟨hposted, htag, rfl⟩ | ⟨hdraft, _, _, ⟨_, _, ⟨htag, rfl⟩, -, rfl⟩, _, _, ⟨rfl, rfl⟩, _,
    _, ⟨-, rfl⟩, job, _, ⟨_, _, ⟨rfl, rfl⟩, hjob, rfl⟩, _, _, ⟨hshop, rfl⟩, _, t', hloop, rfl⟩
  · exact .inl ⟨hposted, htag, rfl⟩
  · exact .inr ⟨Bool.not_eq_true _ ▸ hdraft, htag, job, t', hjob, hshop, hloop, rfl⟩

lemma postStocktake_keeps_sound {count staff : ℕ} {ifMatch : List StocktakeETag} :
    Keeps CountsSound (postStocktake count ifMatch staff) := by
  intro db hdb _ db' h
  obtain ⟨count, hfound, ⟨-, -, rfl⟩ | ⟨-, -, job, t, -, -, hloop, rfl⟩⟩ := run_postStocktake h
  · exact hdb
  · have hkey := Table.key_of_find? hfound
    have hown : ∀ line ∈ countedLines db.stocktakeLines count.id, line.stocktake = count.id :=
      fun line hline => by
        have hp := (List.mem_filter.mp hline).2
        simp only [Bool.and_eq_true, decide_eq_true_eq] at hp
        exact hp.1
    have ht : SoundWith count t := Keeps.forM (fun line hline => checkAndPostLine_keeps_sound
      (hown line hline)) _ ⟨hdb, hkey ▸ hfound⟩ _ _ hloop
    have hstored : t.stocktakes.find?
        ({ count with posted := true, version := count.version + 1 } : Stocktake).id = some count :=
      ht.there
    exact ht.sound.withStocktakes fun _ => Table.isSome_find?_put hstored

/-! ## Every run -/

lemma step_keeps_countsSound (op : Op) : Keeps CountsSound (step op) := by
  cases op with
  | createStocktake stock => exact createStocktake_keeps_sound
  | saveStocktake count lines ifMatch => exact saveStocktake_keeps_sound
  | postStocktake count ifMatch staff => exact postStocktake_keeps_sound
  | correctStocktake count ifMatch => exact correctStocktake_keeps_sound
  | _ => exact countsSound_rules.step_keeps rfl

/-- Before the first count: any inventory, its balances numbers of thousandths. -/
def NoCounts (db : Purchasing) : Prop :=
  db.stocktakeLines.rows = [] ∧ ∀ stock ∈ db.stock.rows, IsDecimal 3 stock.quantity

lemma countsSound_of_noCounts {db : Purchasing} (h : NoCounts db) : CountsSound db := by
  obtain ⟨hnone, hscale⟩ := h
  have hempty : ∀ line, line ∉ db.stocktakeLines.rows := fun line hline => by
    rw [hnone] at hline
    cases hline
  exact ⟨hscale, fun l hl => absurd hl (hempty l), fun l hl => absurd hl (hempty l),
    fun l hl => absurd hl (hempty l), fun l hl => absurd hl (hempty l)⟩

lemma countsSound_of_reachable {db : Purchasing} (h : Reachable step NoCounts db) :
    CountsSound db :=
  h.keeps (fun _ => countsSound_of_noCounts) step_keeps_countsSound

/-! ## A posted count stays -/

def RowIs (count : Stocktake) (db : Purchasing) : Prop :=
  db.stocktakes.find? count.id = some count

lemma rowIs_rules (count : Stocktake) : CountRules (RowIs count) where
  elsewhere _ hcounts _ hdb := by
    unfold RowIs
    rw [hcounts]
    exact hdb
  rewritten _ _ hdb := hdb
  identity _ _ hdb := hdb

section Row

variable {count : Stocktake}

lemma rowIs_lines {f : Purchasing → Table StocktakeLine.id} :
    Keeps (RowIs count)
      (.write fun db => { db with stocktakeLines := f db } : PurchasingCall Unit) :=
  Keeps.write fun _ hdb => hdb

lemma storeLine_keeps_row {line : StocktakeLine} : Keeps (RowIs count) (storeLine line) := by
  intro db hdb _ db' h
  obtain ⟨lines, rfl, -⟩ := run_storeLine h
  exact hdb

lemma insertStocktake_keeps_row {new : Stocktake} : Keeps (RowIs count) (insertStocktake new) := by
  intro db hdb _ db' h
  obtain ⟨counts, hinsert, rfl⟩ := run_insertStocktake h
  have hne : count.id ≠ new.id := fun heq => by
    have hnone := Table.find?_of_insert? hinsert
    rw [← heq, hdb] at hnone
    cases hnone
  exact (Table.find?_insert?_of_ne hinsert hne).trans hdb

lemma RowIs.put {db : Purchasing} (hdb : RowIs count db) (hposted : count.posted = true)
    (row : Stocktake) {draft : Stocktake} (hfound : db.stocktakes.find? row.id = some draft)
    (hdraft : draft.posted = false) {t : Purchasing} (ht : RowIs count t) :
    RowIs count { t with stocktakes := t.stocktakes.put row } := by
  have hne : count.id ≠ row.id := fun heq => by
    rw [← heq, hdb] at hfound
    obtain rfl := Option.some.inj hfound
    rw [hposted] at hdraft
    cases hdraft
  exact (Table.find?_put_of_ne hne).trans ht

lemma saveLine_keeps_row {draft : Stocktake} {data : StocktakeLineWrite} :
    Keeps (RowIs count) (saveLine draft data) := by
  intro db hdb _ db' h
  obtain ⟨line, hstore, -⟩ := run_saveLine h
  exact storeLine_keeps_row _ hdb _ _ hstore

lemma saveStocktake_keeps_row (hposted : count.posted = true) {countId : ℕ}
    {lines : List StocktakeLineWrite} {ifMatch : List StocktakeETag} :
    Keeps (RowIs count) (saveStocktake countId lines ifMatch) := by
  intro db hdb _ db' h
  simp only [saveStocktake, requireDraft, requireRevision, run_bind, run_require, run_read,
    run_write] at h
  obtain ⟨draft, t, hfound, _, _, ⟨_, _, ⟨-, rfl⟩, hdraft, rfl⟩, _, _, ⟨-, rfl⟩, _, t₁, hsave, _, _,
    ⟨rfl, rfl⟩, _, t₂, herase, rfl⟩ := h
  obtain ⟨hdraftRow, rfl⟩ := run_theStocktake hfound
  have hkey := Table.key_of_find? hdraftRow
  have h₁ := Keeps.forM (fun _ _ => saveLine_keeps_row) _ hdb _ _ hsave
  have h₂ := Keeps.forM (fun _ _ => rowIs_lines) _ h₁ _ _ herase
  exact hdb.put hposted { draft with version := draft.version + 1 } (hkey ▸ hdraftRow) hdraft h₂

lemma checkAndPostLine_keeps_row {line : StocktakeLine} {staff job : ℕ} :
    Keeps (RowIs count) (checkAndPostLine staff job line) := by
  have hI := rowIs_rules count
  refine .bind ?_ fun _ => ?_
  · split
    · exact .bind readOnly_theStock.keeps fun _ => .bind readOnly_requireWorkshopStock.keeps fun _ =>
        .require
    · exact .pure
  · unfold postLine
    split
    · exact .pure
    · refine .ite (fun _ => .pure) fun _ => .bind readOnly_theJob.keeps fun _ =>
        .bind .orRefuse fun _ => .bind ?_ fun _ => .bind hI.ensureActualCostSet_keeps fun _ =>
          .bind hI.newId_keeps fun _ => .bind .read fun _ => .bind hI.onCosting_keeps fun _ =>
            .bind hI.moveStock_keeps fun _ => .pure
      unfold postedStock
      split
      · exact .pure
      · exact .bind readOnly_stockHoldingJob.keeps fun _ => .bind hI.newId_keeps fun _ =>
          .bind (hI.insertStock_keeps rfl) fun _ => .bind rowIs_lines fun _ => .pure

lemma postStocktake_keeps_row (hposted : count.posted = true) {countId staff : ℕ}
    {ifMatch : List StocktakeETag} : Keeps (RowIs count) (postStocktake countId ifMatch staff) := by
  intro db hdb _ db' h
  obtain ⟨draft, hfound, ⟨-, -, rfl⟩ | ⟨hdraft, -, job, t, -, -, hloop, rfl⟩⟩ := run_postStocktake h
  · exact hdb
  · have hkey := Table.key_of_find? hfound
    have ht := Keeps.forM (fun _ _ => checkAndPostLine_keeps_row) _ hdb _ _ hloop
    exact hdb.put hposted { draft with posted := true, version := draft.version + 1 }
      (hkey ▸ hfound) hdraft ht

lemma step_keeps_posted (hposted : count.posted = true) (op : Op) :
    Keeps (RowIs count) (step op) := by
  have hI := rowIs_rules count
  cases op with
  | createStocktake stock =>
      refine .bind .read fun _ => .bind .orRefuse fun _ => .bind hI.newId_keeps fun _ =>
        .bind insertStocktake_keeps_row fun _ => ?_
      split
      · exact .pure
      · exact .bind readOnly_theStock.keeps fun _ => .bind readOnly_requireWorkshopStock.keeps fun _ =>
          .bind hI.newId_keeps fun _ => storeLine_keeps_row
  | saveStocktake countId lines ifMatch => exact saveStocktake_keeps_row hposted
  | postStocktake countId ifMatch staff => exact postStocktake_keeps_row hposted
  | correctStocktake countId ifMatch =>
      refine .bind readOnly_theStocktake.keeps fun _ => .bind .require fun _ => .bind .require fun _ =>
        .bind .read fun _ => .when fun _ => .bind hI.newId_keeps fun _ =>
          .bind insertStocktake_keeps_row fun _ => .forM fun line _ => ?_
      split
      · exact .pure
      · exact .bind readOnly_theStock.keeps fun _ => .bind hI.newId_keeps fun _ =>
          storeLine_keeps_row
  | _ => exact hI.step_keeps rfl

end Row

end Purchasing

end Docketworks
