import Docketworks.Purchasing.Counts
import Docketworks.Purchasing.Evidence
import Docketworks.Purchasing.LedgerRuns

/-!
# A count is posted as it was counted, once

Lines are posted one after another, each against the identity it was counted on.  A pass over one
line leaves the rows of the others alone, so what it booked and the balance it left stand at the
end of the post.

* `Booked` — the movement and the cost line of one counted difference.
* `HoldsCount` — the line's identity is at the counted quantity.
* `run_checkAndPostLine` — one pass; `run_postLines` — all of them, by induction on the lines.
* `PostedAsCounted`, `stocktake_posts_what_was_counted_once` — a post, its repeats and its
  refusals, from any state the services reach.
-/

namespace Docketworks

open Library Library.Transaction

/-- The difference between what was counted and what was on record; none without a count. -/
def StocktakeLine.difference (line : StocktakeLine) : ℚ :=
  line.countedQuantity.elim 0 fun counted => counted - line.expectedQuantity

namespace Purchasing

/-- The movement and the cost line that book the difference of a counted line on the job. -/
structure Booked (db : Purchasing) (job : ℕ) (line : StocktakeLine)
    (booked : StockMovement × CostLine) : Prop where
  kind : booked.1.kind = .stocktake
  observation : booked.1.stocktakeLine = some line.id
  /-- The movement moves the line's own identity by the difference. -/
  identity : ∃ row, db.stocktakeLines.find? line.id = some row ∧ row.stock = some booked.1.stock
  change : booked.1.quantityChange = line.difference
  counterpart : booked.1.counterpartJob = some job
  /-- The cost line takes the opposite quantity, on the job's actuals. -/
  cost : booked.1.costLine = some booked.2.id
  quantity : booked.2.quantity = -line.difference
  owner : booked.2.managedBy = some .stocktake
  charged : ∃ set, db.costing.costSets.find? booked.2.costSet = some set ∧ set.job = job ∧
    set.kind = .actual

/-- The line stands as it was saved, its identity apart, and its identity is at the counted
quantity; nothing found needs none. -/
def HoldsCount (db : Purchasing) (line : StocktakeLine) : Prop :=
  ∃ row, db.stocktakeLines.find? line.id = some row ∧ { row with stock := line.stock } = line ∧
    (∀ identity ∈ row.stock, ∃ stock, db.stock.find? identity = some stock ∧
      line.countedQuantity = some stock.quantity) ∧
    (row.stock = none → line.countedQuantity = some 0)

/-- What posting some lines leaves of everything else. -/
structure LeavesOthers (lines : List StocktakeLine) (db db' : Purchasing) : Prop where
  rows : ∀ id, (∀ line ∈ lines, line.id ≠ id) →
    db'.stocktakeLines.find? id = db.stocktakeLines.find? id
  stock : ∀ id, (db.stock.find? id).isSome → (∀ line ∈ lines, line.stock ≠ some id) →
    db'.stock.find? id = db.stock.find? id
  sets : SetsKept db.costing db'.costing

lemma LeavesOthers.refl (lines : List StocktakeLine) (db : Purchasing) : LeavesOthers lines db db :=
  ⟨fun _ _ => rfl, fun _ _ _ => rfl, .refl _⟩

lemma LeavesOthers.cons {line : StocktakeLine} {lines : List StocktakeLine} {db t db' : Purchasing}
    (h : LeavesOthers [line] db t) (h' : LeavesOthers lines t db') :
    LeavesOthers (line :: lines) db db' := by
  refine ⟨fun id hid => ?_, fun id hknown hid => ?_, h.sets.trans h'.sets⟩
  · rw [List.forall_mem_cons] at hid
    rw [h'.rows id hid.2, h.rows id (List.forall_mem_singleton.mpr hid.1)]
  · rw [List.forall_mem_cons] at hid
    have hfirst := h.stock id hknown (List.forall_mem_singleton.mpr hid.1)
    rw [h'.stock id (hfirst ▸ hknown) hid.2, hfirst]

lemma Booked.after {db db' : Purchasing} {job : ℕ} {line : StocktakeLine}
    {booked : StockMovement × CostLine} {lines : List StocktakeLine} (h : Booked db job line booked)
    (hleaves : LeavesOthers lines db db') (hline : ∀ other ∈ lines, other.id ≠ line.id) :
    Booked db' job line booked where
  kind := h.kind
  observation := h.observation
  identity := by
    obtain ⟨row, hrow, hstock⟩ := h.identity
    exact ⟨row, (hleaves.rows line.id hline).trans hrow, hstock⟩
  change := h.change
  counterpart := h.counterpart
  cost := h.cost
  quantity := h.quantity
  owner := h.owner
  charged := by
    obtain ⟨set, hset, hjob, hkind⟩ := h.charged
    obtain ⟨set', hset', hjob', hkind'⟩ := hleaves.sets _ set hset
    exact ⟨set', hset', hjob'.trans hjob, hkind'.trans hkind⟩

lemma HoldsCount.after {db db' : Purchasing} {line : StocktakeLine} {lines : List StocktakeLine}
    (h : HoldsCount db line) (hleaves : LeavesOthers lines db db')
    (hline : ∀ other ∈ lines, other.id ≠ line.id)
    (hapart : ∀ row, db.stocktakeLines.find? line.id = some row → ∀ other ∈ lines,
      ∀ identity, row.stock = some identity → other.stock ≠ some identity) :
    HoldsCount db' line := by
  obtain ⟨row, hrow, hsame, hcounted, hnothing⟩ := h
  refine ⟨row, (hleaves.rows line.id hline).trans hrow, hsame, fun identity hidentity => ?_, hnothing⟩
  obtain ⟨stock, hstock, hquantity⟩ := hcounted identity hidentity
  refine ⟨stock, ?_, hquantity⟩
  rw [hleaves.stock identity (by rw [hstock]; rfl)
    fun other hother => hapart row hrow other hother identity hidentity]
  exact hstock

/-! ## One line -/

/-- What the pass over one line booked: nothing where nothing differs. -/
structure PassedLine (db db' : Purchasing) (job : ℕ) (line : StocktakeLine)
    (booked : List (StockMovement × CostLine)) : Prop where
  movements : db'.movements.rows = db.movements.rows ++ booked.map Prod.fst
  costs : db'.costing.lines.rows = db.costing.lines.rows ++ booked.map Prod.snd
  booked : List.Forall₂ (Booked db' job) ([line].filter fun line => line.difference ≠ 0) booked
  holds : HoldsCount db' line
  leaves : LeavesOthers [line] db db'
  identity : ∀ row, db'.stocktakeLines.find? line.id = some row → ∀ identity,
    row.stock = some identity → line.stock = some identity ∨ db.stock.find? identity = none

lemma PassedLine.booked_after {db t db' : Purchasing} {job : ℕ} {line : StocktakeLine}
    {booked : List (StockMovement × CostLine)} {lines : List StocktakeLine}
    (h : PassedLine db t job line booked) (hleaves : LeavesOthers lines t db')
    (hline : ∀ other ∈ lines, other.id ≠ line.id) :
    List.Forall₂ (Booked db' job) ([line].filter fun line => line.difference ≠ 0) booked := by
  have hbooked := h.booked
  by_cases hdiffers : line.difference = 0
  · rw [List.filter_cons_of_neg (by simpa using hdiffers), List.filter_nil,
      List.forall₂_nil_left_iff] at hbooked
    rw [hbooked, List.filter_cons_of_neg (by simpa using hdiffers)]
    exact .nil
  · rw [List.filter_cons_of_pos (by simpa using hdiffers), List.filter_nil] at hbooked ⊢
    obtain ⟨entry, rest, hentry, hrest, rfl⟩ := List.forall₂_cons_left_iff.mp hbooked
    rw [List.forall₂_nil_left_iff] at hrest
    rw [hrest]
    exact .cons (hentry.after hleaves hline) .nil

lemma run_checkLine {line : StocktakeLine} {db db' : Purchasing} {u : Unit}
    (h : (match line.stock with
      | some stock => do
          let stock ← theStock stock
          requireWorkshopStock stock
          .require (stock.inventoryVersion = line.expectedVersion ∧
              stock.quantity = line.expectedQuantity ∧ stock.unitCost = line.unitCost)
            (.conflict "%(description)s: stock changed. Review and recount this line.")
      | none => pure () : PurchasingCall Unit).run db = .ok (u, db')) :
    db' = db ∧ ∀ identity ∈ line.stock, ∃ stock, db.stock.find? identity = some stock ∧
      stock.quantity = line.expectedQuantity := by
  split at h
  · rename_i identity hidentity
    simp only [run_bind, run_theStock, run_require] at h
    obtain ⟨found, _, ⟨hfound, rfl⟩, _, _, hcountable, ⟨-, hquantity, -⟩, rfl⟩ := h
    obtain rfl := readOnly_requireWorkshopStock _ _ _ hcountable
    refine ⟨rfl, fun s hs => ⟨found, ?_, hquantity⟩⟩
    obtain rfl : identity = s := Option.some.inj (hidentity.symm.trans hs)
    exact hfound
  · rename_i hnone
    obtain ⟨-, rfl⟩ := run_pure.mp h
    exact ⟨rfl, fun s hs => absurd (hnone.symm.trans hs) (Option.some_ne_none s).symm⟩

lemma run_postedStock_expected {line : StocktakeLine} {identity : ℕ} {db db' : Purchasing}
    (h : (postedStock line).run db = .ok (identity, db')) (hdb : CountsSound db)
    (hstored : db.stocktakeLines.find? line.id = some line)
    (hchecked : ∀ identity ∈ line.stock, ∃ stock, db.stock.find? identity = some stock ∧
      stock.quantity = line.expectedQuantity) :
    (∃ stock, db'.stock.find? identity = some stock ∧ stock.quantity = line.expectedQuantity) ∧
      db'.stocktakeLines.find? line.id = some { line with stock := some identity } ∧
      (line.stock = some identity ∨ db.stock.find? identity = none) ∧
      db'.movements = db.movements ∧ db'.costing = db.costing ∧ LeavesOthers [line] db db' := by
  rcases run_postedStock h with ⟨hown, rfl⟩ | ⟨hnone, row, stock, rfl, hempty, hinsert, rfl⟩
  · refine ⟨hchecked identity hown, ?_, .inl hown, rfl, rfl, .refl _ _⟩
    rw [hstored, ← hown]
  · refine ⟨⟨row, Table.find?_insert?_self hinsert, ?_⟩, ?_, .inr (Table.find?_of_insert? hinsert), rfl,
      rfl, ⟨fun id hid => ?_, fun id hknown _ => ?_, .refl _⟩⟩
    · rw [hempty, hdb.found line (Table.mem_of_find? hstored) hnone]
    · exact Table.find?_put_self (r := { line with stock := some row.id }) hstored
    · exact Table.find?_put_of_ne (List.forall_mem_singleton.mp hid).symm
    · refine Table.find?_insert?_of_ne hinsert ?_
      rintro rfl
      rw [Table.find?_of_insert? hinsert] at hknown
      cases hknown

/-- **A difference is posted**: one movement, one cost line, and the balance is what was counted. -/
lemma run_postDifference {line : StocktakeLine} {counted : ℚ} {staff : ℕ} {job : Job}
    {db db' : Purchasing} {u : Unit} (hcounted : line.countedQuantity = some counted)
    (hdiffers : line.difference ≠ 0)
    (h : (postDifference line line.difference staff job).run db = .ok (u, db'))
    (hdb : CountsSound db) (hstored : db.stocktakeLines.find? line.id = some line)
    (hchecked : ∀ identity ∈ line.stock, ∃ stock, db.stock.find? identity = some stock ∧
      stock.quantity = line.expectedQuantity)
    (hsound : ∀ identity t, (postedStock line).run db = .ok (identity, t) → CountsSound t) :
    ∃ booked, PassedLine db db' job.id line booked := by
  simp only [postDifference, run_bind, run_orRefuse, run_newId, run_read, run_pure] at h
  obtain ⟨reason, _, ⟨hreason, rfl⟩, identity, t₁, hposted, costSet, t₂, hset, id, _, ⟨-, rfl⟩, today, _,
    ⟨rfl, rfl⟩, _, t₃, hsave, row, t₄, hmove, -, rfl⟩ := h
  obtain ⟨⟨stock, hstock, hexpected⟩, hrow, hidentity, hmovements, hcosting, hleaves⟩ :=
    run_postedStock_expected hposted hdb hstored hchecked
  obtain ⟨costing, fresh, rfl, hlines, hsets⟩ := run_ensureActualCostSet hset
  obtain ⟨costing', rfl, hcosts, hsets'⟩ := run_onCosting_save_new
    (show LineKind.material ≠ .time by decide) hsave
  obtain ⟨hkind, hcost, hcounterpart, hstocktakeLine, -⟩ := run_moveStock_links hmove
  obtain ⟨cost, set, hcostLine, hquantity, hset, hjob, hactual⟩ := run_moveStock_cost hmove rfl
  obtain rfl := Option.some.inj hcostLine
  obtain ⟨locked, movements, hlocked, hinsert, hmoved, hchange, -, hbefore, hafter, -, -, -, -, rfl⟩ :=
    run_moveStock hmove
  obtain rfl : stock = locked := Option.some.inj (hstock.symm.trans hlocked)
  have hscale := (hsound identity t₁ hposted).scale stock (Table.mem_of_find? hstock)
  have hkey : stock.id = identity := Table.key_of_find? hstock
  have hsets'' : SetsKept db.costing costing' := by
    rw [← hcosting]
    exact hsets.trans hsets'
  refine ⟨[(row, materialLine id costSet (some line.description) (-line.difference) line.unitCost 0
    t₁.today .stocktake)], ?_, ?_, ?_, ?_, ?_, ?_⟩
  · show movements.rows = db.movements.rows ++ [row]
    rw [Table.rows_insert? hinsert, ← hmovements]
  · show costing'.lines.rows = _
    rw [hcosts, hlines, hcosting]
    rfl
  · rw [List.filter_cons_of_pos (by simpa using hdiffers), List.filter_nil]
    refine .cons ⟨hkind, hstocktakeLine, ⟨_, hrow, by rw [hmoved]⟩, hchange, hcounterpart, hcost, rfl,
      rfl, set, hset, Option.some.inj hjob, hactual⟩ .nil
  · refine ⟨_, hrow, rfl, fun s hs => ?_, fun hnone => absurd hnone (Option.some_ne_none _)⟩
    obtain rfl : identity = s := Option.some.inj hs
    refine ⟨afterMovement stock row, ?_, ?_⟩
    · exact hkey ▸ Table.find?_put_self (r := afterMovement stock row) (hkey ▸ hstock)
    · have hsum : row.quantityAfter = counted := by
        rw [hafter, hchange, hbefore, roundHalfAway_of_isDecimal hscale, hexpected,
          StocktakeLine.difference, hcounted]
        show line.expectedQuantity + (counted - line.expectedQuantity) = counted
        ring
      rw [hcounted]
      exact congrArg some hsum.symm
  · refine ⟨hleaves.rows, fun s hknown hs => ?_, hsets''⟩
    have hne : s ≠ (afterMovement stock row).id := by
      intro heq
      obtain rfl : s = identity := heq.trans hkey
      rcases hidentity with hown | hnew
      · exact hs line List.mem_cons_self hown
      · rw [hnew] at hknown
        cases hknown
    exact (Table.find?_put_of_ne hne).trans (hleaves.stock s hknown hs)
  · intro row' hrow' s hs
    have hsame : row' = _ := Option.some.inj (hrow'.symm.trans hrow)
    subst hsame
    obtain rfl : identity = s := Option.some.inj hs
    exact hidentity

/-- **One line** of a post. -/
lemma run_checkAndPostLine {line : StocktakeLine} {staff : ℕ} {job : Job} {db db' : Purchasing}
    {u : Unit} (hline : line.countedQuantity.isSome)
    (h : (checkAndPostLine staff job.id line).run db = .ok (u, db')) (hdb : CountsSound db)
    (hstored : db.stocktakeLines.find? line.id = some line)
    (hsound : ∀ identity t, (postedStock line).run db = .ok (identity, t) → CountsSound t) :
    ∃ booked, PassedLine db db' job.id line booked := by
  obtain ⟨counted, hcounted⟩ := Option.isSome_iff_exists.mp hline
  have hdifference : line.difference = counted - line.expectedQuantity := by
    rw [StocktakeLine.difference, hcounted]
    rfl
  simp only [checkAndPostLine, run_bind] at h
  obtain ⟨_, t, hcheck, hpost⟩ := h
  obtain ⟨rfl, hchecked⟩ := run_checkLine hcheck
  simp only [postLine, hcounted, ← hdifference, run_ite, run_pure, run_bind] at hpost
  rcases hpost with ⟨hsame, -, rfl⟩ | ⟨hdiffers, found, t', hjob, hpost⟩
  · -- nothing differs: what was counted is what is on record
    have hexpected : counted = line.expectedQuantity := sub_eq_zero.mp (hdifference ▸ hsame)
    refine ⟨[], by simp, by simp, by simp [hsame], ⟨line, hstored, rfl, fun s hs => ?_, fun hnone => ?_⟩,
      .refl _ _, fun row hrow s hs => .inl ?_⟩
    · obtain ⟨stock, hstock, hquantity⟩ := hchecked s hs
      exact ⟨stock, hstock, by rw [hcounted, hexpected, hquantity]⟩
    · rw [hcounted, hexpected, hdb.found line (Table.mem_of_find? hstored) hnone]
    · obtain rfl := Option.some.inj (hstored.symm.trans hrow)
      exact hs
  · simp only [theJob, run_bind, run_read, run_orRefuse] at hjob
    obtain ⟨_, _, ⟨rfl, rfl⟩, hjob, rfl⟩ := hjob
    have hkey : found.id = job.id := Table.key_of_find? hjob
    rw [← hkey]
    exact run_postDifference hcounted hdiffers hpost hdb hstored hchecked hsound

/-! ## All lines -/

/-- **The lines of a post**, one after another: each non-zero difference is one movement and one
cost line, in the order of the lines, and every identity is at its counted quantity at the end. -/
lemma run_postLines {count : Stocktake} {lines : List StocktakeLine} {staff : ℕ} {job : Job}
    {db db' : Purchasing} {u : Unit}
    (h : (lines.forM (checkAndPostLine staff job.id)).run db = .ok (u, db'))
    (hdb : SoundWith count db) (hown : ∀ line ∈ lines, line.stocktake = count.id)
    (hcounted : ∀ line ∈ lines, line.countedQuantity.isSome)
    (hstored : ∀ line ∈ lines, db.stocktakeLines.find? line.id = some line)
    (hkeys : lines.Pairwise fun line other => line.id ≠ other.id)
    (hapart : lines.Pairwise fun line other =>
      ∀ stock, line.stock = some stock → other.stock ≠ some stock) :
    (∃ booked : List (StockMovement × CostLine),
      db'.movements.rows = db.movements.rows ++ booked.map Prod.fst ∧
      db'.costing.lines.rows = db.costing.lines.rows ++ booked.map Prod.snd ∧
      List.Forall₂ (Booked db' job.id) (lines.filter fun line => line.difference ≠ 0) booked) ∧
    (∀ line ∈ lines, HoldsCount db' line) ∧ LeavesOthers lines db db' := by
  induction lines generalizing db with
  | nil =>
      obtain rfl := run_forM_nil.mp h
      exact ⟨⟨[], by simp, by simp, .nil⟩, fun _ hline => absurd hline List.not_mem_nil, .refl _ _⟩
  | cons line lines ih =>
      obtain ⟨t, hfirst, hrest⟩ := run_forM_cons.mp h
      rw [List.forall_mem_cons] at hown hcounted hstored
      obtain ⟨hkey, hkeys⟩ := List.pairwise_cons.mp hkeys
      obtain ⟨hline, hapart⟩ := List.pairwise_cons.mp hapart
      have ht : SoundWith count t := checkAndPostLine_keeps_sound hown.1 _ hdb _ _ hfirst
      obtain ⟨first, hpassed⟩ := run_checkAndPostLine hcounted.1 hfirst hdb.sound hstored.1
        fun _ _ hposted => (postedStock_keeps_sound hown.1 _ hdb _ _ hposted).sound
      have hstored' : ∀ other ∈ lines, t.stocktakeLines.find? other.id = some other :=
        fun other hother => (hpassed.leaves.rows other.id
          (List.forall_mem_singleton.mpr (hkey other hother))).trans (hstored.2 other hother)
      obtain ⟨⟨rest, hmovements, hcosts, hbooked⟩, hholds, hleaves⟩ :=
        ih hrest ht hown.2 hcounted.2 hstored' hkeys hapart
      have hne : ∀ other ∈ lines, other.id ≠ line.id := fun other hother => (hkey other hother).symm
      -- the first line's identity is no other line's, whether it was counted on or is new
      have hothers : ∀ row, t.stocktakeLines.find? line.id = some row → ∀ other ∈ lines,
          ∀ identity, row.stock = some identity → other.stock ≠ some identity := by
        intro row hrow other hother identity hidentity hsame
        rcases hpassed.identity row hrow identity hidentity with hcountedOn | hnew
        · exact hline other hother identity hcountedOn hsame
        · have hknown := hdb.sound.known other
            (Table.mem_of_find? (hstored.2 other hother)) identity hsame
          rw [hnew] at hknown
          cases hknown
      refine ⟨⟨first ++ rest, ?_, ?_, ?_⟩, ?_, hpassed.leaves.cons hleaves⟩
      · rw [hmovements, hpassed.movements, List.map_append, List.append_assoc]
      · rw [hcosts, hpassed.costs, List.map_append, List.append_assoc]
      · rw [← List.singleton_append, List.filter_append]
        exact List.rel_append (hpassed.booked_after hleaves hne) hbooked
      · refine List.forall_mem_cons.mpr ⟨hpassed.holds.after hleaves hne hothers, hholds⟩

/-! ## A post, its repeats and its refusals -/

structure PostedAsCounted (db db' : Purchasing) (count : Stocktake) : Prop where
  posted : db'.stocktakes.find? count.id =
    some { count with posted := true, version := count.version + 1 }
  /-- Every non-zero difference is one movement and one cost line, and there are no others. -/
  differences : ∃ booked : List (StockMovement × CostLine),
    db'.movements.rows = db.movements.rows ++ booked.map Prod.fst ∧
    db'.costing.lines.rows = db.costing.lines.rows ++ booked.map Prod.snd ∧
    List.Forall₂ (Booked db' count.adjustmentJob)
      ((countedLines db.stocktakeLines count.id).filter fun line => line.difference ≠ 0) booked
  /-- Every counted line's identity is at its counted quantity. -/
  holds : ∀ line ∈ countedLines db.stocktakeLines count.id, HoldsCount db' line

lemma postedAsCounted_of_loop {count : Stocktake} {job : Job} {staff : ℕ} {db t : Purchasing}
    (hdb : CountsSound db) (hfound : db.stocktakes.find? count.id = some count)
    (hjob : db.costing.jobs.find? count.adjustmentJob = some job)
    (hloop : ((countedLines db.stocktakeLines count.id).forM (checkAndPostLine staff job.id)).run db =
      .ok ((), t)) :
    PostedAsCounted db { t with
      stocktakes := t.stocktakes.put { count with posted := true, version := count.version + 1 } }
      count := by
  have hrow : SoundWith count db := ⟨hdb, hfound⟩
  have hcounted : ∀ line ∈ countedLines db.stocktakeLines count.id,
      line ∈ db.stocktakeLines.rows ∧ line.stocktake = count.id ∧ line.countedQuantity.isSome := by
    intro line hline
    obtain ⟨hmem, hp⟩ := List.mem_filter.mp hline
    simp only [Bool.and_eq_true, decide_eq_true_eq] at hp
    exact ⟨hmem, hp⟩
  have hkeys : (countedLines db.stocktakeLines count.id).Pairwise
      fun line other => line.id ≠ other.id :=
    (List.pairwise_map.mp db.stocktakeLines.nodup).filter _
  have hapart : (countedLines db.stocktakeLines count.id).Pairwise fun line other =>
      ∀ stock, line.stock = some stock → other.stock ≠ some stock :=
    hdb.pairwise_apart count.id fun line hline => by
      simp only [Bool.and_eq_true, decide_eq_true_eq] at hline
      exact hline.1
  obtain ⟨⟨booked, hmovements, hcosts, hbooked⟩, hholds, -⟩ := run_postLines hloop hrow
    (fun line hline => (hcounted line hline).2.1) (fun line hline => (hcounted line hline).2.2)
    (fun line hline => Table.find?_of_mem (hcounted line hline).1) hkeys hapart
  have ht : SoundWith count t := Keeps.forM (fun line hline => checkAndPostLine_keeps_sound
    (hcounted line hline).2.1) _ hrow _ _ hloop
  have hkey : job.id = count.adjustmentJob := Table.key_of_find? hjob
  rw [hkey] at hbooked
  refine ⟨?_, ⟨booked, hmovements, hcosts, hbooked.imp fun _ _ hb => ?_⟩, hholds⟩
  · have hstored : t.stocktakes.find?
        ({ count with posted := true, version := count.version + 1 } : Stocktake).id = some count :=
      ht.there
    exact Table.find?_put_self hstored
  · obtain ⟨hkind, hobservation, hidentity, hchange, hcounterpart, hcost, hquantity, howner, hcharged⟩ :=
      hb
    exact ⟨hkind, hobservation, hidentity, hchange, hcounterpart, hcost, hquantity, howner, hcharged⟩

/-- Whatever is asked after a count is posted, the tag it was posted under still finds it posted,
and writes nothing. -/
lemma repeat_acknowledges (count : Stocktake) {staff : ℕ} {ifMatch : List StocktakeETag}
    {db later : Purchasing} (hposted : count.posted = true)
    (hrow : db.stocktakes.find? count.id = some count)
    (htag : (count.id, count.version - 1) ∈ ifMatch) (hlater : Reachable step (· = db) later) :
    (postStocktake count.id ifMatch staff).run later = .ok ((), later) := by
  have hkept : RowIs count later :=
    hlater.keeps (fun _ heq => heq ▸ hrow) (step_keeps_posted hposted)
  have hread : (theStocktake count.id).run later = .ok (count, later) := by
    simp only [theStocktake, run_bind, run_read, run_orRefuse]
    exact ⟨_, _, ⟨rfl, rfl⟩, hkept, rfl⟩
  simp only [postStocktake, requireRevision, run_bind]
  refine ⟨count, later, hread, ?_⟩
  rw [if_pos hposted]
  exact run_require.mpr ⟨htag, rfl⟩

/-- **A stocktake posts exactly what was counted, once.**  In any state the services reach from
one without counts, whatever was saved, posted or moved before and whatever tags come with it: a
refused post changes nothing.  A post that goes through writes nothing where the count is posted
already; a draft it leaves posted, every counted line's identity at its counted quantity, and
exactly one movement and one cost line on the adjustment job for each non-zero difference.  And
after it, whatever is asked in between, the same request is acknowledged and writes nothing. -/
theorem stocktake_posts_what_was_counted_once (db : Purchasing) (h : Reachable step NoCounts db)
    (countId staff : ℕ) (ifMatch : List StocktakeETag) :
    (∀ e, (postStocktake countId ifMatch staff).run db = .error e →
      serve step db (.postStocktake countId ifMatch staff) = db) ∧
    ∀ db', (postStocktake countId ifMatch staff).run db = .ok ((), db') →
      ∃ count, db.stocktakes.find? countId = some count ∧
        (count.posted = true → db' = db) ∧
        (count.posted = false → PostedAsCounted db db' count) ∧
        ∀ later, Reachable step (· = db') later →
          (postStocktake countId ifMatch staff).run later = .ok ((), later) := by
  have hdb := countsSound_of_reachable h
  constructor
  · intro e hrefused
    simp [serve, step, hrefused]
  · intro db' hrun
    obtain ⟨count, hfound, hcase⟩ := run_postStocktake hrun
    have hkey : count.id = countId := Table.key_of_find? hfound
    subst hkey
    refine ⟨count, hfound, ?_⟩
    rcases hcase with ⟨hposted, htag, rfl⟩ | ⟨hdraft, htag, job, t, hjob, -, hloop, rfl⟩
    · refine ⟨fun _ => rfl, fun hdraft => ?_, fun later => repeat_acknowledges count hposted hfound htag⟩
      rw [hposted] at hdraft
      cases hdraft
    · have hpost := postedAsCounted_of_loop hdb hfound hjob hloop
      refine ⟨fun hposted => ?_, fun _ => hpost, fun later => ?_⟩
      · rw [hdraft] at hposted
        cases hposted
      · exact repeat_acknowledges { count with posted := true, version := count.version + 1 } rfl
          hpost.posted htag

/-- A workshop whose adjustment job is set up. -/
def countingWorkshop : Purchasing := { newWorkshop with adjustmentJob := some 1 }

/-- Two bars of a new item and three lengths of material nobody had on record are counted. -/
def sampleCount : List Op :=
  [.createStock { description := some "Flat bar" } (25 / 2), .createStocktake (some 10),
    .saveStocktake 11 [⟨12, some 10, "Flat bar", none, 0, 0, some 2, 25 / 2, some "Not received"⟩,
      ⟨100, none, "Offcut", none, 0, 0, some 3, 4, some "Found"⟩] [(11, 0)]]

/-- The sample count posts two movements, and posting it again is acknowledged. -/
theorem sample_count_posts_once :
    ∃ db', (postStocktake 11 [(11, 1)] 9).run (serveAll step countingWorkshop sampleCount) =
        .ok ((), db') ∧
      db'.stock.rows.map Stock.quantity = [2, 3] ∧
      db'.costing.lines.rows.map CostLine.quantity = [-2, -3] ∧
      (postStocktake 11 [(11, 1)] 9).run db' = .ok ((), db') := by
  obtain ⟨_, db', hrun, hrows⟩ := exists_of_endsIn (x := postStocktake 11 [(11, 1)] 9)
    (s := serveAll step countingWorkshop sampleCount)
    (p := fun _ db' => db'.stock.rows.map Stock.quantity = [2, 3] ∧
      db'.costing.lines.rows.map CostLine.quantity = [-2, -3]) (by decide +kernel)
  obtain ⟨-, -, -, -, hagain⟩ := (stocktake_posts_what_was_counted_once _
    (reachable_serveAll ⟨rfl, by decide⟩ _) 11 9 [(11, 1)]).2 db' hrun
  obtain ⟨hstock, hcosts⟩ := of_decide_eq_true hrows
  exact ⟨db', hrun, hstock, hcosts, hagain db' (.start rfl)⟩

end Purchasing

end Docketworks
