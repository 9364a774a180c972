import Docketworks.Job.CostSummary
import Docketworks.Purchasing.Ledger

/-!
# What the small writes leave behind

The rows a stock operation books beside the balance: the material line of the job, and the links of
the movement to the line and the job.

* `CostLine.run_save_new`, `CostLine.run_save_columns` — a new line that is no time entry goes to
  the end of the cost lines as it is, and a stored one takes over the columns named.
* `SetsKept` — cost sets stay, of the same job and kind; only their summaries move.
* `run_ensureActualCostSet` — at most a new, empty set.
* `run_moveStock_links`, `run_moveStock_cost` — what the movement is linked to, and the cost that a
  movement to or from a job goes with.
-/

namespace Docketworks

open Library Library.Transaction

/-! ## Cost sets -/

/-- The cost sets of `before` are still there, of the same job and kind. -/
def SetsKept (before after : Costing) : Prop :=
  ∀ id set, before.costSets.find? id = some set →
    ∃ set', after.costSets.find? id = some set' ∧ set'.job = set.job ∧ set'.kind = set.kind

lemma SetsKept.refl (db : Costing) : SetsKept db db :=
  fun _ set hset => ⟨set, hset, rfl, rfl⟩

lemma SetsKept.trans {db db' db'' : Costing} (h : SetsKept db db') (h' : SetsKept db' db'') :
    SetsKept db db'' := by
  intro id set hset
  obtain ⟨set', hset', hjob, hkind⟩ := h id set hset
  obtain ⟨set'', hset'', hjob', hkind'⟩ := h' id set' hset'
  exact ⟨set'', hset'', hjob'.trans hjob, hkind'.trans hkind⟩

namespace CostLine

lemma run_assignEntrySeq_of_ne_time {line numbered : CostLine} {adding : Bool} {db db' : Costing}
    (hkind : line.kind ≠ .time) (h : (line.assignEntrySeq adding).run db = .ok (numbered, db')) :
    numbered = line := by
  simp only [assignEntrySeq, actualTimeEntryRequiresSequence, if_neg hkind, run_bind, run_ite,
    run_pure] at h
  obtain ⟨_, _, ⟨rfl, rfl⟩, ⟨⟨hfalse, -⟩, -⟩ | ⟨-, rfl, -⟩⟩ := h
  · cases hfalse
  · rfl

/-- **A save of figures** of a line that is no time entry: its row is written, its set's summary
follows, and the unit cost is one of whole cents. -/
lemma run_save {line : CostLine} {adding : Bool} {updateFields : Option (List Column)}
    {db db' : Costing} {u : Unit} (hkind : line.kind ≠ .time)
    (hfigures : updateFields.any (fun columns => columns ⊆ flagFields) = false)
    (h : (line.save adding updateFields).run db = .ok (u, db')) :
    ∃ t, (line.writeRow adding updateFields).run db = .ok ((), t) ∧ db'.lines = t.lines ∧
      SetsKept db db' ∧ IsDecimal 2 line.unitCost := by
  simp only [save, hfigures, Bool.false_eq_true, if_false, run_bind, run_require] at h
  obtain ⟨requires, _, hrequires, before, _, hbefore, numbered, _, hnumbered, _, t, hsaved, after, _,
    hafter, _, _, ⟨-, rfl⟩, h⟩ := h
  simp only [actualTimeEntryRequiresSequence, if_neg hkind, run_pure] at hrequires
  obtain ⟨rfl, rfl⟩ := hrequires
  obtain ⟨-, -, rfl⟩ := run_lockSummaryOwners hbefore
  obtain rfl := run_assignEntrySeq_of_ne_time hkind hnumbered
  obtain rfl := readOnly_assignEntrySeq _ _ _ hnumbered
  simp only [saveValidated, run_bind, run_require] at hsaved
  obtain ⟨job, _, hjob, _, _, ⟨-, rfl⟩, _, _, ⟨-, rfl⟩, _, _, hclean, hrow⟩ := hsaved
  obtain rfl := readOnly_theJob _ _ _ hjob
  obtain rfl := readOnly_fullClean _ _ _ hclean
  simp only [fullClean, cleanFields, run_bind, run_require] at hclean
  obtain ⟨_, _, ⟨_, _, -, _, _, ⟨hcost, -⟩, -⟩, -⟩ := hclean
  have hcolumns : (updateFields.map fun columns => if false then .entrySeq :: columns else columns) =
      updateFields := Option.map_id'
  rw [hcolumns] at hrow
  simp only [storedContribution, run_read] at hafter
  obtain ⟨rfl, rfl⟩ := hafter
  obtain ⟨hlines, hsets⟩ := CostSet.run_recordLineChange h
  refine ⟨_, hrow, hlines, fun id set hset => ?_, hcost.1⟩
  rw [← (run_writeRow hrow).1] at hset
  exact ⟨_, (hsets id).trans (congrArg _ hset), rfl, rfl⟩

/-- **A new line** that is no time entry is stored as it is, at the end. -/
lemma run_save_new {line : CostLine} {db db' : Costing} {u : Unit} (hkind : line.kind ≠ .time)
    (h : (line.save true none).run db = .ok (u, db')) :
    db.lines.insert? line = some db'.lines ∧ SetsKept db db' ∧ IsDecimal 2 line.unitCost := by
  obtain ⟨t, hrow, hlines, hsets, hcost⟩ := run_save hkind rfl h
  simp only [writeRow, if_true, run_bind, run_read, run_orRefuse, run_write] at hrow
  obtain ⟨_, _, ⟨rfl, rfl⟩, lines, _, ⟨hinsert, rfl⟩, rfl⟩ := hrow
  exact ⟨by rw [hlines]; exact hinsert, hsets, hcost⟩

/-- **A stored line** that is no time entry takes over the columns named. -/
lemma run_save_columns {line stored : CostLine} {columns : List Column} {db db' : Costing} {u : Unit}
    (hkind : line.kind ≠ .time) (hfigures : ¬columns ⊆ flagFields)
    (hstored : db.lines.find? line.id = some stored)
    (h : (line.save false (some columns)).run db = .ok (u, db')) :
    db'.lines = db.lines.put (stored.withColumns line columns) ∧ SetsKept db db' ∧
      IsDecimal 2 line.unitCost := by
  obtain ⟨t, hrow, hlines, hsets, hcost⟩ := run_save hkind (by simpa using hfigures) h
  simp only [writeRow, Bool.false_eq_true, if_false, run_bind, run_read] at hrow
  obtain ⟨_, _, ⟨rfl, rfl⟩, hrow⟩ := hrow
  rw [hstored] at hrow
  simp only [run_write] at hrow
  subst hrow
  exact ⟨hlines, hsets, hcost⟩

end CostLine

namespace Purchasing

variable {db db' : Purchasing}

/-! ## The job's actuals -/

lemma run_ensureActualCostSet {job : Job} {costSet : ℕ}
    (h : (ensureActualCostSet job).run db = .ok (costSet, db')) :
    ∃ costing fresh, db' = { db with costing := costing, fresh := fresh } ∧
      costing.lines = db.costing.lines ∧ SetsKept db.costing costing := by
  unfold ensureActualCostSet at h
  split at h
  · obtain ⟨-, rfl⟩ := run_pure.mp h
    exact ⟨_, _, rfl, rfl, .refl _⟩
  · simp only [onCosting, CostSet.create, run_bind, run_newId, run_on, run_read, run_require,
      run_orRefuse, run_write, run_pure] at h
    obtain ⟨id, _, ⟨-, rfl⟩, _, _, ⟨_, ⟨_, _, ⟨rfl, rfl⟩, _, _, ⟨-, rfl⟩, _, _, ⟨-, rfl⟩, sets, _,
      ⟨hinsert, rfl⟩, rfl⟩, rfl⟩, _, _, ⟨_, rfl, rfl⟩, -, rfl⟩ := h
    refine ⟨_, _, rfl, rfl, fun old set hset => ⟨set, ?_, rfl, rfl⟩⟩
    have hne : old ≠ id := by
      rintro rfl
      have hnone : db.costing.costSets.find? old = none := Table.find?_of_insert? hinsert
      rw [hset] at hnone
      cases hnone
    exact (Table.find?_insert?_of_ne hinsert hne).trans hset

lemma run_onCosting_save_new {line : CostLine} {u : Unit} (hkind : line.kind ≠ .time)
    (h : (onCosting (line.save true none)).run db = .ok (u, db')) :
    ∃ costing, db' = { db with costing := costing } ∧
      costing.lines.rows = db.costing.lines.rows ++ [line] ∧ SetsKept db.costing costing := by
  obtain ⟨costing, hsave, rfl⟩ := run_on.mp h
  obtain ⟨hinsert, hsets, -⟩ := CostLine.run_save_new hkind hsave
  exact ⟨costing, rfl, Table.rows_insert? hinsert, hsets⟩

/-! ## The links of a movement -/

/-- What a movement carries of the workflow that owns it. -/
structure Linked (context : MovementContext) (row : StockMovement) : Prop where
  kind : row.kind = context.kind
  costLine : row.costLine = context.costLine.map CostLine.id
  counterpartJob : row.counterpartJob = context.counterpartJob
  stocktakeLine : row.stocktakeLine = context.stocktakeLine
  reverses : row.reverses = context.reverses

lemma run_moveStock_links {stock : ℕ} {change : ℚ} {context : MovementContext}
    {row : StockMovement} (h : (moveStock stock change context).run db = .ok (row, db')) :
    Linked context row := by
  simp only [moveStock, insertMovement, run_bind, run_require, run_theStock, run_read, run_orRefuse,
    run_write, run_pure] at h
  obtain ⟨_, _, -, locked, _, -, _, _, -, posted, _, ⟨stored, _, hrow, _, _, -, _, _, -, _, _, -, _, _,
    -, rfl, -⟩, _, _, -, rfl, -⟩ := h
  obtain ⟨rfl, -⟩ := run_movementRow hrow
  exact ⟨rfl, rfl, rfl, rfl, rfl⟩

/-- **A movement to or from a job** goes with a cost line of the opposite quantity, on the actuals
of the job at the other end. -/
lemma run_moveStock_cost {stock : ℕ} {change : ℚ} {context : MovementContext} {row : StockMovement}
    (h : (moveStock stock change context).run db = .ok (row, db'))
    (hneeds : context.kind.needsJob = true) :
    ∃ cost set, context.costLine = some cost ∧ cost.quantity = -change ∧
      db.costing.costSets.find? cost.costSet = some set ∧
      some set.job = context.counterpartJob ∧ set.kind = .actual := by
  simp only [moveStock, checkMovement, theCostSet, run_bind, run_require, run_theStock, run_when,
    run_orRefuse, run_read] at h
  obtain ⟨_, _, ⟨-, rfl⟩, locked, _, ⟨-, rfl⟩, _, _, ⟨_, _, ⟨-, rfl⟩, _, _, ⟨-, rfl⟩, hcheck⟩, -⟩ := h
  rcases hcheck with ⟨-, _, _, ⟨-, rfl⟩, cost, _, ⟨hcost, rfl⟩, _, _, ⟨hquantity, rfl⟩, set, _,
    ⟨_, _, ⟨rfl, rfl⟩, hset, rfl⟩, ⟨hjob, hkind⟩, rfl⟩ | ⟨hno, -⟩
  · exact ⟨cost, set, hcost, hquantity, hset, hjob, hkind⟩
  · exact absurd hneeds hno

end Purchasing

end Docketworks
