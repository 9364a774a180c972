import Mathlib.Data.List.Dedup
import Docketworks.Job.Costing
import Docketworks.Library.Runs

/-!
# The summaries never drift

A cost set's stored totals are kept by recording, at each save and delete, the change of one
line.  This file shows that they are at all times the totals a full recalculation would find.

* `Costing.SummariesCurrent` — every set's summary is the totals of the lines that belong to it,
  and every line belongs to a set that is there.
* `totals_of_replaced` — replacing one line by another changes the totals of every set by
  `CostSet.lineChange`, whatever the two lines' sets, kinds and figures are.
* `run_recordLineChange` — recording a change adds it to the summary of every set, a set that is
  not an owner having none.
* `step_keeps_summariesCurrent` — one operation preserves the invariant;
  `summaries_current_after_every_run` — so does every run.
* `recalculateSummary_finds_nothing` — a recalculation that goes through never writes.
-/

namespace Docketworks

open Library Library.Transaction

/-! ## The invariant -/

/-- Every stored summary is what the ledger adds up to. -/
structure Costing.SummariesCurrent (db : Costing) : Prop where
  /-- The stored totals are the sums over exactly the lines of the set. -/
  current : ∀ set ∈ db.costSets.rows, set.summary = CostSet.totals db.lines set.id
  /-- A line's set is there: its column is a foreign key. -/
  owned : ∀ line ∈ db.lines.rows, (db.costSets.find? line.costSet).isSome

/-! ## What a line contributes -/

namespace CostLine

/-- The hours a line counts: a time line's quantity. -/
def countedHours (line : CostLine) : ℚ :=
  if line.kind = .time then line.quantity else 0

/-- What a line that may not be there contributes of `figure` to the set `owner`. -/
def share (figure : CostLine → ℚ) (owner : ℕ) (line? : Option CostLine) : ℚ :=
  line?.elim 0 fun line => if line.costSet = owner then figure line else 0

@[simp] lemma share_none (figure : CostLine → ℚ) (owner : ℕ) : share figure owner none = 0 := rfl

@[simp] lemma share_some (figure : CostLine → ℚ) (owner : ℕ) (line : CostLine) :
    share figure owner (some line) = if line.costSet = owner then figure line else 0 := rfl

end CostLine

namespace CostSet

open CostLine

lemma addSigned_eq (owner : ℕ) (acc : Summary) (line? : Option CostLine) (sign : ℚ) :
    addSigned owner acc (line?, sign) = acc.plus
      { cost := sign * share totalCost owner line?
        rev := sign * share totalRev owner line?
        hours := sign * share countedHours owner line? } := by
  rcases line? with _ | line
  · ext <;> simp [addSigned, Summary.plus]
  · by_cases howner : line.costSet = owner
    · by_cases hkind : line.kind = .time <;>
        ext <;> simp [addSigned, Summary.plus, countedHours, howner, hkind]
    · ext <;> simp [addSigned, Summary.plus, howner]

lemma lineChange_eq (before after : Option CostLine) (owner : ℕ) :
    lineChange before after owner =
      { cost := share totalCost owner after - share totalCost owner before
        rev := share totalRev owner after - share totalRev owner before
        hours := share countedHours owner after - share countedHours owner before } := by
  rw [lineChange, List.foldl_cons, List.foldl_cons, List.foldl_nil, addSigned_eq, addSigned_eq]
  ext <;> simp only [Summary.plus] <;> ring

lemma lineChange_of_not_owner {before after : Option CostLine} {owner : ℕ}
    (h : owner ∉ owners before after) : lineChange before after owner = ⟨0, 0, 0⟩ := by
  rw [lineChange_eq]
  simp only [owners, List.mem_dedup, List.map_append, List.mem_append, not_or] at h
  have hshare : ∀ (line? : Option CostLine), owner ∉ line?.toList.map CostLine.costSet →
      ∀ figure, share figure owner line? = 0 := by
    rintro (_ | line) hline figure
    · rfl
    · have hne : line.costSet ≠ owner := fun heq => hline (by simp [heq])
      simp [hne]
  simp [hshare before h.1, hshare after h.2]

/-! ## Recording a change -/

lemma find?_addToSummary (owner : ℕ) (change : Summary) (db : Costing) (id : ℕ) :
    (addToSummary owner change db).costSets.find? id =
      (db.costSets.find? id).map fun set =>
        if id = owner then { set with summary := set.summary.plus change } else set := by
  unfold addToSummary
  rcases h : db.costSets.find? owner with _ | set
  · by_cases hid : id = owner
    · simp [hid, h]
    · simp [hid]
  · have hkey := Table.key_of_find? h
    by_cases hid : id = owner
    · subst hid
      rw [h]
      simpa [hkey] using Table.find?_put_self (t := db.costSets)
        (r := { set with summary := set.summary.plus change }) (by simpa [hkey] using h)
    · rw [Table.find?_put_of_ne (by simpa [hkey] using hid)]
      simp [hid]

lemma lines_addToSummary (owner : ℕ) (change : Summary) (db : Costing) :
    (addToSummary owner change db).lines = db.lines := by
  unfold addToSummary
  split <;> rfl

lemma plus_zero (summary : Summary) : summary.plus ⟨0, 0, 0⟩ = summary := by
  ext <;> simp [Summary.plus]

lemma run_record_owner {before after : Option CostLine} {owner : ℕ} {db db' : Costing} {u : Unit}
    (h : ((let change := lineChange before after owner
      .when (¬(change.cost = 0 ∧ change.rev = 0 ∧ change.hours = 0))
        (.write (addToSummary owner change)) : CostingCall Unit)).run db = .ok (u, db')) :
    db'.lines = db.lines ∧ ∀ id, db'.costSets.find? id =
      (db.costSets.find? id).map fun set =>
        if id = owner then { set with summary := set.summary.plus (lineChange before after owner) }
        else set := by
  simp only [run_when, run_write, not_not] at h
  rcases h with ⟨-, rfl⟩ | ⟨⟨hcost, hrev, hhours⟩, rfl⟩
  · exact ⟨lines_addToSummary .., fun id => find?_addToSummary ..⟩
  · have hzero : lineChange before after owner = ⟨0, 0, 0⟩ := Summary.ext hcost hrev hhours
    refine ⟨rfl, fun id => ?_⟩
    rw [hzero]
    simp [plus_zero]

/-- **Recording.**  The lines stay, and every set's summary grows by the change of that set. -/
lemma run_recordLineChange {before after : Option CostLine} {db db' : Costing} {u : Unit}
    (h : (recordLineChange before after).run db = .ok (u, db')) :
    db'.lines = db.lines ∧ ∀ id, db'.costSets.find? id =
      (db.costSets.find? id).map fun set =>
        { set with summary := set.summary.plus (lineChange before after id) } := by
  -- the loop adds the change at each owner once; the other sets have none to add
  suffices hloop : ∀ (os : List ℕ), os.Nodup → ∀ {db db' : Costing},
      (os.forM fun owner =>
        let change := lineChange before after owner
        (Transaction.when (¬(change.cost = 0 ∧ change.rev = 0 ∧ change.hours = 0))
          (.write (addToSummary owner change)) : CostingCall Unit)).run db = .ok (u, db') →
      db'.lines = db.lines ∧ ∀ id, db'.costSets.find? id =
        (db.costSets.find? id).map fun set =>
          if id ∈ os then { set with summary := set.summary.plus (lineChange before after id) }
          else set by
    obtain ⟨hlines, hsets⟩ := hloop (owners before after) (List.nodup_dedup _) h
    refine ⟨hlines, fun id => ?_⟩
    rw [hsets id]
    by_cases hid : id ∈ owners before after
    · simp [hid]
    · simp [hid, lineChange_of_not_owner hid, plus_zero]
  intro os
  induction os with
  | nil =>
      intro _ db db' h
      rw [run_forM_nil] at h
      subst h
      simp
  | cons owner os ih =>
      intro hnodup db db' h
      rw [List.nodup_cons] at hnodup
      rw [run_forM_cons] at h
      obtain ⟨t, hfirst, hrest⟩ := h
      obtain ⟨hlines₁, hsets₁⟩ := run_record_owner hfirst
      obtain ⟨hlines₂, hsets₂⟩ := ih hnodup.2 hrest
      refine ⟨hlines₂.trans hlines₁, fun id => ?_⟩
      rw [hsets₂ id, hsets₁ id, Option.map_map]
      congr 1
      funext set
      by_cases hid : id = owner
      · subst hid
        simp [hnodup.1]
      · simp [hid]

end CostSet

/-! ## Replacing a line -/

open CostSet CostLine

/-- The ledger `after` is the ledger `before` with the line under one key replaced, added or
removed: every total moves by the old and the new line alone. -/
def ReplacesLine (key : ℕ) (before after : Table CostLine.id) : Prop :=
  ∀ weight : CostLine → ℚ, after.sum weight =
    before.sum weight - (before.find? key).elim 0 weight + (after.find? key).elim 0 weight

/-- **Replacing one line changes every set's totals by the recorded change.** -/
lemma totals_of_replaced {key : ℕ} {before after : Table CostLine.id}
    (h : ReplacesLine key before after) (owner : ℕ) :
    totals after owner =
      (totals before owner).plus (lineChange (before.find? key) (after.find? key) owner) := by
  have hfigure : ∀ figure : CostLine → ℚ,
      (after.sum fun line => share figure owner (some line)) =
        (before.sum fun line => share figure owner (some line)) +
          (share figure owner (after.find? key) - share figure owner (before.find? key)) := by
    intro figure
    have hshare : ∀ line? : Option CostLine,
        line?.elim 0 (fun line => share figure owner (some line)) = share figure owner line? := by
      rintro (_ | line) <;> rfl
    rw [h, hshare, hshare]
    ring
  rw [lineChange_eq]
  refine Summary.ext ?_ ?_ ?_
  · exact hfigure totalCost
  · exact hfigure totalRev
  · exact hfigure countedHours

lemma replacesLine_put {lines : Table CostLine.id} {line stored : CostLine}
    (h : lines.find? line.id = some stored) : ReplacesLine line.id lines (lines.put line) := by
  intro weight
  rw [Table.sum_put h, h, Table.find?_put_self h]
  rfl

lemma replacesLine_insert {lines lines' : Table CostLine.id} {line : CostLine}
    (h : lines.insert? line = some lines') : ReplacesLine line.id lines lines' := by
  intro weight
  rw [Table.sum_insert? h, Table.find?_of_insert? h, Table.find?_insert?_self h]
  simp

lemma replacesLine_erase (lines : Table CostLine.id) (key : ℕ) :
    ReplacesLine key lines (lines.erase key) := by
  intro weight
  rw [Table.find?_erase_self]
  rcases h : lines.find? key with _ | line
  · simp [Table.erase_of_find?_none h]
  · rw [Table.sum_erase h]
    simp

/-! ## The calls that only read -/

section ReadOnly

variable {line : CostLine} {adding : Bool}

lemma readOnly_theCostSet : ReadOnly line.theCostSet :=
  .bind .read fun _ => .orRefuse

lemma readOnly_theJob : ReadOnly line.theJob :=
  .bind readOnly_theCostSet fun _ => .bind .read fun _ => .orRefuse

lemma readOnly_lockSummaryOwners : ReadOnly line.lockSummaryOwners :=
  .bind readOnly_theCostSet fun _ => .read

lemma readOnly_actualTimeEntryRequiresSequence :
    ReadOnly line.actualTimeEntryRequiresSequence :=
  .ite (.bind readOnly_theCostSet fun _ => .pure) .pure

lemma readOnly_assignEntrySeq : ReadOnly (line.assignEntrySeq adding) := by
  refine .bind readOnly_actualTimeEntryRequiresSequence fun _ => .ite ?_ .pure
  refine .bind ?_ fun _ => .ite (.bind .read fun _ => .pure) .pure
  exact .ite .pure (.ite .pure (.bind .read fun _ => .bind .orRefuse fun _ => .pure))

lemma readOnly_clean : ReadOnly line.clean := by
  refine .bind readOnly_theCostSet fun _ => .bind (.when ?_) fun _ => ?_
  · refine .bind ?_ fun _ => .bind .require fun _ => .require
    exact .bind readOnly_theCostSet fun _ => .bind .read fun _ => .ite .require .require
  · exact .bind .require fun _ => .bind .require fun _ => .bind .require fun _ => .require

lemma readOnly_fullClean : ReadOnly line.fullClean := by
  refine .bind ?_ fun _ => .bind readOnly_clean fun _ => ?_
  · exact .bind .require fun _ => .bind .require fun _ => .bind .require fun _ => .require
  · exact .bind .read fun _ => .bind .require fun _ => .bind .require fun _ => .require

end ReadOnly

/-! ## One operation -/

lemma share_withColumns_flags (stored self : CostLine) {columns : List Column}
    (h : columns ⊆ flagFields) :
    (stored.withColumns self columns).costSet = stored.costSet ∧
      (stored.withColumns self columns).kind = stored.kind ∧
      (stored.withColumns self columns).quantity = stored.quantity ∧
      (stored.withColumns self columns).unitCost = stored.unitCost ∧
      (stored.withColumns self columns).unitRev = stored.unitRev := by
  have hnot : ∀ column, column ∉ flagFields → column ∉ columns := fun _ hc hmem => hc (h hmem)
  refine ⟨?_, ?_, ?_, ?_, ?_⟩ <;>
    · simp only [withColumns]
      rw [if_neg (hnot _ (by decide))]

/-- **The row write.**  The cost sets stay, one row of the ledger is replaced, and the row under
the line's key belongs to the set of the in-memory line or of the stored one. -/
lemma run_writeRow {line : CostLine} {adding : Bool} {updateFields : Option (List Column)}
    {db db' : Costing} {u : Unit}
    (h : (line.writeRow adding updateFields).run db = .ok (u, db')) :
    db'.costSets = db.costSets ∧ ReplacesLine line.id db.lines db'.lines ∧
      ∀ row ∈ db'.lines.rows, row ∈ db.lines.rows ∨ row.costSet = line.costSet ∨
        ∃ stored ∈ db.lines.rows, row.costSet = stored.costSet := by
  have hunchanged : ReplacesLine line.id db.lines db.lines := fun weight => by simp
  simp only [writeRow, run_bind, run_read] at h
  obtain ⟨_, _, ⟨rfl, rfl⟩, h⟩ := h
  split at h
  · -- a stored row, updated column by column
    rename_i stored columns hstored
    obtain ⟨-, hfound⟩ : adding = false ∧ db.lines.find? line.id = some stored := by
      cases adding <;> simp_all
    rw [run_write] at h
    subst h
    have hid : (stored.withColumns line columns).id = line.id := by
      rw [← Table.key_of_find? hfound]
      rfl
    refine ⟨rfl, ?_, fun row hrow => ?_⟩
    · have hput : ReplacesLine (stored.withColumns line columns).id db.lines
          (db.lines.put (stored.withColumns line columns)) := replacesLine_put (by rwa [hid])
      rwa [hid] at hput
    · rcases Table.mem_put.mp hrow with ⟨hmem, -⟩ | ⟨rfl, -⟩
      · exact .inl hmem
      · by_cases hset : Column.costSet ∈ columns
        · exact .inr (.inl (by simp [withColumns, hset]))
        · exact .inr (.inr ⟨stored, Table.mem_of_find? hfound, by simp [withColumns, hset]⟩)
  · -- a stored row, written whole
    rename_i stored hstored
    have hfound : db.lines.find? line.id = some stored := by
      cases adding <;> simp_all
    rw [run_write] at h
    subst h
    refine ⟨rfl, replacesLine_put hfound, fun row hrow => ?_⟩
    rcases Table.mem_put.mp hrow with ⟨hmem, -⟩ | ⟨rfl, -⟩
    · exact .inl hmem
    · exact .inr (.inl rfl)
  · obtain ⟨-, rfl⟩ := run_pure.mp h
    exact ⟨rfl, hunchanged, fun row hrow => .inl hrow⟩
  · exact (run_refuse.mp h).elim
  · -- a new row
    simp only [run_bind, run_orRefuse, run_write] at h
    obtain ⟨lines, _, ⟨hinsert, rfl⟩, rfl⟩ := h
    refine ⟨rfl, replacesLine_insert hinsert, fun row hrow => ?_⟩
    rcases (Table.mem_insert? hinsert).mp hrow with hmem | rfl
    · exact .inl hmem
    · exact .inr (.inl rfl)

lemma run_theCostSet {line : CostLine} {db db' : Costing} {set : CostSet}
    (h : line.theCostSet.run db = .ok (set, db')) :
    db.costSets.find? line.costSet = some set ∧ db' = db := by
  simp only [theCostSet, run_bind, run_read, run_orRefuse] at h
  obtain ⟨_, _, ⟨rfl, rfl⟩, hset, rfl⟩ := h
  exact ⟨hset, rfl⟩

lemma summariesCurrent_of_record {key : ℕ} {db t db' : Costing} {u : Unit}
    (hdb : db.SummariesCurrent) (hsets : t.costSets = db.costSets)
    (hreplaced : ReplacesLine key db.lines t.lines)
    (howned : ∀ line ∈ t.lines.rows, (db.costSets.find? line.costSet).isSome)
    (hrecord : (recordLineChange (db.lines.find? key) (t.lines.find? key)).run t =
      .ok (u, db')) : db'.SummariesCurrent := by
  obtain ⟨hlines, hfind⟩ := run_recordLineChange hrecord
  rw [hsets] at hfind
  constructor
  · intro set' hset'
    have hset := hfind set'.id
    rw [Table.find?_of_mem hset'] at hset
    obtain ⟨set, hfound, hset⟩ := Option.map_eq_some_iff.mp hset.symm
    have hid : set.id = set'.id := Table.key_of_find? hfound
    calc set'.summary
        = set.summary.plus (lineChange (db.lines.find? key) (t.lines.find? key) set'.id) :=
          (congrArg CostSet.summary hset).symm
      _ = totals t.lines set'.id := by
          rw [totals_of_replaced hreplaced, hdb.current set (Table.mem_of_find? hfound), hid]
      _ = totals db'.lines set'.id := by rw [hlines]
  · intro line hline
    rw [hlines] at hline
    rw [hfind]
    simpa using howned line hline

lemma run_assignEntrySeq {line numbered : CostLine} {adding : Bool} {db db' : Costing}
    (h : (line.assignEntrySeq adding).run db = .ok (numbered, db')) :
    numbered.id = line.id ∧ numbered.costSet = line.costSet := by
  simp only [assignEntrySeq, run_bind, run_ite, run_read, run_pure] at h
  obtain ⟨_, _, -, ⟨-, _, _, -, ⟨-, _, _, -, rfl, -⟩ | ⟨-, rfl, -⟩⟩ | ⟨-, rfl, -⟩⟩ := h
  all_goals exact ⟨rfl, rfl⟩

lemma run_lockSummaryOwners {line : CostLine} {db db' : Costing} {before : Option CostLine}
    (h : line.lockSummaryOwners.run db = .ok (before, db')) :
    before = db.lines.find? line.id ∧ (db.costSets.find? line.costSet).isSome ∧ db' = db := by
  simp only [lockSummaryOwners, storedContribution, run_bind, run_read] at h
  obtain ⟨set, _, hset, rfl, rfl⟩ := h
  obtain ⟨hfound, rfl⟩ := run_theCostSet hset
  exact ⟨rfl, by simp [hfound], rfl⟩

lemma delete_keeps_summariesCurrent (line : CostLine) :
    Keeps Costing.SummariesCurrent line.delete := by
  intro db hdb _ db' h
  simp only [delete, run_bind, run_write] at h
  obtain ⟨before, t, hbefore, _, _, rfl, h⟩ := h
  obtain ⟨rfl, -, rfl⟩ := run_lockSummaryOwners hbefore
  refine summariesCurrent_of_record hdb (t := { t with lines := t.lines.erase line.id }) rfl
    (replacesLine_erase _ line.id) ?_ (by simpa using h)
  exact fun row hrow => hdb.owned row (Table.mem_erase.mp hrow).1

lemma flags_keep_summariesCurrent (line : CostLine) {columns : List Column}
    (hflags : columns ⊆ flagFields) :
    Keeps Costing.SummariesCurrent (line.writeRow false (some columns)) := by
  intro db hdb _ db' h
  simp only [writeRow, run_bind, run_read] at h
  obtain ⟨_, _, ⟨rfl, rfl⟩, h⟩ := h
  rcases hfound : db.lines.find? line.id with _ | stored
  · rcases columns with _ | ⟨column, columns⟩
    · simp only [hfound, Bool.false_eq_true, if_false, run_pure] at h
      exact h.2 ▸ hdb
    · simp [hfound] at h
  · simp only [hfound, Bool.false_eq_true, if_false, run_write] at h
    subst h
    obtain ⟨hset, hkind, hquantity, hcost, hrev⟩ := share_withColumns_flags stored line hflags
    have hid : (stored.withColumns line columns).id = line.id := by
      rw [← Table.key_of_find? hfound]
      rfl
    have hreplaced : ReplacesLine (stored.withColumns line columns).id db.lines
        (db.lines.put (stored.withColumns line columns)) := replacesLine_put (by rwa [hid])
    rw [hid] at hreplaced
    have htotals : ∀ owner,
        totals (db.lines.put (stored.withColumns line columns)) owner = totals db.lines owner := by
      intro owner
      rw [totals_of_replaced hreplaced, ← hid, Table.find?_put_self (by rw [hid]; exact hfound),
        hid, hfound, lineChange_eq]
      simp [Summary.plus, totalCost, totalRev, countedHours, hset, hkind, hquantity, hcost, hrev]
    constructor
    · intro set hmem
      rw [htotals]
      exact hdb.current set hmem
    · intro row hrow
      rcases Table.mem_put.mp hrow with ⟨hmem, -⟩ | ⟨rfl, -⟩
      · exact hdb.owned row hmem
      · rw [hset]
        exact hdb.owned stored (Table.mem_of_find? hfound)

/-- **A save.**  A line that is being added is saved whole; a stored one under any
`update_fields`. -/
lemma save_keeps_summariesCurrent (line : CostLine) (adding : Bool)
    (updateFields : Option (List Column)) (hadding : adding = true → updateFields = none) :
    Keeps Costing.SummariesCurrent (line.save adding updateFields) := by
  refine Keeps.ite (fun hflags => ?_) fun _ => ?_
  · obtain ⟨columns, rfl, hsub⟩ : ∃ columns, updateFields = some columns ∧
        columns ⊆ flagFields := by
      rcases updateFields with _ | columns
      · simp at hflags
      · exact ⟨columns, rfl, by simpa using hflags⟩
    have hstored : adding = false := by
      cases adding
      · rfl
      · cases hadding rfl
    subst hstored
    exact flags_keep_summariesCurrent line hsub
  · intro db hdb _ db' h
    simp only [run_bind, run_require] at h
    obtain ⟨requires, _, hrequires, before, _, hbefore, numbered, _, hnumbered, _, t, hsaved,
      after, _, hafter, _, _, ⟨-, rfl⟩, h⟩ := h
    obtain rfl := readOnly_actualTimeEntryRequiresSequence _ _ _ hrequires
    obtain ⟨rfl, howner, rfl⟩ := run_lockSummaryOwners hbefore
    obtain ⟨hid, hset⟩ := run_assignEntrySeq hnumbered
    obtain rfl := readOnly_assignEntrySeq _ _ _ hnumbered
    simp only [saveValidated, run_bind, run_require] at hsaved
    obtain ⟨job, _, hjob, _, _, ⟨-, rfl⟩, _, _, ⟨-, rfl⟩, _, _, hclean, hrow⟩ := hsaved
    obtain rfl := readOnly_theJob _ _ _ hjob
    obtain rfl := readOnly_fullClean _ _ _ hclean
    obtain ⟨hsets, hreplaced, hrows⟩ := run_writeRow hrow
    simp only [storedContribution, run_read] at hafter
    obtain ⟨rfl, rfl⟩ := hafter
    rw [hid] at hreplaced h
    refine summariesCurrent_of_record hdb hsets hreplaced (fun row hmem => ?_) h
    rcases hrows row hmem with hold | hsame | ⟨stored, hstored, hsame⟩
    · exact hdb.owned row hold
    · rw [hsame, hset]
      exact howner
    · rw [hsame]
      exact hdb.owned stored hstored

lemma create_keeps_summariesCurrent (set : CostSet) :
    Keeps Costing.SummariesCurrent set.create := by
  intro db hdb _ db' h
  simp only [CostSet.create, run_bind, run_read, run_require, run_orRefuse, run_write] at h
  obtain ⟨_, _, ⟨rfl, rfl⟩, _, _, ⟨-, rfl⟩, _, _, ⟨-, rfl⟩, costSets, _, ⟨hinsert, rfl⟩, rfl⟩ := h
  have hnew : ∀ line ∈ db.lines.rows, line.costSet ≠ set.id := by
    intro line hline heq
    have hfound := hdb.owned line hline
    rw [heq, Table.find?_of_insert? hinsert] at hfound
    cases hfound
  constructor
  · intro row hrow
    rcases (Table.mem_insert? hinsert).mp hrow with hmem | rfl
    · exact hdb.current row hmem
    · have hzero : ∀ figure : CostLine → ℚ,
          (db.lines.sum fun line => share figure set.id (some line)) = 0 := by
        intro figure
        refine List.sum_eq_zero fun x hx => ?_
        obtain ⟨line, hline, rfl⟩ := List.mem_map.mp hx
        simp [hnew line hline]
      ext
      · exact (hzero totalCost).symm
      · exact (hzero totalRev).symm
      · exact (hzero countedHours).symm
  · intro line hline
    rw [Table.find?_insert?_of_ne hinsert (hnew line hline)]
    exact hdb.owned line hline

/-- **The full recalculation finds nothing to write.** -/
lemma recalculateSummary_finds_nothing {db db' : Costing} (hdb : db.SummariesCurrent) {id : ℕ}
    {changed : Bool} (h : (CostSet.recalculateSummary id).run db = .ok (changed, db')) :
    changed = false ∧ db' = db := by
  simp only [CostSet.recalculateSummary, run_bind, run_read, run_orRefuse, run_ite, run_pure,
    run_write] at h
  obtain ⟨_, _, ⟨rfl, rfl⟩, set, _, ⟨hfound, rfl⟩, ⟨-, rfl, rfl⟩ | ⟨hstale, -⟩⟩ := h
  · exact ⟨rfl, rfl⟩
  · rw [← Table.key_of_find? hfound] at hstale
    exact absurd (hdb.current set (Table.mem_of_find? hfound)) hstale

lemma step_keeps_summariesCurrent (op : CostingOp) :
    Keeps Costing.SummariesCurrent (Costing.step op) := by
  cases op with
  | createCostSet set => exact create_keeps_summariesCurrent set
  | createLine line => exact save_keeps_summariesCurrent line true none fun _ => rfl
  | saveLine line updateFields =>
      exact save_keeps_summariesCurrent line false updateFields nofun
  | deleteLine line => exact delete_keeps_summariesCurrent line
  | recalculateSummary costSet =>
      refine Keeps.bind (fun db hdb _ db' h => ?_) fun _ => Keeps.pure
      rw [(recalculateSummary_finds_nothing hdb h).2]
      exact hdb

/-! ## Every run -/

/-- **The summaries never drift.**  Started where every summary is what the ledger adds up to,
any sequence of line saves, flag saves, line deletes, set creations and recalculations, refused
or not, ends where every summary is. -/
theorem summaries_current_after_every_run (db : Costing) (hdb : db.SummariesCurrent)
    (ops : List CostingOp) : (serveAll Costing.step db ops).SummariesCurrent :=
  serveAll_keeps step_keeps_summariesCurrent hdb ops

/-- A job with an estimate and a quote, both empty. -/
def newJobCosting : Costing where
  jobs := ⟨[⟨1, "Handrail", 101, false, none⟩], by decide⟩
  costSets := ⟨[⟨1, 1, .estimate, 1, ⟨0, 0, 0⟩⟩, ⟨2, 1, .quote, 1, ⟨0, 0, 0⟩⟩], by decide⟩
  lines := Table.empty
  leaveTypes := Table.empty

def labourLine : CostLine where
  id := 7
  costSet := 1
  kind := .time
  desc := some "Weld"
  quantity := 2
  unitCost := 32
  unitRev := 105
  extRefs := []
  payload := []
  accountingDate := 0
  approved := true
  staff := none
  entrySeq := none
  xeroPayItem := none
  labourSubtype := some 1
  managedBy := none

/-- A line is entered on the estimate, moved to the quote while its hours are edited, and
flagged: the estimate is empty again and the quote holds the line. -/
theorem summaries_current_after_a_move :
    let db := serveAll Costing.step newJobCosting
      [.createLine labourLine, .saveLine { labourLine with costSet := 2, quantity := 5 / 2 } none,
        .saveLine { labourLine with approved := false } (some [.approved]), .recalculateSummary 2]
    db.SummariesCurrent ∧
      db.costSets.rows.map CostSet.summary = [⟨0, 0, 0⟩, ⟨80, 525 / 2, 5 / 2⟩] :=
  ⟨summaries_current_after_every_run newJobCosting
    ⟨by decide +kernel, by decide +kernel⟩ _, by decide +kernel⟩

end Docketworks
