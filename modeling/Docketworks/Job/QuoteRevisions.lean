import Mathlib.Algebra.BigOperators.Group.Multiset.Basic
import Docketworks.Job.CostSummary
import Docketworks.Job.QuoteCopy

/-!
# A copied quote is the estimate, and what it replaced is archived

* `lineContents`, `totals_eq_of_contents` — the contents of a set as a multiset, and the totals they
  determine.
* `Costing.CurrentExcept` — every summary but one is current: what holds while a set's lines are
  replaced in bulk.
* `copyCostLines_spec`, `createQuoteRevision_spec` — what the two steps of a copy do.
* `copyEstimateToQuote_exact` — the copy as a whole.
* `archive_forgets_labour_subtype` — what the archive does not hold.
-/

namespace Docketworks

open Library Library.Transaction

/-! ## Contents -/

/-- What the lines of a set carry, as a multiset. -/
def lineContents (lines : Table CostLine.id) (costSet : ℕ) : Multiset CopiedLine :=
  ((costLines lines costSet).map copiedLineValues : List CopiedLine)

variable {lines lines' : Table CostLine.id} {id source dest : ℕ} {line : CostLine}

lemma costLines_perm :
    (costLines lines id).Perm (lines.rows.filter fun line => line.costSet = id) := by
  unfold costLines
  generalize (lines.rows.filter fun line => line.costSet = id) = own
  have hrest : (own.filter (·.kind = .adjust) ++ own.filter (·.kind = .time)).Perm
      (own.filter fun line => !decide (line.kind = .material)) := by
    have hsplit := List.filter_append_perm (fun line => decide (line.kind = .adjust))
      (own.filter fun line => !decide (line.kind = .material))
    refine List.Perm.trans (List.Perm.of_eq ?_) hsplit
    rw [List.filter_filter, List.filter_filter]
    congr 1 <;>
      · refine List.filter_congr fun line _ => ?_
        cases line.kind <;> simp
  exact (hrest.append_left _).trans
    (List.filter_append_perm (fun line => decide (line.kind = .material)) own)

lemma lineContents_eq :
    lineContents lines id =
      (((lines.rows.filter fun line => line.costSet = id).map copiedLineValues : List CopiedLine) :
        Multiset CopiedLine) :=
  Multiset.coe_eq_coe.mpr (costLines_perm.map _)

lemma sum_share {figure : CostLine → ℚ} {weight : CopiedLine → ℚ}
    (h : ∀ line, figure line = weight (copiedLineValues line)) :
    (lines.sum fun line => CostLine.share figure id (some line)) =
      ((lineContents lines id).map weight).sum := by
  rw [lineContents_eq, Multiset.map_coe, Multiset.sum_coe, Table.sum]
  induction lines.rows with
  | nil => rfl
  | cons line rows ih =>
      by_cases hid : line.costSet = id
      · rw [List.filter_cons_of_pos (by simpa using hid), List.map_cons, List.sum_cons, ih,
          List.map_cons, List.map_cons, List.sum_cons, CostLine.share_some, if_pos hid, h]
      · rw [List.filter_cons_of_neg (by simpa using hid)]
        simpa [hid] using ih

/-- **The totals are those of the contents.** -/
lemma totals_eq_of_contents (h : lineContents lines id = lineContents lines' dest) :
    CostSet.totals lines id = CostSet.totals lines' dest := by
  have hfigure : ∀ (figure : CostLine → ℚ) (weight : CopiedLine → ℚ),
      (∀ line, figure line = weight (copiedLineValues line)) →
      (lines.sum fun line => CostLine.share figure id (some line)) =
        lines'.sum fun line => CostLine.share figure dest (some line) := by
    intro figure weight hweight
    rw [sum_share hweight, sum_share hweight, h]
  refine Summary.ext ?_ ?_ ?_
  · exact hfigure CostLine.totalCost (fun values => values.quantity * values.unitCost)
      fun _ => rfl
  · exact hfigure CostLine.totalRev (fun values => values.quantity * values.unitRev) fun _ => rfl
  · exact hfigure CostLine.countedHours
      (fun values => if values.kind = .time then values.quantity else 0) fun _ => rfl

/-! ## Replacing the lines of one set -/

/-- Every summary but that of one set is current, and every line belongs to a set that is there. -/
structure Costing.CurrentExcept (except : ℕ) (db : Costing) : Prop where
  current : ∀ id set, db.costSets.find? id = some set → id ≠ except →
    set.summary = CostSet.totals db.lines id
  owned : ∀ line ∈ db.lines.rows, (db.costSets.find? line.costSet).isSome

variable {db db' : Costing}

lemma Costing.SummariesCurrent.except (h : db.SummariesCurrent) : db.CurrentExcept id := by
  refine ⟨fun other set hset _ => ?_, h.owned⟩
  rw [← Table.key_of_find? hset]
  exact h.current set (Table.mem_of_find? hset)

lemma lineContents_of_filter {keep : CostLine → Bool}
    (hrows : lines'.rows = lines.rows.filter keep)
    (hkeep : ∀ line, line.costSet = id → keep line = true) :
    lineContents lines' id = lineContents lines id := by
  rw [lineContents_eq, lineContents_eq, hrows, List.filter_filter]
  congr 2
  refine List.filter_congr fun line _ => ?_
  by_cases hline : line.costSet = id
  · simp [hline, hkeep line hline]
  · simp [hline]

lemma lineContents_of_append {new : List CostLine} (hrows : lines'.rows = lines.rows ++ new) :
    lineContents lines' id = lineContents lines id +
      (((new.filter fun line => line.costSet = id).map copiedLineValues : List CopiedLine) :
        Multiset CopiedLine) := by
  rw [lineContents_eq, lineContents_eq, hrows, List.filter_append, List.map_append,
    ← Multiset.coe_add]

lemma deleteCostLines_spec {u : Unit} (hdb : db.CurrentExcept id)
    (hrun : (deleteCostLines id).run db = .ok (u, db')) :
    db'.CurrentExcept id ∧ db'.costSets = db.costSets ∧ lineContents db'.lines id = 0 ∧
      ∀ other ≠ id, lineContents db'.lines other = lineContents db.lines other := by
  rw [deleteCostLines, run_write] at hrun
  subst hrun
  have hothers : ∀ other ≠ id, lineContents (db.lines.filter fun line => line.costSet ≠ id) other
      = lineContents db.lines other := by
    intro other hne
    exact lineContents_of_filter rfl fun line hline => by simpa [hline] using hne
  refine ⟨⟨fun other set hset hne => ?_, fun line hline => ?_⟩, rfl, ?_, hothers⟩
  · rw [hdb.current other set hset hne]
    exact totals_eq_of_contents (hothers other hne).symm
  · exact hdb.owned line (List.mem_filter.mp hline).1
  · rw [lineContents_eq]
    simp

lemma find?_put_summary {sets : Table CostSet.id} {set : CostSet} (hfound : sets.find? id = some set)
    (summary : Summary) (other : ℕ) :
    (sets.put { set with summary := summary }).find? other =
      if other = id then some { set with summary := summary } else sets.find? other := by
  have hid : set.id = id := Table.key_of_find? hfound
  by_cases hother : other = id
  · rw [if_pos hother, hother, ← hid]
    exact Table.find?_put_self (r := { set with summary := summary }) (by rw [hid]; exact hfound)
  · rw [if_neg hother]
    exact Table.find?_put_of_ne (by rwa [hid])

lemma kind_put_summary {sets : Table CostSet.id} {set : CostSet} (hfound : sets.find? id = some set)
    (summary : Summary) (other : ℕ) :
    ((sets.put { set with summary := summary }).find? other).map (·.kind) =
      (sets.find? other).map (·.kind) := by
  rw [find?_put_summary hfound]
  split
  · rename_i hother
    rw [hother, hfound]
    rfl
  · rfl

lemma Costing.CurrentExcept.put {set : CostSet} (hdb : db.CurrentExcept id)
    (hfound : db.costSets.find? id = some set) (summary : Summary) :
    ({ db with costSets := db.costSets.put { set with summary := summary } } : Costing).CurrentExcept
      id := by
  refine ⟨fun other set' hset' hne => ?_, fun line hline => ?_⟩
  · simp only [find?_put_summary hfound, if_neg hne] at hset'
    exact hdb.current other set' hset' hne
  · have hkind := kind_put_summary hfound summary line.costSet
    have howned := hdb.owned line hline
    rw [← Option.isSome_map (f := fun set : CostSet => set.kind)] at howned ⊢
    rwa [hkind]

lemma recalculateSummary_spec {changed : Bool} (hdb : db.CurrentExcept id)
    (hrun : (CostSet.recalculateSummary id).run db = .ok (changed, db')) :
    db'.SummariesCurrent ∧ db'.lines = db.lines ∧
      ∀ other, (db'.costSets.find? other).map (·.kind) = (db.costSets.find? other).map (·.kind) := by
  simp only [CostSet.recalculateSummary, run_bind, run_read, run_orRefuse, run_ite, run_pure,
    run_write] at hrun
  obtain ⟨_, _, ⟨rfl, rfl⟩, set, _, ⟨hfound, rfl⟩, ⟨hcurrent, -, rfl⟩ | ⟨-, _, _, rfl, -, rfl⟩⟩ := hrun
  · refine ⟨⟨fun other hother => ?_, hdb.owned⟩, rfl, fun _ => rfl⟩
    have hfind := Table.find?_of_mem hother
    by_cases hid : other.id = id
    · rw [hid, hfound, Option.some.injEq] at hfind
      rw [← hfind, hcurrent, Table.key_of_find? hfound]
    · exact hdb.current other.id other hfind hid
  · have hput := hdb.put hfound (CostSet.totals db.lines id)
    refine ⟨⟨fun other hmem => ?_, hput.owned⟩, rfl,
      fun other => kind_put_summary hfound _ other⟩
    have hfind := Table.find?_of_mem hmem
    by_cases hid : other.id = id
    · simp only [find?_put_summary hfound, hid, if_true, Option.some.injEq] at hfind
      rw [← hfind, Table.key_of_find? hfound]
    · exact hput.current other.id other hfind hid

/-! ## Inserting copies -/

lemma copiesFrom_values {start : ℕ} {values : List CostLine} :
    (copiesFrom dest start values).map copiedLineValues = values.map copiedLineValues := by
  induction values generalizing start with
  | nil => rfl
  | cons line values ih =>
      rw [copiesFrom, List.map_cons, List.map_cons, ih]
      rfl

lemma costSet_of_mem_copiesFrom {start : ℕ} {values : List CostLine}
    (h : line ∈ copiesFrom dest start values) : line.costSet = dest := by
  induction values generalizing start with
  | nil => simp [copiesFrom] at h
  | cons first values ih =>
      rcases List.mem_cons.mp h with rfl | h
      · rfl
      · exact ih h

lemma insertLines_spec {new : List CostLine} {u : Unit}
    (hrun : (new.forM insertLine).run db = .ok (u, db')) :
    db'.lines.rows = db.lines.rows ++ new ∧ db'.costSets = db.costSets := by
  induction new generalizing db with
  | nil =>
      rw [run_forM_nil] at hrun
      subst hrun
      simp
  | cons line new ih =>
      rw [run_forM_cons] at hrun
      obtain ⟨t, hfirst, hrest⟩ := hrun
      simp only [insertLine, run_bind, run_read, run_orRefuse, run_write] at hfirst
      obtain ⟨_, _, ⟨rfl, rfl⟩, lines', _, ⟨hinsert, rfl⟩, rfl⟩ := hfirst
      obtain ⟨hrows, hsets⟩ := ih hrest
      refine ⟨?_, hsets⟩
      rw [hrows, Table.rows_insert? hinsert]
      simp

/-- **Copying lines.**  The set gains the contents of the other, and every summary is current. -/
lemma copyCostLines_spec {count : ℕ} (hdb : db.CurrentExcept dest)
    (hsource : costLines db.lines source ≠ [])
    (hrun : (copyCostLines source dest).run db = .ok (count, db')) :
    db'.SummariesCurrent ∧
      lineContents db'.lines dest = lineContents db.lines dest + lineContents db.lines source ∧
      (∀ other ≠ dest, lineContents db'.lines other = lineContents db.lines other) ∧
      ∀ other, (db'.costSets.find? other).map (·.kind) = (db.costSets.find? other).map (·.kind) := by
  simp only [copyCostLines, run_bind, run_read, run_orRefuse, run_require] at hrun
  obtain ⟨_, _, ⟨rfl, rfl⟩, destSet, _, ⟨hdest, rfl⟩, _, _, ⟨-, rfl⟩, hrun⟩ := hrun
  set new := copiesFrom dest (unusedId db.lines) (costLines db.lines source) with hnew
  have hvalues : new.map copiedLineValues = (costLines db.lines source).map copiedLineValues :=
    copiesFrom_values
  have hown : ∀ line ∈ new, line.costSet = dest := fun line hline => costSet_of_mem_copiesFrom hline
  cases hcases : new with
  | nil =>
      rw [hcases, List.map_nil, eq_comm, List.map_eq_nil_iff] at hvalues
      exact absurd hvalues hsource
  | cons line rest =>
      rw [hcases] at hrun
      simp only [run_bind, run_pure] at hrun
      rw [← hcases] at hrun
      obtain ⟨_, t, hclean, _, t', hinsert, _, t'', hsums, -, rfl⟩ := hrun
      have hclean : t = db :=
        (ReadOnly.forM fun line _ => readOnly_fullClean) db _ t hclean
      subst hclean
      obtain ⟨hrows, hsets⟩ := insertLines_spec hinsert
      have hothers : ∀ other ≠ dest, lineContents t'.lines other = lineContents t.lines other := by
        intro other hne
        have hnone : (new.filter fun line => line.costSet = other) = [] := by
          rw [List.filter_eq_nil_iff]
          intro line hline
          simpa [hown line hline] using hne.symm
        rw [lineContents_of_append hrows, hnone]
        simp
      have hall : (new.filter fun line => line.costSet = dest) = new := by
        rw [List.filter_eq_self]
        exact fun line hline => decide_eq_true (hown line hline)
      have hgain : lineContents t'.lines dest = lineContents t.lines dest + lineContents t.lines source := by
        rw [lineContents_of_append hrows, hall, hvalues]
        rfl
      have hexcept : t'.CurrentExcept dest := by
        refine ⟨fun other set hset hne => ?_, fun line hline => ?_⟩
        · rw [hsets] at hset
          rw [hdb.current other set hset hne]
          exact totals_eq_of_contents (hothers other hne).symm
        · rw [hsets]
          rw [hrows, List.mem_append] at hline
          rcases hline with hline | hline
          · exact hdb.owned line hline
          · rw [hown line hline, hdest]
            rfl
      obtain ⟨hcurrent, hlines, hkinds⟩ := recalculateSummary_spec hexcept hsums
      refine ⟨hcurrent, ?_, fun other hne => ?_, fun other => ?_⟩
      · rw [hlines, hgain]
      · rw [hlines, hothers other hne]
      · rw [hkinds, hsets]

/-! ## Archiving -/

variable {desk desk' : QuoteDesk} {job : QuotedJob} {now : ℤ} {reason : Option String}

lemma theSet_spec {set : CostSet} (hrun : (theSet id).run desk = .ok (set, desk')) :
    desk.costing.costSets.find? id = some set ∧ desk = desk' := by
  simp only [theSet, run_bind, run_read, run_orRefuse] at hrun
  obtain ⟨_, _, ⟨rfl, rfl⟩, hset, rfl⟩ := hrun
  exact ⟨hset, rfl⟩

lemma archiveQuoteRevision_spec {quoteId number : ℕ} {set : CostSet} {values : List CostLine}
    (hset : desk.costing.costSets.find? quoteId = some set)
    (hrun : (archiveQuoteRevision set values reason now).run desk = .ok (number, desk')) :
    desk' = { desk with
      costing := { desk.costing with
        costSets := desk.costing.costSets.put { set with summary := ⟨0, 0, 0⟩ } }
      revisions := Function.update desk.revisions quoteId (desk.revisions quoteId ++
        [archivedRevision (desk.revisions quoteId) values reason now]) } := by
  simp only [archiveQuoteRevision, run_bind, run_read, run_write, run_pure] at hrun
  obtain ⟨_, _, ⟨rfl, rfl⟩, _, _, rfl, -, rfl⟩ := hrun
  rw [Table.key_of_find? hset]

/-- **A quote revision.**  The quote is empty, its lines are in a new revision behind the others, and
the rest of the costing is as it was. -/
lemma createQuoteRevision_spec {quoteId number : ℕ} (hcurrent : desk.costing.SummariesCurrent)
    (hquote : job.latestQuote = some quoteId)
    (hrun : (createQuoteRevision job reason now).run desk = .ok (number, desk')) :
    desk'.costing.SummariesCurrent ∧ lineContents desk'.costing.lines quoteId = 0 ∧
      (∀ other ≠ quoteId,
        lineContents desk'.costing.lines other = lineContents desk.costing.lines other) ∧
      (∀ other, (desk'.costing.costSets.find? other).map (·.kind)
        = (desk.costing.costSets.find? other).map (·.kind)) ∧
      desk'.jobs = desk.jobs.put { job with quoteAcceptanceDate := none } ∧
      desk'.revisions = Function.update desk.revisions quoteId (desk.revisions quoteId ++
        [archivedRevision (desk.revisions quoteId) (costLines desk.costing.lines quoteId) reason
          now]) := by
  simp only [createQuoteRevision, run_bind, run_orRefuse, run_read, run_require, run_on, run_pure,
    resetAcceptance, run_write] at hrun
  obtain ⟨_, _, ⟨hid, rfl⟩, quote, _, hset, _, _, ⟨rfl, rfl⟩, _, _, ⟨-, rfl⟩, _, archived, harchive,
    _, _, ⟨deleted, hdelete, rfl⟩, _, _, ⟨summed, hsum, rfl⟩, _, _, rfl, -, rfl⟩ := hrun
  rw [hquote, Option.some.injEq] at hid
  subst hid
  obtain ⟨hfound, rfl⟩ := theSet_spec hset
  rw [archiveQuoteRevision_spec hfound harchive] at hdelete
  obtain ⟨hexcept, hsets, hempty, hothers⟩ := deleteCostLines_spec (hcurrent.except.put hfound _) hdelete
  obtain ⟨hcurrent', hlines, hkinds⟩ := recalculateSummary_spec hexcept hsum
  refine ⟨hcurrent', ?_, fun other hne => ?_, fun other => ?_, ?_, ?_⟩
  · show lineContents summed.lines _ = 0
    rw [hlines, hempty]
  · show lineContents summed.lines other = _
    rw [hlines, hothers other hne]
  · show (summed.costSets.find? other).map (·.kind) = _
    rw [hkinds, hsets]
    exact kind_put_summary hfound _ other
  · rw [archiveQuoteRevision_spec hfound harchive]
    rfl
  · rw [archiveQuoteRevision_spec hfound harchive]
    rfl

/-! ## The comparison -/

lemma costLineContents_eq (lines : Table CostLine.id) (id : ℕ) :
    costLineContents (costLines lines id) = (lineContents lines id).map serializeCopiedLine := by
  rw [costLineContents, lineContents, Multiset.map_coe, List.map_map]
  rfl

/-- The description a null one is taken for in the comparison. -/
def NeverTyped (values : Multiset CopiedLine) : Prop := ∀ each ∈ values, each.desc ≠ some "None"

lemma eq_of_serialized {a b : Multiset CopiedLine} (ha : NeverTyped a) (hb : NeverTyped b)
    (h : a.map serializeCopiedLine = b.map serializeCopiedLine) : a = b := by
  have hback : ∀ {values : Multiset CopiedLine}, NeverTyped values →
      (values.map serializeCopiedLine).map (fun each : CopiedLine =>
        { each with desc := if each.desc = some "None" then none else each.desc }) = values := by
    intro values hnever
    rw [Multiset.map_map]
    conv_rhs => rw [← Multiset.map_id values]
    refine Multiset.map_congr rfl fun each heach => ?_
    have hdesc := hnever each heach
    obtain ⟨kind, desc, quantity, unitCost, unitRev, date, extRefs, payload, payItem, subtype⟩ := each
    cases desc with
    | none => rfl
    | some text =>
        have htext : text ≠ "None" := fun heq => hdesc (by rw [heq])
        simp [serializeCopiedLine, htext]
  rw [← hback ha, h, hback hb]

/-! ## The copy -/

variable {jobId estimateId quoteId : ℕ} {archive : Bool} {result : CopyEstimateToQuoteResult}

lemma copyEstimateToQuote_of_equal {estimate quote : CostSet}
    (hjob : desk.jobs.find? jobId = some job)
    (hpricing : job.pricingMethodology ≠ .timeMaterials)
    (hestimate : job.latestEstimate = some estimateId) (hquote : job.latestQuote = some quoteId)
    (hestimateSet : desk.costing.costSets.find? estimateId = some estimate)
    (hquoteSet : desk.costing.costSets.find? quoteId = some quote)
    (hlines : lineContents desk.costing.lines estimateId ≠ 0)
    (hequal : costLineContents (costLines desk.costing.lines quoteId)
      = costLineContents (costLines desk.costing.lines estimateId)) :
    (copyEstimateToQuote jobId archive now).run desk = .ok (⟨0, none⟩, desk) := by
  have hnonempty : (costLines desk.costing.lines estimateId).isEmpty = false := by
    rw [List.isEmpty_eq_false_iff]
    intro hnil
    exact hlines (by rw [lineContents, hnil]; rfl)
  unfold copyEstimateToQuote theSet
  simp only [run_bind, run_read, run_orRefuse, run_require, run_ite, run_pure]
  exact ⟨_, _, ⟨rfl, rfl⟩, job, _, ⟨hjob, rfl⟩, (), _, ⟨hpricing, rfl⟩, _, _, ⟨hestimate, rfl⟩, _, _,
    ⟨hquote, rfl⟩, _, _, ⟨_, _, ⟨rfl, rfl⟩, hestimateSet, rfl⟩, _, _, ⟨rfl, rfl⟩, (), _,
    ⟨hnonempty, rfl⟩, _, _, ⟨_, _, ⟨rfl, rfl⟩, hquoteSet, rfl⟩, _, _, ⟨rfl, rfl⟩,
    .inl ⟨hequal, trivial, rfl⟩⟩

/-- What a copy that goes through has done. -/
structure CopiedExactly (jobId : ℕ) (now : ℤ) (desk desk' : QuoteDesk)
    (estimateId quoteId : ℕ) : Prop where
  contents : NeverTyped (lineContents desk.costing.lines estimateId) →
    NeverTyped (lineContents desk.costing.lines quoteId) →
    lineContents desk'.costing.lines quoteId = lineContents desk'.costing.lines estimateId
  summaries : NeverTyped (lineContents desk.costing.lines estimateId) →
    NeverTyped (lineContents desk.costing.lines quoteId) →
    (desk'.costing.costSets.find? quoteId).map CostSet.summary =
      (desk'.costing.costSets.find? estimateId).map CostSet.summary
  estimate : lineContents desk'.costing.lines estimateId = lineContents desk.costing.lines estimateId
  again : ∀ archive now', (copyEstimateToQuote jobId archive now').run desk' = .ok (⟨0, none⟩, desk')
  grows : ∀ id, desk.revisions id <+: desk'.revisions id
  /-- Lines with money on them are replaced behind a revision that records them. -/
  archived : ¬ IsBlank (costLines desk.costing.lines quoteId) →
    costLines desk'.costing.lines quoteId ≠ costLines desk.costing.lines quoteId →
    desk'.revisions quoteId = desk.revisions quoteId ++
      [archivedRevision (desk.revisions quoteId) (costLines desk.costing.lines quoteId)
        (some "Replaced by copy from estimate") now]
  current : desk'.costing.SummariesCurrent

/-- The lines of a quote are gone, and archived unless they were blank. -/
structure Cleared (job : QuotedJob) (now : ℤ) (quoteId : ℕ) (desk cleared : QuoteDesk) : Prop where
  except : cleared.costing.CurrentExcept quoteId
  empty : lineContents cleared.costing.lines quoteId = 0
  others : ∀ other ≠ quoteId,
    lineContents cleared.costing.lines other = lineContents desk.costing.lines other
  kinds : ∀ other, (cleared.costing.costSets.find? other).map (·.kind)
    = (desk.costing.costSets.find? other).map (·.kind)
  jobs : cleared.jobs = desk.jobs.put { job with quoteAcceptanceDate := none }
  grows : ∀ id, desk.revisions id <+: cleared.revisions id
  archived : ¬ IsBlank (costLines desk.costing.lines quoteId) →
    cleared.revisions quoteId = desk.revisions quoteId ++
      [archivedRevision (desk.revisions quoteId) (costLines desk.costing.lines quoteId)
        (some "Replaced by copy from estimate") now]

lemma cleared_of_blank {u u' : Unit} {deleted : Costing} (hcurrent : desk.costing.SummariesCurrent)
    (hblank : IsBlank (costLines desk.costing.lines quoteId))
    (hdelete : (deleteCostLines quoteId).run desk.costing = .ok (u, deleted))
    (hreset : (resetAcceptance job).run (costingPart.set deleted desk) = .ok (u', desk')) :
    Cleared job now quoteId desk desk' := by
  rw [resetAcceptance, run_write] at hreset
  subst hreset
  obtain ⟨hexcept, hsets, hempty, hothers⟩ := deleteCostLines_spec hcurrent.except hdelete
  refine ⟨hexcept, hempty, hothers, fun other => ?_, rfl, fun _ => List.prefix_rfl,
    fun hpriced => absurd hblank hpriced⟩
  show (deleted.costSets.find? other).map (·.kind) = _
  rw [hsets]

lemma cleared_of_revision {number : ℕ} (hcurrent : desk.costing.SummariesCurrent)
    (hquote : job.latestQuote = some quoteId)
    (hrun : (createQuoteRevision job (some "Replaced by copy from estimate") now).run desk
      = .ok (number, desk')) :
    Cleared job now quoteId desk desk' := by
  obtain ⟨hcurrent', hempty, hothers, hkinds, hjobs, hrevisions⟩ :=
    createQuoteRevision_spec hcurrent hquote hrun
  refine ⟨hcurrent'.except, hempty, hothers, hkinds, hjobs, fun id => ?_, fun _ => ?_⟩
  · rw [hrevisions]
    by_cases hid : id = quoteId
    · rw [hid, Function.update_self]
      exact List.prefix_append _ _
    · rw [Function.update_of_ne hid]
  · rw [hrevisions, Function.update_self]

lemma summaries_of_contents {a b : ℕ} {setA setB : CostSet} (hcurrent : db.SummariesCurrent)
    (ha : db.costSets.find? a = some setA) (hb : db.costSets.find? b = some setB)
    (h : lineContents db.lines a = lineContents db.lines b) :
    (db.costSets.find? a).map CostSet.summary = (db.costSets.find? b).map CostSet.summary := by
  have hsummary : ∀ {id set}, db.costSets.find? id = some set →
      set.summary = CostSet.totals db.lines id := by
    intro id set hset
    rw [← Table.key_of_find? hset]
    exact hcurrent.current set (Table.mem_of_find? hset)
  rw [ha, hb, Option.map_some, Option.map_some, hsummary ha, hsummary hb, totals_eq_of_contents h]

/-- **The copy.**  A copy that goes through leaves the quote with what the estimate carries; a
second one changes nothing; and what was replaced is archived. -/
theorem copyEstimateToQuote_exact (hcurrent : desk.costing.SummariesCurrent)
    (hjob : desk.jobs.find? jobId = some job) (hestimate : job.latestEstimate = some estimateId)
    (hquote : job.latestQuote = some quoteId)
    (hrun : (copyEstimateToQuote jobId archive now).run desk = .ok (result, desk')) :
    CopiedExactly jobId now desk desk' estimateId quoteId := by
  unfold copyEstimateToQuote at hrun
  simp only [run_bind, run_read, run_orRefuse, run_require, run_ite, run_pure, run_on] at hrun
  obtain ⟨_, _, ⟨rfl, rfl⟩, job', _, ⟨hjob', rfl⟩, _, _, ⟨hpricing, rfl⟩, _, _, ⟨hestimate', rfl⟩, _,
    _, ⟨hquote', rfl⟩, estimateSet, _, hestimateSet, _, _, ⟨rfl, rfl⟩, _, _, ⟨hlines, rfl⟩, quoteSet,
    _, hquoteSet, _, _, ⟨rfl, rfl⟩, hrun⟩ := hrun
  rw [hjob, Option.some.injEq] at hjob'
  subst hjob'
  rw [hestimate, Option.some.injEq] at hestimate'
  rw [hquote, Option.some.injEq] at hquote'
  subst hestimate' hquote'
  obtain ⟨hestimateFound, rfl⟩ := theSet_spec hestimateSet
  obtain ⟨hquoteFound, rfl⟩ := theSet_spec hquoteSet
  have hnonempty : costLines desk.costing.lines estimateId ≠ [] :=
    List.isEmpty_eq_false_iff.mp hlines
  have hestimateLines : lineContents desk.costing.lines estimateId ≠ 0 := by
    intro hzero
    rw [lineContents, Multiset.coe_eq_zero, List.map_eq_nil_iff] at hzero
    exact hnonempty hzero
  rcases hrun with ⟨hequal, -, rfl⟩ | ⟨hdiffer, hrun⟩
  · -- the quote matches: nothing is written
    have hcontents : NeverTyped (lineContents desk.costing.lines estimateId) →
        NeverTyped (lineContents desk.costing.lines quoteId) →
        lineContents desk.costing.lines quoteId = lineContents desk.costing.lines estimateId := by
      intro hestimateTyped hquoteTyped
      rw [costLineContents_eq, costLineContents_eq] at hequal
      exact eq_of_serialized hquoteTyped hestimateTyped hequal
    refine ⟨hcontents, fun hestimateTyped hquoteTyped => ?_, rfl, fun _ _ => ?_,
      fun _ => List.prefix_rfl, fun _ hreplaced => absurd rfl hreplaced, hcurrent⟩
    · exact summaries_of_contents hcurrent hquoteFound hestimateFound
        (hcontents hestimateTyped hquoteTyped)
    · exact copyEstimateToQuote_of_equal hjob hpricing hestimate hquote hestimateFound hquoteFound
        hestimateLines hequal
  · -- the quote is cleared one way or the other, and the lines are copied onto it
    obtain ⟨cleared, copied, count, hcleared, hcopy, rfl⟩ : ∃ cleared copied count,
        Cleared job now quoteId desk cleared ∧
          (copyCostLines estimateId quoteId).run cleared.costing = .ok (count, copied) ∧
          desk' = { cleared with costing := copied } := by
      obtain ⟨_, _, ⟨-, rfl⟩, hrun⟩ := hrun
      rcases hrun with ⟨hblank, _, _, ⟨deleted, hdelete, rfl⟩, _, cleared, hreset, _, _, ⟨-, rfl⟩,
        count, _, ⟨copied, hcopy, rfl⟩, -, rfl⟩ | ⟨-, _, cleared, hrevision, _, _, ⟨-, rfl⟩, count, _,
        ⟨copied, hcopy, rfl⟩, -, rfl⟩
      · exact ⟨cleared, copied, count, cleared_of_blank hcurrent hblank hdelete hreset, hcopy, rfl⟩
      · exact ⟨cleared, copied, count, cleared_of_revision hcurrent hquote hrevision, hcopy, rfl⟩
    have hids : estimateId ≠ quoteId := by
      rintro rfl
      exact hdiffer rfl
    have hkept : lineContents cleared.costing.lines estimateId
        = lineContents desk.costing.lines estimateId := hcleared.others estimateId hids
    have hsource : costLines cleared.costing.lines estimateId ≠ [] := by
      intro hnil
      exact hestimateLines (by rw [← hkept, lineContents, hnil]; rfl)
    obtain ⟨hcurrent', hgain, hothers, hkinds⟩ := copyCostLines_spec hcleared.except hsource hcopy
    have hestimate' : lineContents copied.lines estimateId
        = lineContents desk.costing.lines estimateId := (hothers estimateId hids).trans hkept
    have hcontents : lineContents copied.lines quoteId = lineContents copied.lines estimateId := by
      rw [hgain, hcleared.empty, zero_add, hkept, hestimate']
    have hfound : ∀ {id set}, desk.costing.costSets.find? id = some set →
        ∃ set', copied.costSets.find? id = some set' := by
      intro id set hset
      have hkind := (hkinds id).trans (hcleared.kinds id)
      rw [hset, Option.map_some, Option.map_eq_some_iff] at hkind
      obtain ⟨set', hset', -⟩ := hkind
      exact ⟨set', hset'⟩
    obtain ⟨estimateSet', hestimateFound'⟩ := hfound hestimateFound
    obtain ⟨quoteSet', hquoteFound'⟩ := hfound hquoteFound
    refine ⟨fun _ _ => hcontents, fun _ _ => ?_, hestimate', fun archive now' => ?_, hcleared.grows,
      fun hpriced _ => hcleared.archived hpriced, hcurrent'⟩
    · exact summaries_of_contents hcurrent' hquoteFound' hestimateFound' hcontents
    · have hjob' : cleared.jobs.find? jobId = some { job with quoteAcceptanceDate := none } := by
        have hid : job.id = jobId := Table.key_of_find? hjob
        rw [hcleared.jobs, ← hid]
        exact Table.find?_put_self (r := { job with quoteAcceptanceDate := none })
          (by rw [hid]; exact hjob)
      refine copyEstimateToQuote_of_equal hjob' hpricing hestimate hquote hestimateFound'
        hquoteFound' ?_ ?_
      · show lineContents copied.lines estimateId ≠ 0
        rw [hestimate']
        exact hestimateLines
      · rw [costLineContents_eq, costLineContents_eq]
        exact congrArg _ hcontents

/-! ### A fence -/

/-- One hour at a workshop rate. -/
def fenceLine (id costSet : ℕ) (subtype : ℕ) : CostLine where
  id := id
  costSet := costSet
  kind := .time
  desc := some "Weld"
  quantity := 1
  unitCost := 32
  unitRev := 105
  extRefs := []
  payload := []
  accountingDate := 0
  approved := true
  staff := none
  entrySeq := none
  xeroPayItem := none
  labourSubtype := some subtype
  managedBy := none

/-- A fixed-price job with an hour of subtype 1 estimated and an hour of another one quoted. -/
def fenceDesk (quoted : ℕ) : QuoteDesk where
  costing :=
    { jobs := ⟨[⟨1, "Fence", 102, false, none⟩], by decide⟩
      costSets := ⟨[⟨1, 1, .estimate, 1, ⟨32, 105, 1⟩⟩, ⟨2, 1, .quote, 1, ⟨32, 105, 1⟩⟩], by decide⟩
      lines := ⟨[fenceLine 1 1 1, fenceLine 2 2 quoted], by simp [fenceLine]⟩
      leaveTypes := Table.empty }
  jobs := ⟨[⟨1, .fixedPrice, some 1, some 2, some 7⟩], by decide⟩
  revisions := fun _ => []

/-- The quoted hour is of subtype 2: it is archived, and the estimate's takes its place. -/
theorem copyEstimateToQuote_exact_on_a_fence :
    ∃ result desk', (copyEstimateToQuote 1 true 9).run (fenceDesk 2) = .ok (result, desk') ∧
      result = ⟨1, some 1⟩ ∧ CopiedExactly 1 9 (fenceDesk 2) desk' 1 2 := by
  obtain ⟨result, desk', hrun, hresult⟩ := exists_of_endsIn (x := copyEstimateToQuote 1 true 9)
    (s := fenceDesk 2) (p := fun result _ => result = ⟨1, some 1⟩) (by decide +kernel)
  have hcurrent : (fenceDesk 2).costing.SummariesCurrent :=
    ⟨by decide +kernel, by decide +kernel⟩
  exact ⟨result, desk', hrun, of_decide_eq_true hresult,
    copyEstimateToQuote_exact hcurrent rfl rfl rfl hrun⟩

/-- **What the archive does not hold.**  Two quotes that differ in their labour subtype are replaced
behind the same revision, and nothing that is left tells which of the two was there. -/
theorem archive_forgets_labour_subtype :
    lineContents (fenceDesk 2).costing.lines 2 ≠ lineContents (fenceDesk 3).costing.lines 2 ∧
      ∃ result₂ desk₂ result₃ desk₃,
        (copyEstimateToQuote 1 true 9).run (fenceDesk 2) = .ok (result₂, desk₂) ∧
        (copyEstimateToQuote 1 true 9).run (fenceDesk 3) = .ok (result₃, desk₃) ∧
        desk₂.revisions 2 = desk₃.revisions 2 ∧
        desk₂.costing.lines.rows = desk₃.costing.lines.rows := by
  refine ⟨by decide +kernel, ?_⟩
  have hleft : ∀ quoted ∈ [2, 3], endsIn (copyEstimateToQuote 1 true 9) (fenceDesk quoted)
      (fun _ desk' => decide (desk'.revisions 2 = [archivedRevision [] [fenceLine 2 2 2]
        (some "Replaced by copy from estimate") 9] ∧
        desk'.costing.lines.rows = [fenceLine 1 1 1, fenceLine 2 2 1])) = true := by
    decide +kernel
  obtain ⟨result₂, desk₂, hrun₂, hdesk₂⟩ := exists_of_endsIn (hleft 2 (by simp))
  obtain ⟨result₃, desk₃, hrun₃, hdesk₃⟩ := exists_of_endsIn (hleft 3 (by simp))
  obtain ⟨hrevisions₂, hrows₂⟩ := of_decide_eq_true hdesk₂
  obtain ⟨hrevisions₃, hrows₃⟩ := of_decide_eq_true hdesk₃
  exact ⟨result₂, desk₂, result₃, desk₃, hrun₂, hrun₃, hrevisions₂.trans hrevisions₃.symm,
    hrows₂.trans hrows₃.symm⟩

end Docketworks
