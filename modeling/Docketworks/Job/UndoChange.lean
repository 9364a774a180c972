import Docketworks.Job.AuditTrail

/-!
# Undoing a change

`undo_job_change` reads the event of a change and applies its before-values as a change of its own
(`apps/job/services/job_service.py`).

* `run_updateJob` — what an update leaves of a tracked column, and the events it records.
* `undo_restores` — undoing an update takes back what its delta declared and leaves the rest.
-/

namespace Docketworks

open Library Kanban

namespace JobRecord

namespace JobDesk

variable {desk desk' : JobDesk} {now : ℤ} {job : ℕ} {field : JobField}

lemma id_applied {cells : List Cell} {row self : JobRow}
    (h : cells.foldlM applyDeltaField row = some self) : self.id = row.id := by
  induction cells generalizing row with
  | nil => exact Option.some.inj h ▸ rfl
  | cons cell cells ih =>
      obtain ⟨next, hnext, hrest⟩ := Option.bind_eq_some_iff.mp h
      unfold applyDeltaField at hnext
      split at hnext
      · obtain rfl := Option.some.inj hnext
        have hid : self.id = (row.set cell).id := ih hrest
        exact hid
      · cases hnext

/-- The cells applied to a row: the last one of a column stands, and the other columns stay. -/
lemma value_applied {cells : List Cell} {row self : JobRow} {value : field.Value}
    (h : cells.foldlM applyDeltaField row = some self)
    (hcells : ∀ cell ∈ cells, cell.1 = field → cell = ⟨field, value⟩) :
    self.value field = if field ∈ cells.map Sigma.fst then value else row.value field := by
  induction cells generalizing row with
  | nil =>
      obtain rfl := Option.some.inj h
      rfl
  | cons cell cells ih =>
      obtain ⟨next, hnext, hrest⟩ := Option.bind_eq_some_iff.mp h
      have hvalue := ih hrest fun other hother => hcells other (List.mem_cons_of_mem cell hother)
      unfold applyDeltaField at hnext
      split at hnext
      · obtain rfl := Option.some.inj hnext
        refine hvalue.trans ?_
        by_cases hown : cell.1 = field
        · obtain rfl := hcells cell List.mem_cons_self hown
          simp
        · have hne : field ≠ cell.1 := fun heq => hown heq.symm
          simp only [List.map_cons, List.mem_cons, hne, false_or, value_set_of_ne hne]
      · cases hnext

/-- The columns an update changes. -/
def changedBy (row self : JobRow) : List JobField := detectFieldChanges row self none false

/-- The event of a save names its change, and holds the before-values of what it changed. -/
lemma event_of_update {self original : JobRow} {updateFields : Option (List JobField)}
    {enrichment : Enrichment} {top : ℚ} {event : JobEvent}
    (h : (self.save original updateFields enrichment top now).event = some event) :
    event.job = self.id ∧ event.changeId = enrichment.changeId ∧
      (updateFields = none → enrichment.priorityPosition = none →
        event.deltaBefore = (changedBy original self).map original.cell ∧
        event.deltaFields = enrichment.deltaFields.map fun fields =>
          fields.filter fun field => (changedBy original self).contains field) := by
  simp only [JobRow.save] at h
  split at h
  · cases h
  · unfold recordChangeEvent at h
    dsimp only at h
    split at h
    · cases h
    · obtain rfl := Option.some.inj h
      refine ⟨rfl, rfl, fun hnone hposition => ?_⟩
      subst hnone
      rw [hposition]
      exact ⟨rfl, rfl⟩

/-- What an update leaves: the tracked columns as its cells say, and one event under its change id. -/
structure Updated (desk desk' : JobDesk) (now : ℤ) (job : ℕ) (delta : JobDelta) (row object : JobRow) :
    Prop where
  found : desk.jobs.find? job = some row
  applied : delta.after.foldlM applyDeltaField row = some object
  left : ∃ row', desk'.jobs.find? job = some row' ∧
    ∀ field, field ∉ JobField.untracked → field ≠ .priority → row'.value field = object.value field
  recorded : ∃ top rest, desk'.events = desk.events ++ ((object.save row none
      { schemaVersion := 1, changeId := delta.changeId, deltaFields := some delta.fields }
      top now).event.toList ++ rest) ∧ ∀ event ∈ rest, event.changeId = none

lemma run_updateJob {delta : JobDelta} (h : desk.updateJob now job delta = some desk') :
    ∃ row self, Updated desk desk' now job delta row self := by
  obtain ⟨row, hrow, h⟩ := Option.bind_eq_some_iff.mp h
  obtain ⟨-, -, h⟩ := Option.bind_eq_some_iff.mp h
  obtain ⟨self, hself, h⟩ := Option.bind_eq_some_iff.mp h
  obtain ⟨saved, hsaved, h⟩ := Option.bind_eq_some_iff.mp h
  have hid : self.id = job := (id_applied hself).trans (Table.key_of_find? hrow)
  obtain ⟨original, top, horiginal, hfirst, -, hevents⟩ := run_saveJob hsaved
  rw [hid] at horiginal hfirst
  obtain rfl : row = original := Option.some.inj (hrow.symm.trans horiginal)
  refine ⟨row, self, hrow, hself, ?_, ?_⟩
  · split at h
    · obtain ⟨original', top', horiginal', hsecond, -, -⟩ := run_saveJob h
      rw [id_set, hid] at horiginal' hsecond
      obtain rfl := Option.some.inj (hfirst.symm.trans horiginal')
      refine ⟨_, hsecond, fun field htracked hpriority => ?_⟩
      have hnot : field ≠ .updatedAt := fun heq => htracked (heq ▸ by decide)
      rw [value_saved htracked hpriority, value_saved htracked hpriority]
      simp [hpriority, hnot]
    · obtain rfl := Option.some.inj h
      exact ⟨_, hfirst, fun field htracked hpriority => value_saved htracked hpriority⟩
  · split at h
    · obtain ⟨original', top', -, -, -, hevents'⟩ := run_saveJob h
      refine ⟨top, _, by rw [hevents', hevents, List.append_assoc], fun event hevent => ?_⟩
      exact (event_of_update (Option.mem_toList.mp hevent)).2.1
    · obtain rfl := Option.some.inj h
      exact ⟨top, [], by rw [hevents, List.append_nil], fun _ hevent => absurd hevent List.not_mem_nil⟩

/-- The fields an undo takes: the declared ones that changed, or every column that did. -/
def fieldsToUndo (event : JobEvent) : List JobField :=
  match event.deltaFields with
  | some (field :: fields) => field :: fields
  | _ => event.deltaBefore.map Sigma.fst

lemma undoJobChange_eq_some {change undoChange : ℕ}
    (h : desk.undoJobChange now job change undoChange = some desk') :
    ∃ event cells, event ∈ desk.events ∧ event.job = job ∧ event.changeId = some change ∧
      cellsOf (fieldsToUndo event) event.deltaBefore = some cells ∧
      desk.updateJob now job ⟨some undoChange, fieldsToUndo event, cells⟩ = some desk' := by
  obtain ⟨event, hlast, h⟩ := Option.bind_eq_some_iff.mp h
  obtain ⟨-, -, h⟩ := Option.bind_eq_some_iff.mp h
  obtain ⟨cells, hcells, h⟩ := Option.bind_eq_some_iff.mp h
  obtain ⟨hmem, hnamed⟩ := List.mem_filter.mp (List.mem_of_getLast? hlast)
  obtain ⟨hjob, hchange⟩ := of_decide_eq_true hnamed
  exact ⟨event, cells, hmem, hjob, hchange, hcells, h⟩

/-- What is taken back of a declared column: it is, exactly if it changed. -/
lemma mem_fieldsToUndo {event : JobEvent} {row : JobRow} {changed declared : List JobField}
    (hbefore : event.deltaBefore = changed.map row.cell)
    (hfields : event.deltaFields = some (declared.filter fun field => changed.contains field))
    (hdeclared : field ∈ changed → field ∈ declared) : field ∈ fieldsToUndo event ↔ field ∈ changed := by
  unfold fieldsToUndo
  rw [hfields, hbefore, List.map_map]
  cases hkept : declared.filter fun field => changed.contains field with
  | nil => simp [Function.comp_def, JobRow.cell]
  | cons first others =>
      dsimp only
      rw [← hkept, List.mem_filter, List.contains_iff_mem]
      exact ⟨And.right, fun hmem => ⟨hdeclared hmem, hmem⟩⟩

/-- The cells of some fields are those of the row they were taken from. -/
lemma cellsOf_map_cell {row : JobRow} {fields changed : List JobField} {cells : List Cell}
    (h : cellsOf fields (changed.map row.cell) = some cells) : cells = fields.map row.cell := by
  unfold cellsOf at h
  induction fields generalizing cells with
  | nil => exact (Option.some.inj h).symm
  | cons field fields ih =>
      rw [List.mapM_cons] at h
      obtain ⟨cell, hcell, h⟩ := Option.bind_eq_some_iff.mp h
      obtain ⟨rest, hrest, h⟩ := Option.bind_eq_some_iff.mp h
      obtain rfl := Option.some.inj h
      rw [ih hrest]
      rw [cellValue?_map_cell] at hcell
      split at hcell
      · obtain rfl := Option.some.inj hcell
        rfl
      · cases hcell

end JobDesk

/-- **Undo takes a change back.**  Where an update under an unused change id is accepted and its undo is
accepted right after it, every tracked column that the delta declares, or does not touch, holds what it held
before the update. -/
theorem undo_restores (desk updated undone : JobDesk) (now later : ℤ) (job change undoChange : ℕ)
    (delta : JobDesk.JobDelta)
    (hunused : ∀ event ∈ desk.events, event.job = job → event.changeId ≠ some change)
    (hupdated : desk.updateJob now job delta = some updated)
    (hundone : updated.undoJobChange later job change undoChange = some undone) (field : JobField)
    (htracked : field ∉ JobField.untracked) (hpriority : field ≠ .priority)
    (hdeclared : field ∈ delta.fields ∨ field ∉ delta.after.map Sigma.fst) :
    ∃ before after, desk.jobs.find? job = some before ∧ undone.jobs.find? job = some after ∧
      after.value field = before.value field := by
  obtain ⟨row, self, hupdate⟩ := JobDesk.run_updateJob hupdated
  obtain ⟨top, rest, hevents, hrest⟩ := hupdate.recorded
  obtain ⟨middle, hmiddle, hvalues⟩ := hupdate.left
  have hid : self.id = job := (JobDesk.id_applied hupdate.applied).trans (Table.key_of_find? hupdate.found)
  obtain ⟨event, cells, hmem, hjob, hnamed, hcells, hundone⟩ := JobDesk.undoJobChange_eq_some hundone
  -- the event undone is the one of the update
  have hevent : (self.save row none
      { schemaVersion := 1, changeId := delta.changeId, deltaFields := some delta.fields }
      top now).event = some event := by
    rw [hevents] at hmem
    rcases List.mem_append.mp hmem with hold | hnew
    · exact absurd hnamed (hunused event hold hjob)
    · rcases List.mem_append.mp hnew with hown | hlater
      · exact Option.mem_toList.mp hown
      · rw [hrest event hlater] at hnamed
        cases hnamed
  obtain ⟨-, -, hheld⟩ := JobDesk.event_of_update hevent
  obtain ⟨hbefore, hfields⟩ := hheld rfl rfl
  obtain ⟨row', self', hundo⟩ := JobDesk.run_updateJob hundone
  obtain ⟨after, hafter, hvalues'⟩ := hundo.left
  obtain rfl : row' = middle := Option.some.inj (hundo.found.symm.trans hmiddle)
  refine ⟨row, after, hupdate.found, hafter, ?_⟩
  have hchanged := @mem_detectFieldChanges row self none false field htracked hpriority
  have hsame : field ∉ delta.after.map Sigma.fst → self.value field = row.value field := by
    intro hnot
    have hvalue := @JobDesk.value_applied field _ _ _ (self.value field) hupdate.applied
      fun cell hcell hown => absurd (List.mem_map.mpr ⟨cell, hcell, hown⟩) hnot
    rwa [if_neg hnot] at hvalue
  have hmem := @JobDesk.mem_fieldsToUndo field _ _ _ _ hbefore hfields fun hin => by
    refine hdeclared.resolve_right fun hnot => ?_
    exact (hchanged.mp hin).2 (hsame hnot).symm
  rw [hbefore] at hcells
  obtain rfl := JobDesk.cellsOf_map_cell hcells
  have happlied := @JobDesk.value_applied field _ _ _ (row.value field) hundo.applied
    fun cell hcell hown => by
      obtain ⟨other, -, rfl⟩ := List.mem_map.mp hcell
      obtain rfl : other = field := hown
      rfl
  rw [hvalues' field htracked hpriority, happlied]
  split
  · rfl
  · rename_i hnot
    rw [hvalues field htracked hpriority]
    by_contra hne
    refine hnot (List.mem_map.mpr ⟨row.cell field, List.mem_map.mpr ⟨field, ?_, rfl⟩, rfl⟩)
    exact hmem.mpr (hchanged.mpr ⟨rfl, fun heq => hne heq.symm⟩)

/-- A job is sent for approval and renamed, and the change is undone. -/
theorem undo_restores_a_plain_job :
    ∃ desk updated undone before after, jobWork.run (.opened 0) (plainRun.take 1) = some desk ∧
      desk.updateJob 20 7 ⟨some 1, [.status, .name], [⟨.status, .awaitingApproval⟩, ⟨.name, "Gate"⟩]⟩ =
        some updated ∧
      updated.undoJobChange 30 7 1 2 = some undone ∧ desk.jobs.find? 7 = some before ∧
      undone.jobs.find? 7 = some after ∧ after.value .status = before.value .status := by
  have hruns : (jobWork.run (.opened 0) (plainRun.take 1)).any (fun desk =>
      desk.events.all (fun event => event.changeId ≠ some 1) &&
        (desk.updateJob 20 7 ⟨some 1, [.status, .name], [⟨.status, .awaitingApproval⟩, ⟨.name, "Gate"⟩]⟩).any
          fun updated => (updated.undoJobChange 30 7 1 2).isSome) = true := by decide +kernel
  obtain ⟨desk, hdesk, hrest⟩ := (Option.any_eq_true _ _).mp hruns
  obtain ⟨hunused, hrest⟩ := Bool.and_eq_true_iff.mp hrest
  obtain ⟨updated, hupdated, hsome⟩ := (Option.any_eq_true _ _).mp hrest
  obtain ⟨undone, hundone⟩ := Option.isSome_iff_exists.mp hsome
  obtain ⟨before, after, hbefore, hafter, hvalue⟩ := undo_restores desk updated undone 20 30 7 1 2 _
    (fun event hevent _ => of_decide_eq_true (List.all_eq_true.mp hunused event hevent)) hupdated hundone
    .status (by decide) (by decide) (.inl (by decide))
  exact ⟨desk, updated, undone, before, after, hdesk, hupdated, hundone, hbefore, hafter, hvalue⟩

end JobRecord

end Docketworks
