import Docketworks.Accounting.EventReplay

/-!
# The audit trail of a job

The events record every change of a tracked column: over any run of the operations, the before- and
after-values in the events of a job lead from what the column held at the start to what it holds at
the end, each taking up the value the one before it left (`_record_change_event` of
`apps/job/models/job.py`).

* `changesOf` — what some events record of a column.
* `Leads` — changes that lead from one value to another.
* `Traces` — what an operation adds to the trail; `trail_of_run` — a whole run.

**Design.**  The priority is tracked only where a drag says so, and a drag that leaves the rank where it
was records nothing; it is left out here, as the columns of `_UNTRACKED_FIELDS` are.
-/

namespace Docketworks

open Library Kanban

namespace JobRecord

/-! ## The trail -/

/-- The changes lead from `first` to `last`: each takes up the value before it, and changes it. -/
def Leads {α : Type} (first last : α) : List (α × α) → Prop
  | [] => first = last
  | change :: changes => change.1 = first ∧ change.2 ≠ first ∧ Leads change.2 last changes

lemma Leads.append {α : Type} {first middle last : α} {changes changes' : List (α × α)}
    (h : Leads first middle changes) (h' : Leads middle last changes') :
    Leads first last (changes ++ changes') := by
  induction changes generalizing first with
  | nil =>
      obtain rfl : first = middle := h
      exact h'
  | cons change changes ih => exact ⟨h.1, h.2.1, ih h.2.2⟩

/-- What an event of the job records of a column: its values before and after. -/
def JobEvent.change? (job : ℕ) (field : JobField) (event : JobEvent) : Option (field.Value × field.Value) :=
  if event.job = job then
    (cellValue? field event.deltaBefore).bind fun old =>
      (cellValue? field event.deltaAfter).map fun new => (old, new)
  else none

/-- What some events record of a column of the job, in their order. -/
def changesOf (job : ℕ) (field : JobField) (events : List JobEvent) : List (field.Value × field.Value) :=
  events.filterMap (JobEvent.change? job field)

/-- What an operation adds to the trail of a column: events that lead from the value the job had to the
one it has. -/
def Traces (job : ℕ) (field : JobField) (desk desk' : JobDesk) : Prop :=
  ∃ added, desk'.events = desk.events ++ added ∧ ∀ row, desk.jobs.find? job = some row →
    ∃ row', desk'.jobs.find? job = some row' ∧
      Leads (row.value field) (row'.value field) (changesOf job field added)

variable {job : ℕ} {field : JobField} {desk desk' desk'' : JobDesk} {now : ℤ}

lemma Traces.refl : Traces job field desk desk :=
  ⟨[], (List.append_nil _).symm, fun row hrow => ⟨row, hrow, rfl⟩⟩

lemma Traces.trans (h : Traces job field desk desk') (h' : Traces job field desk' desk'') :
    Traces job field desk desk'' := by
  obtain ⟨added, hadded, hleads⟩ := h
  obtain ⟨added', hadded', hleads'⟩ := h'
  refine ⟨added ++ added', by rw [hadded', hadded, List.append_assoc], fun row hrow => ?_⟩
  obtain ⟨row', hrow', hfirst⟩ := hleads row hrow
  obtain ⟨row'', hrow'', hsecond⟩ := hleads' row' hrow'
  refine ⟨row'', hrow'', ?_⟩
  unfold changesOf at hfirst hsecond ⊢
  rw [List.filterMap_append]
  exact hfirst.append hsecond

/-! ## One save -/

section Save

variable {original self : JobRow} {updateFields : Option (List JobField)} {enrichment : Enrichment}
  {changed : List JobField} {top : ℚ}

/-- The save either is no drag, or saves the status and the priority alone. -/
def RecordsField (updateFields : Option (List JobField)) (enrichment : Enrichment) : Prop :=
  enrichment.priorityPosition = none ∨ enrichment.eventTypeOverride = none ∧
    ∃ fields, updateFields = some fields ∧ ∀ field ∈ fields, field = .status ∨ field = .priority ∨
      field = .updatedAt

/-- **A tracked change is recorded**: the event holds the value before and the value after. -/
lemma change?_of_mem (hfield : field ∈ changed)
    (hrecords : enrichment.priorityPosition = none ∨
      enrichment.eventTypeOverride = none ∧ JobField.status ∈ changed) :
    ∃ event, recordChangeEvent original self changed enrichment now = some event ∧
      event.change? self.id field = some (original.value field, self.value field) := by
  obtain ⟨event, hevent⟩ : ∃ event, recordChangeEvent original self changed enrichment now = some event := by
    rcases hrecords with hnone | ⟨hoverride, hstatus⟩
    · unfold recordChangeEvent
      dsimp only
      rw [hnone, Option.any_none, Bool.and_false, if_neg Bool.false_ne_true]
      exact ⟨_, rfl⟩
    · obtain ⟨event, hevent, -⟩ := @recordChangeEvent_of_status original self enrichment changed now
        hstatus (.inl hoverride)
      exact ⟨event, hevent⟩
  refine ⟨event, hevent, ?_⟩
  unfold recordChangeEvent at hevent
  dsimp only at hevent
  split at hevent
  · cases hevent
  · obtain rfl := Option.some.inj hevent
    unfold JobEvent.change?
    dsimp only
    rw [if_pos rfl, cellValue?_map_cell, if_pos hfield, cellValue?_map_cell, if_pos hfield]
    rfl

/-- A column that did not change is in no event. -/
lemma change?_of_not_mem {event : JobEvent} (hfield : field ∉ changed)
    (h : recordChangeEvent original self changed enrichment now = some event) :
    event.change? self.id field = none := by
  unfold recordChangeEvent at h
  dsimp only at h
  split at h
  · cases h
  · obtain rfl := Option.some.inj h
    unfold JobEvent.change?
    dsimp only
    rw [if_pos rfl, cellValue?_map_cell, if_neg hfield]
    rfl

/-- A tracked column after a save: the object's, where the save covers it. -/
lemma value_saved (htracked : field ∉ JobField.untracked) (hpriority : field ≠ .priority) :
    ((self.save original updateFields enrichment top now).over original).value field =
      if updateFields.all fun fields => fields.contains field then self.value field
      else original.value field :=
  value_over (fun heq => htracked (heq ▸ by decide)) (fun heq => absurd heq hpriority)
    fun heq => absurd (heq ▸ by decide) htracked

/-- **A save** records the change of a tracked column, and no other of it. -/
lemma leads_save (htracked : field ∉ JobField.untracked) (hpriority : field ≠ .priority)
    (hrecords : RecordsField updateFields enrichment) :
    Leads (original.value field)
      (((self.save original updateFields enrichment top now).over original).value field)
      (changesOf self.id field (self.save original updateFields enrichment top now).event.toList) := by
  have hupdated : field ≠ .updatedAt := fun heq => htracked (heq ▸ by decide)
  have hmem := @mem_detectFieldChanges original self (updateFields.map withUpdatedAt)
    enrichment.priorityPosition.isSome field htracked hpriority
  rw [all_contains_withUpdatedAt hupdated] at hmem
  rw [value_saved htracked hpriority]
  by_cases hchanged : field ∈ detectFieldChanges original self (updateFields.map withUpdatedAt)
      enrichment.priorityPosition.isSome
  · obtain ⟨hall, hne⟩ := hmem.mp hchanged
    obtain ⟨event, hevent, hchange⟩ := @change?_of_mem field now original self enrichment _ hchanged (by
      refine hrecords.imp_right fun hdrag => ?_
      obtain ⟨hoverride, fields, rfl, hfields⟩ := hdrag
      refine ⟨hoverride, ?_⟩
      rcases hfields field (List.contains_iff_mem.mp hall) with rfl | rfl | rfl
      · exact hchanged
      · exact absurd rfl hpriority
      · exact absurd rfl hupdated)
    have hsaved : (self.save original updateFields enrichment top now).event = some event := by
      simp only [JobRow.save]
      rw [if_neg (List.ne_nil_of_mem hchanged), hevent]
    rw [hsaved, if_pos hall]
    simp only [changesOf, Option.toList_some, List.filterMap_cons, hchange, List.filterMap_nil]
    exact ⟨rfl, Ne.symm hne, rfl⟩
  · have hsame : (if updateFields.all fun fields => fields.contains field then self.value field
        else original.value field) = original.value field := by
      split
      · rename_i hall
        exact (not_not.mp fun hne => hchanged (hmem.mpr ⟨hall, hne⟩)).symm
      · rfl
    have hnone : changesOf self.id field
        (self.save original updateFields enrichment top now).event.toList = [] := by
      cases hevent : (self.save original updateFields enrichment top now).event with
      | none => rfl
      | some event =>
          simp only [JobRow.save] at hevent
          split at hevent
          · cases hevent
          · simp [changesOf, change?_of_not_mem hchanged hevent]
    rw [hsame, hnone]
    rfl

end Save

/-! ## The operations -/

/-- A save writes the row of its object and records its event. -/
lemma run_saveJob {self : JobRow} {updateFields : Option (List JobField)} {enrichment : Enrichment}
    (h : desk.saveJob now self updateFields enrichment = some desk') :
    ∃ original top, desk.jobs.find? self.id = some original ∧
      desk'.jobs.find? self.id = some ((self.save original updateFields enrichment top now).over original) ∧
      (∀ job, job ≠ self.id → desk'.jobs.find? job = desk.jobs.find? job) ∧
      desk'.events = desk.events ++ (self.save original updateFields enrichment top now).event.toList := by
  obtain ⟨original, horiginal, rfl⟩ := Option.map_eq_some_iff.mp h
  have hkey : original.id = self.id := Table.key_of_find? horiginal
  refine ⟨original, _, horiginal, ?_, fun job hjob => ?_, rfl⟩
  · rw [← hkey] at horiginal ⊢
    exact Table.find?_put_self (r := Saved.over _ original) horiginal
  · have hne : job ≠ ((self.save original updateFields enrichment
        (desk.maxPriority fun _ => true) now).over original).id := fun heq => hjob (heq.trans hkey)
    exact Table.find?_put_of_ne hne

lemma traces_saveJob {self : JobRow} {updateFields : Option (List JobField)} {enrichment : Enrichment}
    (htracked : field ∉ JobField.untracked) (hpriority : field ≠ .priority)
    (hrecords : RecordsField updateFields enrichment)
    (h : desk.saveJob now self updateFields enrichment = some desk') : Traces job field desk desk' := by
  obtain ⟨original, top, horiginal, hsaved, hothers, hevents⟩ := run_saveJob h
  refine ⟨_, hevents, fun row hrow => ?_⟩
  by_cases hjob : job = self.id
  · obtain rfl := hjob
    obtain rfl : row = original := Option.some.inj (hrow.symm.trans horiginal)
    exact ⟨_, hsaved, leads_save htracked hpriority hrecords⟩
  · refine ⟨row, (hothers job hjob).trans hrow, ?_⟩
    have hnone : changesOf job field (self.save original updateFields enrichment top now).event.toList =
        [] := by
      refine List.filterMap_eq_nil_iff.mpr fun event hevent => ?_
      have howner := (event_of_save (Option.mem_toList.mp hevent)).1
      unfold JobEvent.change?
      rw [if_neg fun heq => hjob (heq.symm.trans howner)]
    rw [hnone]
    rfl

lemma traces_saveAll {write : JobRow → JobRow} {rows : List JobRow} (htracked : field ∉ JobField.untracked)
    (hpriority : field ≠ .priority) (h : desk.saveAll now write rows = some desk') :
    Traces job field desk desk' := by
  induction rows generalizing desk with
  | nil => exact Option.some.inj h ▸ .refl
  | cons row rows ih =>
      obtain ⟨saved, hsaved, hrest⟩ := Option.bind_eq_some_iff.mp h
      exact (traces_saveJob htracked hpriority (.inl rfl) hsaved).trans (ih hrest)

lemma traces_updateJob {id : ℕ} {delta : JobDesk.JobDelta} (htracked : field ∉ JobField.untracked)
    (hpriority : field ≠ .priority) (h : desk.updateJob now id delta = some desk') :
    Traces job field desk desk' := by
  obtain ⟨row, -, h⟩ := Option.bind_eq_some_iff.mp h
  obtain ⟨-, -, h⟩ := Option.bind_eq_some_iff.mp h
  obtain ⟨self, -, h⟩ := Option.bind_eq_some_iff.mp h
  obtain ⟨saved, hsaved, h⟩ := Option.bind_eq_some_iff.mp h
  have htraces : Traces job field desk saved := traces_saveJob htracked hpriority (.inl rfl) hsaved
  split at h
  · exact htraces.trans (traces_saveJob htracked hpriority (.inl rfl) h)
  · exact Option.some.inj h ▸ htraces

lemma traces_insertJob {row : JobRow} {status : JobStatus} {added : List JobEvent}
    (hnone : changesOf job field added = []) (h : desk.insertJob row status = some desk') :
    Traces job field desk { desk' with events := desk'.events ++ added } := by
  obtain ⟨jobs, hjobs, rfl⟩ := Option.map_eq_some_iff.mp h
  refine ⟨added, rfl, fun found hfound => ⟨found, ?_, ?_⟩⟩
  · rw [Table.find?_eq_some_iff] at hfound ⊢
    exact ⟨(Table.mem_insert? hjobs).mpr (.inl hfound.1), hfound.2⟩
  · rw [hnone]
    rfl

/-- **Every operation** adds to the trail what it changes. -/
lemma traces_perform {operation : JobOperation} (htracked : field ∉ JobField.untracked)
    (hpriority : field ≠ .priority) (h : desk.perform now operation = some desk') :
    Traces job field desk desk' := by
  cases operation with
  | jobCreated row =>
      obtain ⟨inserted, hinserted, rfl⟩ := Option.map_eq_some_iff.mp h
      refine traces_insertJob ?_ hinserted
      refine List.filterMap_eq_nil_iff.mpr fun event hevent => ?_
      obtain rfl := List.mem_singleton.mp hevent
      simp [JobEvent.change?, JobDesk.creationEvent, cellValue?]
  | specialJobCreated row =>
      have hadds := @traces_insertJob job field desk desk' row .special [] rfl h
      rwa [List.append_nil] at hadds
  | jobUpdated id delta => exact traces_updateJob htracked hpriority h
  | changeUndone id changeId undoChangeId =>
      obtain ⟨event, -, h⟩ := Option.bind_eq_some_iff.mp h
      obtain ⟨-, -, h⟩ := Option.bind_eq_some_iff.mp h
      obtain ⟨before, -, h⟩ := Option.bind_eq_some_iff.mp h
      exact traces_updateJob htracked hpriority h
  | statusUpdated id status =>
      obtain ⟨row, -, h⟩ := Option.bind_eq_some_iff.mp h
      exact traces_saveJob htracked hpriority (.inl rfl) h
  | reordered id status priority position =>
      obtain ⟨row, -, h⟩ := Option.bind_eq_some_iff.mp h
      have hmoved : RecordsField (some [.priority, .updatedAt]) { priorityPosition := some position } :=
        .inr ⟨rfl, _, rfl, by simp⟩
      cases status with
      | none => exact traces_saveJob htracked hpriority hmoved h
      | some status =>
          dsimp only at h
          split at h
          · exact traces_saveJob htracked hpriority (.inr ⟨rfl, _, rfl, by simp⟩) h
          · exact traces_saveJob htracked hpriority hmoved h
  | quoteAccepted id =>
      obtain ⟨row, -, h⟩ := Option.bind_eq_some_iff.mp h
      obtain ⟨-, -, h⟩ := Option.bind_eq_some_iff.mp h
      exact traces_saveJob htracked hpriority (.inl rfl) h
  | autoArchived threshold => exact traces_saveAll htracked hpriority h
  | paidFlagsUpdated settled => exact traces_saveAll htracked hpriority h
  | columnsSaved id cells updateFields =>
      obtain ⟨row, -, h⟩ := Option.bind_eq_some_iff.mp h
      exact traces_saveJob htracked hpriority (.inl rfl) h

/-! ## Runs -/

/-- **The trail of a run.**  Whatever operations are run on a job that is there, it stays; its events so far
stay, with the new ones after them; and what the new ones record of a tracked column leads, change by
change, from what it held at the start to what it holds at the end. -/
theorem trail_of_run (desk desk' : JobDesk) (operations : List TimedOperation)
    (hrun : jobWork.run desk operations = some desk') (job : ℕ) (row : JobRow)
    (hrow : desk.jobs.find? job = some row) (field : JobField) (htracked : field ∉ JobField.untracked)
    (hpriority : field ≠ .priority) :
    ∃ row' added, desk'.jobs.find? job = some row' ∧ desk'.events = desk.events ++ added ∧
      Leads (row.value field) (row'.value field) (changesOf job field added) := by
  suffices htraces : Traces job field desk desk' by
    obtain ⟨added, hadded, hleads⟩ := htraces
    obtain ⟨row', hrow', hvalues⟩ := hleads row hrow
    exact ⟨row', added, hrow', hadded, hvalues⟩
  clear hrow
  induction operations generalizing desk with
  | nil => exact Option.some.inj hrun ▸ .refl
  | cons timed operations ih =>
      obtain ⟨next, hstep, hrest⟩ := Machine.run_cons_eq_some.mp hrun
      unfold jobWork at hstep
      split at hstep
      · obtain ⟨performed, hperformed, rfl⟩ := Option.map_eq_some_iff.mp hstep
        have hfirst : Traces job field desk performed := traces_perform htracked hpriority hperformed
        have htraces : Traces job field desk { performed with clock := timed.instant } := hfirst
        exact htraces.trans (ih _ hrest)
      · cases hstep

/-- The status of a job quoted, reopened, accepted and rejected, from its creation on. -/
theorem trail_of_plain_run :
    ∃ desk desk' row, jobWork.run (.opened 0) (plainRun.take 1) = some desk ∧
      jobWork.run desk plainRun.tail = some desk' ∧ desk.jobs.find? 7 = some row ∧
      ∃ row' added, desk'.jobs.find? 7 = some row' ∧ desk'.events = desk.events ++ added ∧
        Leads (row.value .status) (row'.value .status) (changesOf 7 .status added) := by
  have hruns : (jobWork.run (.opened 0) (plainRun.take 1)).any (fun desk =>
      (jobWork.run desk plainRun.tail).isSome && (desk.jobs.find? 7).isSome) = true := by decide +kernel
  obtain ⟨desk, hdesk, hrest⟩ := (Option.any_eq_true _ _).mp hruns
  obtain ⟨hrun, hfound⟩ := Bool.and_eq_true_iff.mp hrest
  obtain ⟨desk', hdesk'⟩ := Option.isSome_iff_exists.mp hrun
  obtain ⟨row, hrow⟩ := Option.isSome_iff_exists.mp hfound
  exact ⟨desk, desk', row, hdesk, hdesk', hrow,
    trail_of_run desk desk' _ hdesk' 7 row hrow .status (by decide) (by decide)⟩

end JobRecord

end Docketworks
