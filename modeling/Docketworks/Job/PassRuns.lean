import Docketworks.Job.ScheduledPasses

/-!
# No pass loses an edit of an undisturbed job

What the scheduled passes leave of everyone else's edits, over every order of their reads and commits with
the other writers (`apps/job/services/auto_archive_service.py`, `apps/job/services/paid_flag_service.py`).

* `Undisturbed` — an object saved whole is the row as it is at the save.
* `Selected` — the objects of the passes on their way.
* `step_keeps_columns` — a step changes the columns it sets.
* `passes_lose_no_edit` — every run in which what is saved whole is undisturbed.
* `pass_reverts_an_edit` — a name changed while the archive was on its way is gone.
-/

namespace Docketworks

open Library Kanban

namespace JobRecord

instance : DecidableEq JobRow := fun a b =>
  decidable_of_iff (a.id = b.id ∧ ∀ field ∈ JobField.all, a.value field = b.value field) <| by
    constructor
    · rintro ⟨hid, hvalue⟩
      obtain ⟨ida, va⟩ := a
      obtain ⟨idb, vb⟩ := b
      obtain rfl := hid
      rw [show va = vb from funext fun field => hvalue field (JobField.mem_all field)]
    · rintro rfl
      exact ⟨rfl, fun _ _ => rfl⟩

/-! ## The condition -/

/-- The objects a pass has read again, with the rows they are compared with. -/
def PassRun.reread (run : PassRun) : List (JobRow × JobRow) :=
  match run.stage with
  | .firstRead _ => []
  | .saving reread _ => reread

/-- An object saved whole is the row as it is, and the jobs marked paid still have all their invoices
paid. -/
def Undisturbed (office : Office) : OfficeStep → Prop
  | .passCommitted _ run => ∀ row ∈ office.passes.rows, row.id = run → ∀ pair ∈ row.reread,
      office.desk.jobs.find? pair.1.id = some pair.1 ∧ pair.2 = pair.1 ∧
        (row.pass = .paidFlags → office.isSettled pair.1.id = true)
  | .writerSaved _ writer _ true _ => ∀ row ∈ office.writers.rows, row.id = writer →
      office.desk.jobs.find? row.copy.id = some row.copy ∧ row.original = some row.copy
  | _ => True

instance (office : Office) (step : OfficeStep) : Decidable (Undisturbed office step) :=
  match step with
  | .passCommitted _ run => inferInstanceAs (Decidable (∀ row ∈ office.passes.rows, row.id = run →
      ∀ pair ∈ row.reread, office.desk.jobs.find? pair.1.id = some pair.1 ∧ pair.2 = pair.1 ∧
        (row.pass = .paidFlags → office.isSettled pair.1.id = true)))
  | .writerSaved _ writer _ true _ => inferInstanceAs (Decidable (∀ row ∈ office.writers.rows,
      row.id = writer → office.desk.jobs.find? row.copy.id = some row.copy ∧
        row.original = some row.copy))
  | .writerSaved _ _ _ false _ | .jobCreated .. | .jobUpdated .. | .quoteAccepted .. | .invoiceWritten ..
  | .passStarted .. | .passReadOn .. | .passReread .. | .writerRead .. | .writerReread .. => .isTrue trivial

/-- The passes on their way hold jobs of their kind, each once. -/
def Selected (office : Office) : Prop :=
  ∀ run ∈ office.passes.rows, (run.copies.map JobRow.id).Nodup ∧
    ∀ copy ∈ run.copies, run.pass.selects copy = true

/-! ## The frame of a save -/

def JobDesk.valueOf (desk : JobDesk) (job : ℕ) (field : JobField) : Option field.Value :=
  (desk.jobs.find? job).map fun row => row.value field

section Saves

variable {desk desk' : JobDesk} {now : ℤ} {job : ℕ} {field : JobField} {self original : JobRow}
  {updateFields : Option (List JobField)} {enrichment : Enrichment}

lemma saveOver_other (h : desk.saveOver now self original updateFields enrichment = some desk')
    (hjob : self.id ≠ job) : desk'.jobs.find? job = desk.jobs.find? job := by
  obtain ⟨row, hrow, rfl⟩ := Option.map_eq_some_iff.mp h
  have hkey : row.id = self.id := Table.key_of_find? hrow
  exact Table.find?_put_of_ne fun heq => hjob (hkey.symm.trans heq.symm)

lemma valueOf_saveOver {named : List JobField}
    (h : desk.saveOver now self original updateFields enrichment = some desk')
    (hfield : self.id = job → field ∉ setBy named)
    (hrest : ∀ row, desk.jobs.find? self.id = some row → ∀ other, other ∉ named → other ≠ .updatedAt →
      (updateFields.all fun fields => fields.contains other) = true →
        self.value other = row.value other ∧ original.value other = row.value other) :
    desk'.valueOf job field = desk.valueOf job field := by
  unfold JobDesk.valueOf
  by_cases hjob : self.id = job
  · obtain rfl := hjob
    obtain ⟨row, hrow, rfl⟩ := Option.map_eq_some_iff.mp h
    have hkey : row.id = self.id := Table.key_of_find? hrow
    have hput : (desk.jobs.put ((self.save original updateFields enrichment
        (desk.maxPriority fun _ => true) now).over row)).find? self.id =
        some ((self.save original updateFields enrichment (desk.maxPriority fun _ => true) now).over row) := by
      have hself := Table.find?_put_self (r := (self.save original updateFields enrichment
        (desk.maxPriority fun _ => true) now).over row) ((congrArg desk.jobs.find? hkey).trans hrow)
      exact (congrArg _ hkey.symm).trans hself
    dsimp only
    rw [hput, hrow, Option.map_some, Option.map_some, value_over_of_not_set (hfield rfl) (hrest row hrow)]
  · rw [saveOver_other h hjob]

lemma saveJob_eq_some (h : desk.saveJob now self updateFields enrichment = some desk') :
    ∃ row, desk.jobs.find? self.id = some row ∧
      desk.saveOver now self row updateFields enrichment = some desk' := by
  obtain ⟨row, hrow, rfl⟩ := Option.map_eq_some_iff.mp h
  refine ⟨row, hrow, ?_⟩
  unfold JobDesk.saveOver
  rw [hrow]
  rfl

lemma foldl_set {cells : List Cell} {row : JobRow} :
    (cells.foldl JobRow.set row).id = row.id ∧
      ∀ other, other ∉ cells.map Sigma.fst → (cells.foldl JobRow.set row).value other = row.value other := by
  induction cells generalizing row with
  | nil => exact ⟨rfl, fun _ _ => rfl⟩
  | cons cell cells ih =>
      obtain ⟨hid, hvalue⟩ := @ih (row.set cell)
      refine ⟨hid, fun other hother => ?_⟩
      simp only [List.map_cons, List.mem_cons, not_or] at hother
      exact (hvalue other hother.2).trans (value_set_of_ne hother.1)

lemma applyDelta_eq_some {cells : List Cell} {row : JobRow}
    (h : cells.foldlM JobDesk.applyDeltaField row = some self) : self = cells.foldl JobRow.set row := by
  induction cells generalizing row with
  | nil => exact (Option.some.inj h).symm
  | cons cell cells ih =>
      obtain ⟨next, hnext, hrest⟩ := Option.bind_eq_some_iff.mp h
      unfold JobDesk.applyDeltaField at hnext
      split at hnext
      · rw [ih hrest, ← Option.some.inj hnext]
        rfl
      · cases hnext

lemma valueOf_updateJob {other : ℕ} {delta : JobDesk.JobDelta}
    (h : desk.updateJob now other delta = some desk')
    (hfield : other = job → field ∉ setBy (delta.after.map Sigma.fst)) :
    desk'.valueOf job field = desk.valueOf job field := by
  obtain ⟨row, hrow, h⟩ := Option.bind_eq_some_iff.mp h
  obtain ⟨checked, hguard, h⟩ := Option.bind_eq_some_iff.mp h
  obtain ⟨self, hself, h⟩ := Option.bind_eq_some_iff.mp h
  obtain ⟨saved, hsaved, h⟩ := Option.bind_eq_some_iff.mp h
  obtain rfl := applyDelta_eq_some hself
  obtain ⟨hid, hkept⟩ := @foldl_set delta.after row
  have hkey : row.id = other := Table.key_of_find? hrow
  have hother : (delta.after.foldl JobRow.set row).id = other := hid.trans hkey
  obtain ⟨row', hrow', hover⟩ := saveJob_eq_some hsaved
  obtain rfl : row = row' := Option.some.inj (hrow.symm.trans (hother ▸ hrow'))
  have hfirst : saved.valueOf job field = desk.valueOf job field := by
    refine valueOf_saveOver hover (fun heq => hfield (hother.symm.trans heq)) fun found hfound column hnot _ _ => ?_
    obtain rfl : row = found := Option.some.inj (hrow'.symm.trans hfound)
    exact ⟨hkept column hnot, rfl⟩
  split at h
  · rename_i hmoved
    obtain ⟨moved, -, hover'⟩ := saveJob_eq_some h
    refine (@valueOf_saveOver _ _ _ _ _ _ _ _ _ [.priority] hover' (fun heq hmem => ?_) ?_).trans hfirst
    · have hstatus : JobField.status ∈ delta.after.map Sigma.fst :=
        ((Option.guard_eq_some' _).mp hguard).2 _ hmoved.1
      refine hfield (hother.symm.trans heq) ?_
      simp only [setBy, List.mem_append, List.mem_singleton] at hmem ⊢
      rcases hmem with ((rfl | rfl) | hmem) | hmem
      · exact .inl (.inr (by rw [if_pos hstatus]; simp))
      · exact .inl (.inl (.inr rfl))
      · simp at hmem
      · simp at hmem
    · intro found _ column hnot hupdated hall
      simp only [Option.all_some, List.contains_eq_mem, List.mem_cons, List.not_mem_nil, or_false,
        decide_eq_true_eq] at hall
      rcases hall with rfl | rfl
      · exact absurd (List.mem_singleton.mpr rfl) hnot
      · exact absurd rfl hupdated
  · exact Option.some.inj h ▸ hfirst

lemma valueOf_acceptQuote {other : ℕ} (h : desk.acceptQuote now other = some desk')
    (hfield : other = job → field ∉ setBy [.quoteAcceptanceDate, .status]) :
    desk'.valueOf job field = desk.valueOf job field := by
  obtain ⟨row, hrow, h⟩ := Option.bind_eq_some_iff.mp h
  obtain ⟨-, -, h⟩ := Option.bind_eq_some_iff.mp h
  obtain ⟨row', hrow', hover⟩ := saveJob_eq_some h
  have hkey : row.id = other := Table.key_of_find? hrow
  obtain rfl : row = row' := Option.some.inj (hrow.symm.trans (hkey ▸ hrow'))
  refine valueOf_saveOver hover (fun heq => hfield (hkey.symm.trans heq)) fun found hfound column hnot _ _ => ?_
  obtain rfl : row = found := Option.some.inj (hrow'.symm.trans hfound)
  simp only [List.mem_cons, List.not_mem_nil, or_false, not_or] at hnot
  exact ⟨(value_set_of_ne hnot.2).trans (value_set_of_ne hnot.1), rfl⟩

lemma valueOf_createJob {row : JobRow} (h : desk.createJob now row = some desk') (hjob : row.id ≠ job) :
    desk'.valueOf job field = desk.valueOf job field := by
  obtain ⟨inserted, hinserted, rfl⟩ := Option.map_eq_some_iff.mp h
  obtain ⟨jobs, hjobs, rfl⟩ := Option.map_eq_some_iff.mp hinserted
  unfold JobDesk.valueOf
  dsimp only
  rw [Table.find?_insert?_of_ne hjobs fun heq => hjob heq.symm]

end Saves

/-! ## The commit of a pass -/

section Passes

variable {desk desk' : JobDesk} {now : ℤ} {pass : ScheduledPass} {row : JobRow}

lemma filter_all (field : JobField) : (JobField.all.filter fun other => decide (other = field)) = [field] := by
  cases field <;> rfl

lemma detectFieldChanges_set {cell : Cell} (htracked : cell.1 ∉ JobField.untracked)
    (hpriority : cell.1 ≠ .priority) (hchange : row.value cell.1 ≠ cell.2) :
    detectFieldChanges row (row.set cell) none false = [cell.1] := by
  refine Eq.trans (List.filter_congr fun other _ => ?_) (filter_all cell.1)
  by_cases hother : other = cell.1
  · obtain ⟨field, value⟩ := cell
    obtain rfl := hother
    simp [htracked, hpriority, hchange]
  · simp [value_set_of_ne hother, hother]

/-- **What a pass records** of a job it selects. -/
lemma event_of_pass (hselects : pass.selects row = true) {top : ℚ} :
    ((row.set pass.cell).save row none {} top now).event = some (passEvent now pass row) := by
  cases pass with
  | autoArchive threshold =>
      have hstatus : row.value .status = .recentlyCompleted := by
        simp only [ScheduledPass.selects, Bool.and_eq_true, decide_eq_true_eq] at hselects
        exact hselects.1.1
      have hchanged : detectFieldChanges row (row.set (ScheduledPass.autoArchive threshold).cell) none
          false = [.status] :=
        @detectFieldChanges_set row ⟨.status, .archived⟩ (by decide) (by decide) fun heq =>
          absurd (hstatus.symm.trans heq) (by decide)
      simp only [JobRow.save, Option.map_none, Option.isSome_none, hchanged, List.cons_ne_nil, if_false]
      unfold recordChangeEvent
      rfl
  | paidFlags =>
      have hpaid : row.value .paid = false := by
        simp only [ScheduledPass.selects, Bool.and_eq_true, Bool.not_eq_true'] at hselects
        exact hselects.2
      have hchanged : detectFieldChanges row (row.set ScheduledPass.paidFlags.cell) none false = [.paid] :=
        @detectFieldChanges_set row ⟨.paid, true⟩ (by decide) (by decide) fun heq =>
          absurd (hpaid.symm.trans heq) (by decide)
      have htypes : eventTypes row (row.set ScheduledPass.paidFlags.cell) [.paid] = [.paymentReceived] := by
        unfold eventTypes
        simp only [List.filterMap_cons, List.filterMap_nil, ScheduledPass.cell, value_set_self, hpaid,
          fieldHandler, handleBooleanChange]
        rfl
      simp only [JobRow.save, Option.map_none, Option.isSome_none, hchanged, List.cons_ne_nil, if_false]
      unfold recordChangeEvent
      rw [htypes]
      rfl

/-- **The commit of a pass** whose objects are the rows as they are: one event for each, with what it
replaced, and no other column than the one it sets. -/
lemma savePass_eq_some {pairs : List (JobRow × JobRow)}
    (hdistinct : (pairs.map fun pair => pair.1.id).Nodup)
    (hrows : ∀ pair ∈ pairs, desk.jobs.find? pair.1.id = some pair.1 ∧ pair.2 = pair.1 ∧
      pass.selects pair.1 = true)
    (h : desk.savePass now pass pairs = some desk') :
    desk'.events = desk.events ++ pairs.map (fun pair => passEvent now pass pair.1) ∧
      ∀ job field, ((∃ pair ∈ pairs, pair.1.id = job) → field ∉ setBy [pass.cell.1]) →
        desk'.valueOf job field = desk.valueOf job field := by
  induction pairs generalizing desk with
  | nil =>
      obtain rfl := Option.some.inj h
      exact ⟨(List.append_nil _).symm, fun _ _ _ => rfl⟩
  | cons pair pairs ih =>
      obtain ⟨copy, original⟩ := pair
      obtain ⟨hcopy, horiginal, hselects⟩ := hrows _ List.mem_cons_self
      dsimp only at hcopy horiginal hselects
      obtain rfl := horiginal
      obtain ⟨saved, hsaved, hrest⟩ := Option.bind_eq_some_iff.mp h
      rw [List.map_cons, List.nodup_cons] at hdistinct
      have hevents : saved.events = desk.events ++ [passEvent now pass original] := by
        obtain ⟨row, hrow, rfl⟩ := Option.map_eq_some_iff.mp hsaved
        dsimp only
        rw [event_of_pass hselects, Option.toList_some]
      have hother : ∀ other ∈ pairs, saved.jobs.find? other.1.id = some other.1 ∧ other.2 = other.1 ∧
          pass.selects other.1 = true := by
        intro other hmem
        have hne : (original.set pass.cell).id ≠ other.1.id := fun heq =>
          hdistinct.1 (List.mem_map.mpr ⟨other, hmem, heq.symm⟩)
        rw [saveOver_other hsaved hne]
        exact hrows other (List.mem_cons_of_mem _ hmem)
      obtain ⟨hlater, hkept⟩ := ih hdistinct.2 hother hrest
      refine ⟨by rw [hlater, hevents, List.append_assoc]; rfl, fun job field hfield => ?_⟩
      refine (hkept job field fun ⟨other, hmem, heq⟩ =>
        hfield ⟨other, List.mem_cons_of_mem _ hmem, heq⟩).trans ?_
      refine valueOf_saveOver hsaved (fun heq => hfield ⟨_, List.mem_cons_self, heq⟩)
        fun row hrow column hnot _ _ => ?_
      obtain rfl : original = row := Option.some.inj (hcopy.symm.trans hrow)
      exact ⟨value_set_of_ne fun heq => hnot (List.mem_singleton.mpr heq), rfl⟩

end Passes

/-! ## One step -/

section Steps

variable {office office' : Office} {step : OfficeStep} {job : ℕ} {field : JobField}

lemma selected_firstRead (pass : ScheduledPass) :
    ((office.firstRead pass).map JobRow.id).Nodup ∧
      ∀ copy ∈ office.firstRead pass, pass.selects copy = true := by
  refine ⟨office.desk.jobs.nodup.sublist (List.filter_sublist.map _), fun copy hcopy => ?_⟩
  exact (Bool.and_eq_true_iff.mp (List.mem_filter.mp hcopy).2).1

lemma selected_secondRead {pass : ScheduledPass} {copies : List JobRow}
    (hcopies : (copies.map JobRow.id).Nodup ∧ ∀ copy ∈ copies, pass.selects copy = true) :
    ((office.secondRead pass copies).map JobRow.id).Nodup ∧
      ∀ copy ∈ office.secondRead pass copies, pass.selects copy = true := by
  cases pass with
  | autoArchive threshold =>
      constructor
      · unfold Office.secondRead
        dsimp only
        rw [List.map_append]
        refine hcopies.1.append (office.desk.jobs.nodup.sublist (List.filter_sublist.map _)) ?_
        intro id hid hid'
        obtain ⟨row, hrow, rfl⟩ := List.mem_map.mp hid'
        have hnew := (Bool.and_eq_true_iff.mp (List.mem_filter.mp hrow).2).2
        rw [List.contains_eq_mem, Bool.not_eq_true', decide_eq_false_iff_not] at hnew
        exact hnew hid
      · intro copy hcopy
        rcases List.mem_append.mp hcopy with hold | hnew
        · exact hcopies.2 copy hold
        · exact (Bool.and_eq_true_iff.mp (Bool.and_eq_true_iff.mp (List.mem_filter.mp hnew).2).1).1
  | paidFlags =>
      refine ⟨hcopies.1.sublist (List.filter_sublist.map _), fun copy hcopy => ?_⟩
      exact hcopies.2 copy (List.mem_filter.mp hcopy).1

lemma selected_put {run : PassRun} (hs : Selected office)
    (hrun : (run.copies.map JobRow.id).Nodup ∧ ∀ copy ∈ run.copies, run.pass.selects copy = true) :
    Selected { office with passes := office.passes.put run } := by
  intro other hother
  rcases Table.mem_put.mp hother with ⟨hold, -⟩ | ⟨rfl, -⟩
  · exact hs other hold
  · exact hrun

/-- **The objects of the passes** stay of their kind. -/
lemma step_keeps_selected (hs : Selected office) (h : passing office step = some office') :
    Selected office' := by
  cases step with
  | jobCreated now row | jobUpdated now job delta | quoteAccepted now job =>
      obtain ⟨desk, -, rfl⟩ := Option.map_eq_some_iff.mp h
      exact hs
  | invoiceWritten invoice =>
      obtain rfl := Option.some.inj h
      exact hs
  | passStarted run pass =>
      obtain ⟨passes, hpasses, rfl⟩ := Option.map_eq_some_iff.mp h
      intro other hother
      rcases (Table.mem_insert? hpasses).mp hother with hold | rfl
      · exact hs other hold
      · exact selected_firstRead pass
  | passReadOn run =>
      obtain ⟨row, hrow, h⟩ := Option.bind_eq_some_iff.mp h
      cases hstage : row.stage with
      | firstRead copies =>
          simp only [hstage] at h
          obtain rfl := Option.some.inj h
          have hcopies := hs row (Table.mem_of_find? hrow)
          rw [show row.copies = copies by simp [PassRun.copies, hstage]] at hcopies
          exact selected_put hs (by simpa [PassRun.copies] using selected_secondRead hcopies)
      | saving reread todo =>
          simp only [hstage] at h
          cases h
  | passReread run =>
      obtain ⟨row, hrow, h⟩ := Option.bind_eq_some_iff.mp h
      cases hstage : row.stage with
      | firstRead copies =>
          simp only [hstage] at h
          cases h
      | saving reread todo =>
          cases todo with
          | nil =>
              simp only [hstage] at h
              cases h
          | cons copy todo =>
              simp only [hstage] at h
              obtain ⟨original, -, rfl⟩ := Option.map_eq_some_iff.mp h
              have hcopies := hs row (Table.mem_of_find? hrow)
              rw [show row.copies = reread.map Prod.fst ++ copy :: todo by
                simp [PassRun.copies, hstage]] at hcopies
              exact selected_put hs (by simpa [PassRun.copies] using hcopies)
  | passCommitted now run =>
      obtain ⟨row, hrow, h⟩ := Option.bind_eq_some_iff.mp h
      split at h
      · obtain ⟨desk, -, rfl⟩ := Option.map_eq_some_iff.mp h
        exact fun other hother => hs other (Table.mem_erase.mp hother).1
      · cases h
  | writerRead writer job =>
      obtain ⟨copy, -, h⟩ := Option.bind_eq_some_iff.mp h
      obtain ⟨writers, -, rfl⟩ := Option.map_eq_some_iff.mp h
      exact hs
  | writerReread writer =>
      obtain ⟨row, -, h⟩ := Option.bind_eq_some_iff.mp h
      obtain ⟨original, -, rfl⟩ := Option.map_eq_some_iff.mp h
      exact hs
  | writerSaved now writer cells whole enrichment =>
      obtain ⟨row, -, h⟩ := Option.bind_eq_some_iff.mp h
      obtain ⟨original, -, h⟩ := Option.bind_eq_some_iff.mp h
      obtain ⟨desk, -, rfl⟩ := Option.map_eq_some_iff.mp h
      exact hs

lemma passCommitted_eq_some {now : ℤ} {run : ℕ} (hs : Selected office)
    (hundisturbed : Undisturbed office (.passCommitted now run))
    (h : passing office (.passCommitted now run) = some office') :
    ∃ row ∈ office.passes.rows, row.id = run ∧ (∀ pair ∈ row.reread, pair.1 ∈ row.copies) ∧
      (row.reread.map fun pair => pair.1.id).Nodup ∧
      (∀ pair ∈ row.reread, office.desk.jobs.find? pair.1.id = some pair.1 ∧ pair.2 = pair.1 ∧
        row.pass.selects pair.1 = true) ∧
      (∀ pair ∈ row.reread, office.meets row.pass pair.1 = true) ∧
      office.desk.savePass now row.pass row.reread = some office'.desk := by
  obtain ⟨row, hrow, h⟩ := Option.bind_eq_some_iff.mp h
  have hmem := Table.mem_of_find? hrow
  have hkey : row.id = run := Table.key_of_find? hrow
  split at h
  · rename_i reread hstage
    obtain ⟨desk, hdesk, rfl⟩ := Option.map_eq_some_iff.mp h
    have hreread : row.reread = reread := by simp [PassRun.reread, hstage]
    have hcopies : row.copies = reread.map Prod.fst := by simp [PassRun.copies, hstage]
    obtain ⟨hnodup, hselects⟩ := hs row hmem
    rw [hcopies] at hnodup hselects
    have hselected : ∀ pair ∈ reread, row.pass.selects pair.1 = true := fun pair hpair =>
      hselects pair.1 (List.mem_map_of_mem hpair)
    have hsame := hundisturbed row hmem hkey
    rw [hreread] at hsame
    refine ⟨row, hmem, hkey, ?_, ?_, ?_, ?_, ?_⟩ <;> rw [hreread]
    · intro pair hpair
      rw [hcopies]
      exact List.mem_map_of_mem hpair
    · rw [List.map_map] at hnodup
      exact hnodup
    · exact fun pair hpair => ⟨(hsame pair hpair).1, (hsame pair hpair).2.1, hselected pair hpair⟩
    · intro pair hpair
      unfold Office.meets
      rw [hselected pair hpair, Bool.true_and]
      cases hpass : row.pass with
      | autoArchive threshold => rfl
      | paidFlags => exact (hsame pair hpair).2.2 hpass
    · exact hdesk
  · cases h

/-- **A step** changes the columns it sets. -/
lemma step_keeps_columns (hs : Selected office) (hundisturbed : Undisturbed office step)
    (h : passing office step = some office') :
    office'.valueOf job field = office.valueOf job field ∨ Sets job field office step := by
  by_cases hsets : Sets job field office step
  · exact .inr hsets
  refine .inl ?_
  cases step with
  | jobCreated now row =>
      obtain ⟨desk, hdesk, rfl⟩ := Option.map_eq_some_iff.mp h
      exact valueOf_createJob hdesk hsets
  | jobUpdated now other delta =>
      obtain ⟨desk, hdesk, rfl⟩ := Option.map_eq_some_iff.mp h
      exact valueOf_updateJob hdesk fun heq hmem => hsets ⟨heq, hmem⟩
  | quoteAccepted now other =>
      obtain ⟨desk, hdesk, rfl⟩ := Option.map_eq_some_iff.mp h
      exact valueOf_acceptQuote hdesk fun heq hmem => hsets ⟨heq, hmem⟩
  | invoiceWritten invoice =>
      obtain rfl := Option.some.inj h
      rfl
  | passStarted run pass =>
      obtain ⟨passes, -, rfl⟩ := Option.map_eq_some_iff.mp h
      rfl
  | passReadOn run =>
      obtain ⟨row, -, h⟩ := Option.bind_eq_some_iff.mp h
      split at h
      · obtain rfl := Option.some.inj h
        rfl
      · cases h
  | passReread run =>
      obtain ⟨row, -, h⟩ := Option.bind_eq_some_iff.mp h
      split at h
      · obtain ⟨original, -, rfl⟩ := Option.map_eq_some_iff.mp h
        rfl
      · cases h
  | passCommitted now run =>
      obtain ⟨row, hmem, hkey, hcopies, hnodup, hrows, -, hsaved⟩ := passCommitted_eq_some hs hundisturbed h
      refine (savePass_eq_some hnodup hrows hsaved).2 job field ?_
      rintro ⟨pair, hpair, hjob⟩ hset
      exact hsets ⟨row, hmem, hkey, ⟨pair.1, hcopies pair hpair, hjob⟩, hset⟩
  | writerRead writer other =>
      obtain ⟨copy, -, h⟩ := Option.bind_eq_some_iff.mp h
      obtain ⟨writers, -, rfl⟩ := Option.map_eq_some_iff.mp h
      rfl
  | writerReread writer =>
      obtain ⟨row, -, h⟩ := Option.bind_eq_some_iff.mp h
      obtain ⟨original, -, rfl⟩ := Option.map_eq_some_iff.mp h
      rfl
  | writerSaved now writer cells whole enrichment =>
      obtain ⟨row, hrow, h⟩ := Option.bind_eq_some_iff.mp h
      obtain ⟨original, horiginal, h⟩ := Option.bind_eq_some_iff.mp h
      obtain ⟨desk, hdesk, rfl⟩ := Option.map_eq_some_iff.mp h
      have hmem := Table.mem_of_find? hrow
      have hkey : row.id = writer := Table.key_of_find? hrow
      obtain ⟨hid, hkept⟩ := @foldl_set cells row.copy
      refine valueOf_saveOver hdesk
        (fun heq hmem' => hsets ⟨row, hmem, hkey, hid.symm.trans heq, hmem'⟩)
        fun found hfound column hnot _ hall => ?_
      cases whole with
      | false =>
          -- only its own columns are saved
          simp only [Bool.false_eq_true, if_false, Option.all_some, List.contains_iff_mem] at hall
          exact absurd hall hnot
      | true =>
          obtain ⟨hcopy, hread⟩ := hundisturbed row hmem hkey
          obtain rfl : row.copy = found := Option.some.inj (hcopy.symm.trans (hid ▸ hfound))
          obtain rfl : original = row.copy := Option.some.inj (horiginal.symm.trans hread)
          exact ⟨hkept column hnot, rfl⟩

end Steps

/-! ## Every run -/

/-- What the commit of a pass does: the condition of the pass holds of every row it changes, and each of
them gets one event, with the value it had. -/
def CommitsRight (now : ℤ) (run : ℕ) (office office' : Office) : Prop :=
  ∃ row ∈ office.passes.rows, row.id = run ∧ ∃ jobs : List JobRow,
    row.reread.map (fun pair => office.desk.jobs.find? pair.1.id) = jobs.map some ∧
      (∀ job ∈ jobs, office.meets row.pass job = true) ∧
      office'.desk.events = office.desk.events ++ jobs.map (passEvent now row.pass)

/-- **No pass loses an edit.**  In every run in which every object saved whole is the row as it is, and
every job marked paid still has its invoices paid: a column keeps its value until a step that sets it, and
every commit of a pass changes only jobs of which its condition holds, with one event for each that says what
it replaced. -/
theorem passes_lose_no_edit {office last : Office} {steps : List OfficeStep} (hs : Selected office)
    (hundisturbed : passing.AllMeet Undisturbed office steps) (hrun : passing.run office steps = some last) :
    (∀ job field, last.valueOf job field = office.valueOf job field ∨
        ∃ before step after u u', steps = before ++ step :: after ∧ passing.run office before = some u ∧
          Sets job field u step ∧ passing u step = some u' ∧
          last.valueOf job field = u'.valueOf job field) ∧
      ∀ before now run after u u', steps = before ++ .passCommitted now run :: after →
        passing.run office before = some u → passing u (.passCommitted now run) = some u' →
          CommitsRight now run u u' := by
  constructor
  · intro job field
    exact Machine.run_changed_by (f := fun office => office.valueOf job field)
      (fun _ _ _ hs hU hstep => ⟨step_keeps_selected hs hstep, step_keeps_columns hs hU hstep⟩)
      hs hundisturbed hrun
  · rintro before now run after u u' rfl hbefore hcommit
    obtain ⟨hfirst, hrest⟩ := hundisturbed.of_append
    have hu : Selected u := Machine.run_keeps_of_meet
      (fun _ _ _ hs _ hstep => step_keeps_selected hs hstep) hs hfirst hbefore
    obtain ⟨row, hmem, hkey, -, hnodup, hrows, hmeets, hsaved⟩ :=
      passCommitted_eq_some hu (hrest u hbefore).1 hcommit
    refine ⟨row, hmem, hkey, row.reread.map Prod.fst, ?_, ?_, ?_⟩
    · rw [List.map_map]
      exact List.map_congr_left fun pair hpair => (hrows pair hpair).1
    · intro job hjob
      obtain ⟨pair, hpair, rfl⟩ := List.mem_map.mp hjob
      exact hmeets pair hpair
    · rw [(savePass_eq_some hnodup hrows hsaved).1, List.map_map]
      rfl

/-! ## An edit lost -/

section Examples

/-- A completed and paid job with nothing else filled in. -/
def completedJob (id : ℕ) : JobRow :=
  (((plainJob id).set ⟨.status, .recentlyCompleted⟩).set ⟨.paid, true⟩).set ⟨.completedAt, some 0⟩

/-- Two such jobs, and nobody on the way. -/
def paidOffice : Office where
  desk := ⟨⟨[completedJob 7, completedJob 8], by decide⟩, [], 0⟩
  invoices := .empty
  passes := .empty
  writers := .empty

def renamed : OfficeStep := .jobUpdated 20 7 ⟨some 1, [.name], [⟨.name, "Gate"⟩]⟩

def archiveAfterRename : List OfficeStep :=
  [renamed, .passStarted 1 (.autoArchive 10), .passReadOn 1, .passReread 1, .passReread 1,
    .passCommitted 30 1]

/-- Renamed before the archive reads it, job 7 keeps its name. -/
theorem pass_keeps_an_earlier_edit :
    ∃ last, passing.run paidOffice archiveAfterRename = some last ∧ last.valueOf 7 .name = some "Gate" ∧
      ((∀ job field, last.valueOf job field = paidOffice.valueOf job field ∨
        ∃ before step after u u', archiveAfterRename = before ++ step :: after ∧
          passing.run paidOffice before = some u ∧ Sets job field u step ∧ passing u step = some u' ∧
          last.valueOf job field = u'.valueOf job field) ∧
      ∀ before now run after u u', archiveAfterRename = before ++ .passCommitted now run :: after →
        passing.run paidOffice before = some u → passing u (.passCommitted now run) = some u' →
          CommitsRight now run u u') := by
  obtain ⟨last, hlast, hname⟩ := Option.any_eq_true _ _ |>.mp
    (show ((passing.run paidOffice archiveAfterRename).any fun last =>
        decide (last.valueOf 7 .name = some "Gate")) = true by decide +kernel)
  exact ⟨last, hlast, of_decide_eq_true hname,
    passes_lose_no_edit (fun _ h => absurd h List.not_mem_nil) (by decide +kernel) hlast⟩

/-- Renamed after the archive has read it, job 7 has its old name again, though no step has set it. -/
theorem pass_reverts_an_edit :
    ∃ u, passing.run paidOffice [.passStarted 1 (.autoArchive 10), .passReadOn 1, renamed] = some u ∧
      u.valueOf 7 .name = some "Gate" ∧
      ∃ last, passing.run u [.passReread 1, .passReread 1, .passCommitted 30 1] = some last ∧
        last.valueOf 7 .name = some "Welding" ∧
        ∀ office, ∀ step ∈ [OfficeStep.passReread 1, .passReread 1, .passCommitted 30 1],
          ¬Sets 7 .name office step := by
  obtain ⟨u, hu, hrest⟩ := Option.any_eq_true _ _ |>.mp
    (show ((passing.run paidOffice [.passStarted 1 (.autoArchive 10), .passReadOn 1, renamed]).any fun u =>
      decide (u.valueOf 7 .name = some "Gate") &&
        (passing.run u [.passReread 1, .passReread 1, .passCommitted 30 1]).any fun last =>
          decide (last.valueOf 7 .name = some "Welding")) = true by decide +kernel)
  obtain ⟨hgate, hlast⟩ := Bool.and_eq_true_iff.mp hrest
  obtain ⟨last, hrun, hname⟩ := Option.any_eq_true _ _ |>.mp hlast
  refine ⟨u, hu, of_decide_eq_true hgate, last, hrun, of_decide_eq_true hname, fun office step hstep => ?_⟩
  simp only [List.mem_cons, List.not_mem_nil, or_false] at hstep
  rcases hstep with rfl | rfl | rfl
  · exact id
  · exact id
  · rintro ⟨row, -, -, -, hset⟩
    cases hpass : row.pass <;> simp [hpass, setBy, ScheduledPass.cell] at hset

end Examples

end JobRecord

end Docketworks
