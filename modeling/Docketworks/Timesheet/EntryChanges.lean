import Docketworks.Timesheet.GeneralWork

/-!
# What changing an entry does

The inversion of `patchedLine`, stage by stage: what each leaves of the line and what it sets.

* `Patched` — the stages of a patch that went through.
* `patchedLine_eq_ok` — a patched line went through them all.
* `Patched.columns` — whose line it is and which it is stays; its day and its hours are the patch's.
* `Patched.priced_columns` — its job is the destination, its times are the patch's until redrawn.
-/

namespace Docketworks

open Library Library.Transaction

namespace Timesheet

section Lookups

variable {db : Timesheets}

lemma run_theLine {entry : ℕ} {line : TimeLine} {t : Timesheets}
    (hrun : (theLine entry).run db = .ok (line, t)) : db.lines.find? entry = some line ∧ t = db := by
  unfold theLine at hrun
  rw [run_consult] at hrun
  obtain ⟨hfound, rfl⟩ := hrun
  split at hfound
  · rename_i hline
    exact ⟨hline.trans (congrArg some (Except.ok.inj hfound)), rfl⟩
  · cases hfound

lemma run_editableLine {actor : Staff} {entry : ℕ} {line : TimeLine} {t : Timesheets}
    (hrun : (editableLine actor entry).run db = .ok (line, t)) :
    db.lines.find? entry = some line ∧ t = db := by
  unfold editableLine at hrun
  simp only [run_bind, run_consult, run_pure] at hrun
  obtain ⟨_, _, hline, _, _, ⟨-, rfl⟩, _, _, ⟨-, rfl⟩, rfl, rfl⟩ := hrun
  exact run_theLine hline

end Lookups

section Stages

variable {db : Timesheets} {owner : Staff} {source destination job : WorkJob}
  {line scalars billing priced redrawn edited : TimeLine} {data : WorkshopEntryUpdateData}

lemma applyScalarChanges_eq_ok (h : applyScalarChanges line data = .ok scalars) :
    (∀ hours ∈ data.hours, refuseBadHours hours = .ok ()) ∧
      scalars = { line with
        desc := (data.description.map descriptionOrNone).getD line.desc
        quantity := data.hours.getD line.quantity
        accountingDate := data.accountingDate.getD line.accountingDate
        payload := { line.payload with
          date := data.accountingDate.getD line.payload.date
          startTime := data.startTime.getD line.payload.startTime
          endTime := data.endTime.getD line.payload.endTime } } := by
  unfold applyScalarChanges at h
  rcases hhours : data.hours with _ | hours
  · simp only [hhours, pure_eq_ok] at h
    subst h
    exact ⟨fun _ hours => absurd hours (Option.not_mem_none _), rfl⟩
  · simp only [hhours, bind_eq_ok, pure_eq_ok] at h
    obtain ⟨_, hgood, rfl⟩ := h
    refine ⟨fun given hgiven => ?_, rfl⟩
    obtain rfl := Option.some.inj hgiven
    exact hgood

lemma applyBillingChanges_eq_ok (h : applyBillingChanges db line data = .ok billing) :
    billing = { line with
      labourSubtype := data.labourSubtype.getD line.labourSubtype
      payload := applyBillRate data.billRateMultiplier
        (applyWageRate data.wageRateMultiplier data.billRateMultiplier
          (applyIsBillable data.isBillable line.payload)) } := by
  unfold applyBillingChanges at h
  simp only [bind_eq_ok, pure_eq_ok] at h
  obtain ⟨_, -, rfl⟩ := h
  rfl

lemma reprice_eq_ok (h : reprice db owner job line = .ok priced) :
    ∃ pricing, priceTimeEntry db job owner (chargeUrgentAtLeast job line.payload)
        (some line.labourSubtype) = .ok pricing ∧
      priced = { line with
        unitCost := pricing.unitCost
        unitRev := pricing.unitRev
        payItem := pricing.payItem.map PayItem.id
        labourSubtype := pricing.labourSubtype
        payload := pricing.metaUpdates (chargeUrgentAtLeast job line.payload) } := by
  unfold reprice at h
  simp only [bind_eq_ok, pure_eq_ok] at h
  obtain ⟨pricing, hpricing, rfl⟩ := h
  exact ⟨pricing, hpricing, rfl⟩

lemma redrawFinish_eq_ok (h : redrawFinish db data line = .ok redrawn) :
    ∃ start finish, redrawn = line.withTimes start finish := by
  have hsame : line = line.withTimes line.payload.startTime line.payload.endTime := rfl
  have hfitted : ∀ {windows}, redrawFinish.fitted db line windows = .ok redrawn →
      ∃ start finish, redrawn = line.withTimes start finish := by
    intro windows hfit
    unfold redrawFinish.fitted at hfit
    simp only [bind_eq_ok, pure_eq_ok] at hfit
    obtain ⟨⟨start, finish⟩, -, rfl⟩ := hfit
    exact ⟨start, finish, rfl⟩
  unfold redrawFinish at h
  split at h
  · obtain rfl := Except.ok.inj h
    exact ⟨_, _, hsame⟩
  split at h
  · split at h
    · simp only [bind_eq_ok, pure_eq_ok] at h
      obtain ⟨_, -, rfl⟩ := h
      exact ⟨_, _, hsame⟩
    · obtain rfl := Except.ok.inj h
      exact ⟨_, _, hsame⟩
  simp only [bind_eq_ok] at h
  obtain ⟨windows, -, h⟩ := h
  split at h
  · split at h
    · exact hfitted h
    · simp only [bind_eq_ok, pure_eq_ok] at h
      obtain ⟨finish, -, rfl⟩ := h
      exact ⟨_, _, rfl⟩
  · exact hfitted h

/-- The stages of a patch that went through. -/
structure Patched (db : Timesheets) (owner : Staff) (source : WorkJob) (line : TimeLine)
    (data : WorkshopEntryUpdateData) (edited : TimeLine) where
  scalars : TimeLine
  billing : TimeLine
  destination : WorkJob
  priced : TimeLine
  redrawn : TimeLine
  notFillTimes : refuseFillTimes db.company line data = .ok ()
  applied : applyScalarChanges { line with approved := false } data = .ok scalars
  billed : applyBillingChanges db scalars data = .ok billing
  found : db.findJob (data.job.getD line.job) = .ok destination
  /-- The line at its new price where it is on another job or what it is priced by changed. -/
  repriced : (if destination.id ≠ source.id ∨ data.changesBilling = true then
      reprice db owner destination
        (if destination.id ≠ source.id then
          moveTimeLine billing source destination
            (data.isBillable.isSome || data.billRateMultiplier.isSome)
        else billing)
    else .ok billing) = .ok priced
  redrew : redrawFinish db data priced = .ok redrawn
  edited_eq : edited = { redrawn with payload := markBreakEdited redrawn.payload }
  valid : saveValidated db edited destination = .ok ()

/-- **A patched line** went through the stages. -/
lemma patchedLine_eq_ok (h : patchedLine db owner source line data = .ok edited) :
    Nonempty (Patched db owner source line data edited) := by
  unfold patchedLine at h
  simp only [bind_eq_ok] at h
  obtain ⟨_, hfill, scalars, hscalars, billing, hbilling, destination, hfound, h⟩ := h
  have hlast : ∀ {priced}, (if (data.changesScalar || decide (destination.id ≠ source.id) ||
        data.changesBilling) = false then
          (.error (.value "No changes supplied.") : Except Refusal TimeLine)
        else do
          let redrawn ← redrawFinish db data priced
          saveValidated db { redrawn with payload := markBreakEdited redrawn.payload } destination
          pure { redrawn with payload := markBreakEdited redrawn.payload }) = .ok edited →
      ∃ redrawn, redrawFinish db data priced = .ok redrawn ∧
        edited = { redrawn with payload := markBreakEdited redrawn.payload } ∧
          saveValidated db edited destination = .ok () := by
    intro priced h
    split at h
    · cases h
    · simp only [bind_eq_ok, pure_eq_ok] at h
      obtain ⟨redrawn, hredrawn, _, hvalid, rfl⟩ := h
      exact ⟨redrawn, hredrawn, rfl, hvalid⟩
  split at h
  · rename_i hpriced
    simp only [bind_eq_ok] at h
    obtain ⟨priced, hreprice, h⟩ := h
    obtain ⟨redrawn, hredrawn, hedited, hvalid⟩ := hlast h
    refine ⟨⟨scalars, billing, destination, priced, redrawn, hfill, hscalars, hbilling, hfound, ?_,
      hredrawn, hedited, hvalid⟩⟩
    simp only [Bool.or_eq_true, decide_eq_true_eq] at hpriced
    rw [if_pos hpriced]
    simpa only [decide_eq_true_eq] using hreprice
  · rename_i hpriced
    simp only [bind_eq_ok, pure_eq_ok] at h
    obtain ⟨priced, rfl, h⟩ := h
    obtain ⟨redrawn, hredrawn, hedited, hvalid⟩ := hlast h
    simp only [Bool.or_eq_true, decide_eq_true_eq] at hpriced
    refine ⟨⟨scalars, billing, destination, _, redrawn, hfill, hscalars, hbilling, hfound, ?_,
      hredrawn, hedited, hvalid⟩⟩
    rw [if_neg hpriced, if_neg (by simpa using fun h => hpriced (.inl h))]

lemma Patched.columns (patched : Patched db owner source line data edited) :
    edited.id = line.id ∧ edited.staff = line.staff ∧ edited.managedBy = line.managedBy ∧
      edited.approved = false ∧
      edited.accountingDate = data.accountingDate.getD line.accountingDate ∧
      edited.quantity = data.hours.getD line.quantity := by
  obtain ⟨-, hscalars⟩ := applyScalarChanges_eq_ok patched.applied
  have hbilling := applyBillingChanges_eq_ok patched.billed
  obtain ⟨start, finish, hredrawn⟩ := redrawFinish_eq_ok patched.redrew
  have hpriced : patched.priced.id = line.id ∧ patched.priced.staff = line.staff ∧
      patched.priced.managedBy = line.managedBy ∧ patched.priced.approved = false ∧
      patched.priced.accountingDate = data.accountingDate.getD line.accountingDate ∧
      patched.priced.quantity = data.hours.getD line.quantity := by
    have hprice := patched.repriced
    split at hprice
    · obtain ⟨pricing, -, hprice⟩ := reprice_eq_ok hprice
      rw [hprice]
      split
      · rw [moveTimeLine, hbilling, hscalars]
        exact ⟨rfl, rfl, rfl, rfl, rfl, rfl⟩
      · rw [hbilling, hscalars]
        exact ⟨rfl, rfl, rfl, rfl, rfl, rfl⟩
    · rw [← Except.ok.inj hprice, hbilling, hscalars]
      exact ⟨rfl, rfl, rfl, rfl, rfl, rfl⟩
  rw [patched.edited_eq, hredrawn]
  exact hpriced

lemma times_moveTimeLine (line : TimeLine) (source destination : WorkJob) (explicit : Bool) :
    (moveTimeLine line source destination explicit).payload.startTime = line.payload.startTime ∧
      (moveTimeLine line source destination explicit).payload.endTime = line.payload.endTime := by
  unfold moveTimeLine
  simp only
  split
  · exact ⟨rfl, rfl⟩
  split <;> exact ⟨rfl, rfl⟩

lemma times_chargeUrgentAtLeast (job : WorkJob) (payload : EntryMeta) :
    (chargeUrgentAtLeast job payload).startTime = payload.startTime ∧
      (chargeUrgentAtLeast job payload).endTime = payload.endTime := by
  unfold chargeUrgentAtLeast
  split <;> exact ⟨rfl, rfl⟩

lemma times_billing (isBillable : Option Bool) (wage bill : Option ℚ) (payload : EntryMeta) :
    (applyBillRate bill (applyWageRate wage bill (applyIsBillable isBillable payload))).startTime =
        payload.startTime ∧
      (applyBillRate bill (applyWageRate wage bill (applyIsBillable isBillable payload))).endTime =
        payload.endTime := by
  rcases isBillable with _ | _ | _ <;> rcases wage with _ | wage <;> rcases bill with _ | bill <;>
    exact ⟨rfl, rfl⟩

lemma Patched.priced_columns (patched : Patched db owner source line data edited)
    (hsource : source.id = line.job) :
    patched.priced.job = patched.destination.id ∧
      patched.priced.payload.startTime = data.startTime.getD line.payload.startTime ∧
      patched.priced.payload.endTime = data.endTime.getD line.payload.endTime := by
  obtain ⟨-, hscalars⟩ := applyScalarChanges_eq_ok patched.applied
  have hbilling := applyBillingChanges_eq_ok patched.billed
  have htimes : patched.billing.payload.startTime = data.startTime.getD line.payload.startTime ∧
      patched.billing.payload.endTime = data.endTime.getD line.payload.endTime := by
    rw [hbilling, hscalars]
    exact times_billing _ _ _ _
  have hjob : patched.billing.job = source.id := by
    rw [hbilling, hscalars]
    exact hsource.symm
  have hmoved : ∀ {moved : TimeLine}, moved = (if patched.destination.id ≠ source.id then
      moveTimeLine patched.billing source patched.destination
        (data.isBillable.isSome || data.billRateMultiplier.isSome) else patched.billing) →
      moved.job = patched.destination.id ∧
        moved.payload.startTime = data.startTime.getD line.payload.startTime ∧
        moved.payload.endTime = data.endTime.getD line.payload.endTime := by
    rintro moved rfl
    split
    · obtain ⟨hstart, hend⟩ := times_moveTimeLine patched.billing source patched.destination
        (data.isBillable.isSome || data.billRateMultiplier.isSome)
      exact ⟨rfl, hstart.trans htimes.1, hend.trans htimes.2⟩
    · rename_i hstays
      exact ⟨hjob.trans (not_not.mp hstays).symm, htimes⟩
  have hprice := patched.repriced
  split at hprice
  · obtain ⟨pricing, -, hprice⟩ := reprice_eq_ok hprice
    obtain ⟨hjob', hstart, hend⟩ := hmoved rfl
    rw [hprice]
    obtain ⟨hstart', hend'⟩ := times_chargeUrgentAtLeast patched.destination
      (if patched.destination.id ≠ source.id then
        moveTimeLine patched.billing source patched.destination
          (data.isBillable.isSome || data.billRateMultiplier.isSome) else patched.billing).payload
    exact ⟨hjob', hstart'.trans hstart, hend'.trans hend⟩
  · rename_i hstays
    rw [← Except.ok.inj hprice]
    exact ⟨hjob.trans (not_not.mp fun h => hstays (.inl h)).symm, htimes⟩

end Stages

end Timesheet

end Docketworks
