import Docketworks.Job.LabourSubtypes

/-!
# The grid of rates and the workshop pool

Every job has a rate for every active subtype, in every state of every run: whoever makes a subtype
active holds the job table from before its survey to its commit, and whoever inserts a job reads the
subtypes after it.  The last active workshop subtype is not so guarded.  An update holds its own row
alone, and its guard counts rows that another update is taking out of the pool.

* `GridComplete` — the grid; `Sound` — what every run keeps of it.
* `PoolStays` — a workshop subtype is active and nobody is taking it out.
* `SeesTheOthers` — the condition on a guard.
* `labour_kept_of_run` — every run that meets it; `last_two_deactivated` — the run that empties the
  pool.
-/

namespace Docketworks

open Library

namespace Labour

variable {db db' : Tables} {s s' : State} {rates : Table JobLabourRate.key}
  {rows : List JobLabourRate} {job subtype tx : ℕ} {others : List Phase} {phase phase' : Phase}

/-! ## Rates -/

/-- Every job has exactly one rate for every active subtype. -/
def GridComplete (db : Tables) : Prop :=
  ∀ job ∈ db.jobs.rows, ∀ subtype ∈ db.subtypes.rows, subtype.isActive = true →
    ∃! rate, rate ∈ db.rates.rows ∧ rate.key = (job.id, subtype.id)

/-- At least one workshop subtype is active. -/
def HasWorkshop (db : Tables) : Prop := ∃ subtype ∈ db.subtypes.rows, subtype.inPool true = true

instance (db : Tables) : Decidable (HasWorkshop db) := inferInstanceAs (Decidable (∃ _ ∈ _, _))

lemma hasRate_iff : HasRate rates job subtype ↔ ∃ rate ∈ rates.rows, rate.key = (job, subtype) := by
  unfold HasRate
  rw [Option.isSome_iff_exists]
  exact exists_congr fun rate => Table.find?_eq_some_iff

lemma gridComplete_iff :
    GridComplete db ↔ ∀ job ∈ db.jobs.rows, ∀ subtype ∈ db.subtypes.rows, subtype.isActive = true →
      HasRate db.rates job.id subtype.id := by
  unfold GridComplete
  simp only [hasRate_iff]
  constructor
  · intro h job hjob subtype hsubtype hactive
    exact (h job hjob subtype hsubtype hactive).exists
  · intro h job hjob subtype hsubtype hactive
    obtain ⟨rate, hrate, hkey⟩ := h job hjob subtype hsubtype hactive
    refine ⟨rate, ⟨hrate, hkey⟩, ?_⟩
    rintro other ⟨hother, hsame⟩
    exact Table.eq_of_key_eq hother hrate (hsame.trans hkey.symm)

instance (db : Tables) : Decidable (GridComplete db) := decidable_of_iff' _ gridComplete_iff

lemma hasRate_addRates :
    HasRate (addRates rates rows) job subtype ↔
      HasRate rates job subtype ∨ ∃ rate ∈ rows, rate.key = (job, subtype) := by
  induction rows generalizing rates with
  | nil => simp [addRates]
  | cons row rows ih =>
      show HasRate (addRates ((rates.insert? row).getD rates) rows) job subtype ↔ _
      rw [ih, List.exists_mem_cons_iff, ← or_assoc]
      refine or_congr_left ?_
      simp only [hasRate_iff]
      cases hinsert : rates.insert? row with
      | some added =>
          show (∃ rate ∈ added.rows, _) ↔ _
          simp only [Table.mem_insert? hinsert, or_and_right, exists_or, exists_eq_left]
      | none =>
          -- the row conflicts with one that is there
          show (∃ rate ∈ rates.rows, _) ↔ _
          refine ⟨.inl, fun h => h.elim id fun hkey => ?_⟩
          unfold Table.insert? at hinsert
          split at hinsert
          · rename_i hmem
            obtain ⟨stored, hstored, hsame⟩ := List.mem_map.mp hmem
            exact ⟨stored, hstored, hsame.trans hkey⟩
          · cases hinsert

lemma hasRate_insertAll {added : Table JobLabourRate.key}
    (h : rows.foldlM Table.insert? rates = some added) :
    HasRate added job subtype ↔
      HasRate rates job subtype ∨ ∃ rate ∈ rows, rate.key = (job, subtype) := by
  induction rows generalizing rates with
  | nil =>
      obtain rfl : rates = added := Option.some.inj h
      simp
  | cons row rows ih =>
      rw [List.foldlM_cons] at h
      obtain ⟨first, hfirst, hrest⟩ := Option.bind_eq_some_iff.mp h
      rw [ih hrest, List.exists_mem_cons_iff, ← or_assoc]
      refine or_congr_left ?_
      simp only [hasRate_iff, Table.mem_insert? hfirst, or_and_right, exists_or, exists_eq_left]

lemma hasRate_setAmounts {entries : List (ℕ × ℚ)} {owner : ℕ} :
    HasRate (setAmounts rates owner entries) job subtype ↔ HasRate rates job subtype := by
  have hkey : ∀ rate, (applyEntries owner entries rate).key = rate.key := by
    intro rate
    unfold applyEntries JobLabourRate.key
    split <;> rfl
  simp only [hasRate_iff]
  show (∃ rate ∈ rates.rows.map _, _) ↔ _
  simp only [List.mem_map, exists_exists_and_eq_and, hkey]

/-! ## What a transaction in flight knows -/

/-- The row a transaction holds is the committed one. -/
def HeldRow (db : Tables) (before : Option LabourSubtype) (row : LabourSubtype) : Prop :=
  ∀ old ∈ before, old.id = row.id ∧ db.subtypes.find? row.id = some old

/-- What a transaction has read is still so. -/
def PhaseSound (db : Tables) : Phase → Prop
  | .jobPriced job rates => ∀ subtype ∈ db.subtypes.rows, subtype.isActive = true →
      ∃ rate ∈ rates, rate.key = (job.id, subtype.id)
  | .subtypeHeld row _ | .subtypeFree row _ | .subtypeChecked row _ =>
      db.subtypes.find? row.id = some row
  | .subtypeSaved before row | .jobsLocked before row | .surveyed before row _ => HeldRow db before row
  | .seeded before row rates => HeldRow db before row ∧
      ∀ job ∈ db.jobs.rows, HasRate (addRates db.rates rates) job.id row.id
  | _ => True

/-- Nobody beside a transaction that holds the job table writes a job or holds it too. -/
def JobsApart (phase other : Phase) : Prop :=
  phase.locksJobs = true → other.writesJobs = false ∧ other.locksJobs = false

/-- No subtype's row is held twice. -/
def RowsApart (phase other : Phase) : Prop :=
  ∀ row ∈ phase.heldSubtype, ∀ row' ∈ other.heldSubtype, row.id ≠ row'.id

/-- Any two transactions in flight stand in the relation. -/
def Apart (R : Phase → Phase → Prop) (inFlight : Table OpenTransaction.id) : Prop :=
  ∀ p ∈ inFlight.rows, ∀ q ∈ inFlight.rows, p.id ≠ q.id → R p.phase q.phase

/-- What every run keeps. -/
structure Sound (s : State) : Prop where
  grid : GridComplete s.db
  phases : ∀ p ∈ s.inFlight.rows, PhaseSound s.db p.phase
  jobs : Apart JobsApart s.inFlight
  rows : Apart RowsApart s.inFlight

section Apart

variable {R : Phase → Phase → Prop} {inFlight started : Table OpenTransaction.id}

lemma Apart.erase (h : Apart R inFlight) : Apart R (inFlight.erase tx) :=
  fun p hp q hq => h p (Table.mem_erase.mp hp).1 q (Table.mem_erase.mp hq).1

lemma Apart.put (h : Apart R inFlight)
    (hnew : ∀ q ∈ inFlight.rows, q.id ≠ tx → R phase q.phase ∧ R q.phase phase) :
    Apart R (inFlight.put ⟨tx, phase⟩) := by
  intro p hp q hq hne
  rcases Table.mem_put.mp hp with ⟨hp, hptx⟩ | ⟨rfl, -⟩
  · rcases Table.mem_put.mp hq with ⟨hq, -⟩ | ⟨rfl, -⟩
    · exact h p hp q hq hne
    · exact (hnew p hp hptx).2
  · rcases Table.mem_put.mp hq with ⟨hq, hqtx⟩ | ⟨rfl, -⟩
    · exact (hnew q hq hqtx).1
    · exact absurd rfl hne

lemma Apart.insert (h : Apart R inFlight) (hinsert : inFlight.insert? ⟨tx, phase⟩ = some started)
    (hnew : ∀ other, R phase other ∧ R other phase) : Apart R started := by
  intro p hp q hq hne
  rcases (Table.mem_insert? hinsert).mp hp with hp | rfl
  · rcases (Table.mem_insert? hinsert).mp hq with hq | rfl
    · exact h p hp q hq hne
    · exact (hnew p.phase).2
  · exact (hnew q.phase).1

end Apart

lemma mem_others {q : OpenTransaction} (hq : q ∈ s.inFlight.rows) (hne : q.id ≠ tx) :
    q.phase ∈ s.others tx :=
  List.mem_map_of_mem (List.mem_filter.mpr ⟨hq, by simpa using hne⟩)

/-! ## What a statement does -/

/-- How a transaction goes on, with the locks it waited for and the guards it passed. -/
inductive Goes (db : Tables) (others : List Phase) : Phase → Phase → Prop
  | insertJob {job : Job} : (∀ other ∈ others, other.locksJobs = false) →
      Goes db others (.begun (.createJob job)) (.jobInserted job)
  | priceJob {job : Job} : Goes db others (.jobInserted job) (.jobPriced job (newJobRates db job))
  | holdJob {id : ℕ} : Goes db others (.begun (.deleteJob id)) (.jobHeld id)
  | deleteJob {id : ℕ} : (∀ other ∈ others, other.locksJobs = false) →
      Goes db others (.jobHeld id) (.jobDeleted id)
  | createSubtype {id : ℕ} {data : LabourSubtypeWriteData} {row : LabourSubtype} :
      Goes db others (.begun (.createLabourSubtype id data)) (.subtypeSaved none row)
  | holdSubtype {pk : ℕ} {data : LabourSubtypeWriteData} {row : LabourSubtype} :
      db.subtypes.find? pk = some row →
      (∀ other ∈ others, ∀ row' ∈ other.heldSubtype, row'.id ≠ pk) →
      Goes db others (.begun (.updateLabourSubtype pk data)) (.subtypeHeld row data)
  | checkDependents {row : LabourSubtype} {data : LabourSubtypeWriteData} :
      Goes db others (.subtypeHeld row data) (.subtypeFree row data)
  | checkPools {row : LabourSubtype} {data : LabourSubtypeWriteData} :
      (leavesPool true row (row.withData data) = true → hasOthers db true row.id) →
      Goes db others (.subtypeFree row data) (.subtypeChecked row data)
  | saveSubtype {row : LabourSubtype} {data : LabourSubtypeWriteData} :
      Goes db others (.subtypeChecked row data) (.subtypeSaved (some row) (row.withData data))
  | lockJobs {before : Option LabourSubtype} {row : LabourSubtype} :
      (∀ other ∈ others, other.writesJobs = false ∧ other.locksJobs = false) →
      Goes db others (.subtypeSaved before row) (.jobsLocked before row)
  | survey {before : Option LabourSubtype} {row : LabourSubtype} :
      Goes db others (.jobsLocked before row) (.surveyed before row (existingJobIds db row.id))
  | seed {before : Option LabourSubtype} {row : LabourSubtype} {existing : List ℕ} :
      (∀ job ∈ db.jobs.rows, HasRate (addRates db.rates (missingRates db row existing)) job.id row.id) →
      Goes db others (.surveyed before row existing)
        (.seeded before row (missingRates db row existing))

/-- How a transaction ends in a commit. -/
inductive Commits (db : Tables) (others : List Phase) : Phase → Tables → Prop
  | job {job : Job} {jobs : Table Job.id} {rates : List JobLabourRate}
      {added : Table JobLabourRate.key} : db.jobs.insert? job = some jobs →
      rates.foldlM Table.insert? db.rates = some added →
      Commits db others (.jobPriced job rates) { db with jobs := jobs, rates := added }
  | deletion {id : ℕ} : Commits db others (.jobDeleted id)
      { db with jobs := db.jobs.erase id, rates := db.rates.filter fun rate => rate.job ≠ id }
  | subtype {before : Option LabourSubtype} {row : LabourSubtype} {subtypes : Table LabourSubtype.id} :
      activates before row = false → Labour.saveSubtype db.subtypes before row = some subtypes →
      Commits db others (.subtypeSaved before row) { db with subtypes := subtypes }
  | seeded {before : Option LabourSubtype} {row : LabourSubtype} {rates : List JobLabourRate}
      {subtypes : Table LabourSubtype.id} :
      Labour.saveSubtype db.subtypes before row = some subtypes →
      Commits db others (.seeded before row rates)
        { db with subtypes := subtypes, rates := addRates db.rates rates }

lemma proceed_next {answer : Except Refusal Unit} (h : proceed answer phase = .next phase') :
    answer = .ok () ∧ phase = phase' := by
  unfold proceed at h
  split at h
  · exact ⟨rfl, Outcome.next.inj h⟩
  · cases h

lemma proceed_ne_commit {answer : Except Refusal Unit} : proceed answer phase ≠ .commit db := by
  unfold proceed
  split <;> exact Outcome.noConfusion

lemma commitSubtype_eq_commit {before : Option LabourSubtype} {row : LabourSubtype}
    (h : commitSubtype db before row rows = .commit db') :
    ∃ subtypes, saveSubtype db.subtypes before row = some subtypes ∧
      db' = { db with subtypes := subtypes, rates := addRates db.rates rows } := by
  unfold commitSubtype at h
  split at h
  · cases h
  · split at h
    · cases h
    · exact ⟨_, ‹_›, (Outcome.commit.inj h).symm⟩

lemma commitSubtype_ne_next {before : Option LabourSubtype} {row : LabourSubtype} :
    commitSubtype db before row rows ≠ .next phase := by
  unfold commitSubtype
  split
  · exact Outcome.noConfusion
  · split <;> exact Outcome.noConfusion

lemma guarded_of_checkPools {row : LabourSubtype} {data : LabourSubtypeWriteData}
    (h : checkPools db row data = .ok ()) (hleaves : leavesPool true row (row.withData data) = true) :
    hasOthers db true row.id := by
  by_contra hothers
  unfold checkPools at h
  simp only [hleaves, hothers, not_false_eq_true, and_self, if_true] at h
  cases h

lemma false_of_not_any {f : Phase → Bool} (h : ¬others.any f = true) :
    ∀ other ∈ others, f other = false := fun other hother =>
  Bool.eq_false_iff.mpr fun hf => h (List.any_eq_true.mpr ⟨other, hother, hf⟩)

lemma goes_of_advance (h : advance db others phase = .next phase') : Goes db others phase phase' := by
  cases phase with
  | begun op =>
      cases op with
      | createJob job =>
          simp only [advance] at h
          split at h
          · cases h
          · obtain rfl := Outcome.next.inj h
            exact .insertJob (false_of_not_any ‹_›)
      | deleteJob id =>
          simp only [advance] at h
          split at h
          · cases h
          · split at h
            · obtain rfl := Outcome.next.inj h
              exact .holdJob
            · cases h
      | createLabourSubtype id data =>
          simp only [advance] at h
          split at h
          · cases h
          · obtain ⟨-, rfl⟩ := proceed_next h
            exact .createSubtype
      | updateLabourSubtype pk data =>
          simp only [advance] at h
          split at h
          · cases h
          · rename_i hheld
            split at h
            · cases h
            · obtain rfl := Outcome.next.inj h
              refine .holdSubtype ‹_› fun other hother row hrow hid => ?_
              have hfree := false_of_not_any hheld other hother
              simp [Option.mem_def.mp hrow, hid] at hfree
  | jobInserted job =>
      obtain rfl := Outcome.next.inj h
      exact .priceJob
  | jobPriced job rates =>
      simp only [advance, commitJob] at h
      split at h
      · cases h
      · split at h <;> cases h
  | jobHeld id =>
      simp only [advance] at h
      split at h
      · cases h
      · obtain rfl := Outcome.next.inj h
        exact .deleteJob (false_of_not_any ‹_›)
  | jobDeleted id => cases h
  | subtypeHeld row data =>
      obtain ⟨-, rfl⟩ := proceed_next h
      exact .checkDependents
  | subtypeFree row data =>
      obtain ⟨hguard, rfl⟩ := proceed_next h
      exact .checkPools (guarded_of_checkPools hguard)
  | subtypeChecked row data =>
      obtain ⟨-, rfl⟩ := proceed_next h
      exact .saveSubtype
  | subtypeSaved before row =>
      simp only [advance] at h
      split at h
      · split at h
        · cases h
        · rename_i hfree
          obtain rfl := Outcome.next.inj h
          refine .lockJobs fun other hother => ?_
          simpa using false_of_not_any hfree other hother
      · exact absurd h commitSubtype_ne_next
  | jobsLocked before row =>
      obtain rfl := Outcome.next.inj h
      exact .survey
  | surveyed before row existing =>
      simp only [advance] at h
      split at h
      · obtain rfl := Outcome.next.inj h
        exact .seed ‹_›
      · cases h
  | seeded before row rates =>
      simp only [advance] at h
      split at h
      · cases h
      · exact absurd h commitSubtype_ne_next

lemma commits_of_advance (h : advance db others phase = .commit db') : Commits db others phase db' := by
  cases phase with
  | begun op =>
      cases op with
      | createJob job =>
          simp only [advance] at h
          split at h <;> cases h
      | deleteJob id =>
          simp only [advance] at h
          split at h
          · cases h
          · split at h <;> cases h
      | createLabourSubtype id data =>
          simp only [advance] at h
          split at h
          · cases h
          · exact absurd h proceed_ne_commit
      | updateLabourSubtype pk data =>
          simp only [advance] at h
          split at h
          · cases h
          · split at h <;> cases h
  | jobInserted job => cases h
  | jobPriced job rates =>
      simp only [advance, commitJob] at h
      split at h
      · cases h
      · split at h
        · obtain rfl := Outcome.commit.inj h
          exact .job ‹_› ‹_›
        · cases h
  | jobHeld id =>
      simp only [advance] at h
      split at h <;> cases h
  | jobDeleted id =>
      obtain rfl := Outcome.commit.inj h
      exact .deletion
  | subtypeHeld row data => exact absurd h proceed_ne_commit
  | subtypeFree row data => exact absurd h proceed_ne_commit
  | subtypeChecked row data => exact absurd h proceed_ne_commit
  | subtypeSaved before row =>
      simp only [advance] at h
      split at h
      · split at h <;> cases h
      · rename_i hactivates
        obtain ⟨subtypes, hsave, rfl⟩ := commitSubtype_eq_commit h
        exact .subtype (Bool.eq_false_iff.mpr hactivates) hsave
  | jobsLocked before row => cases h
  | surveyed before row existing =>
      simp only [advance] at h
      split at h <;> cases h
  | seeded before row rates =>
      simp only [advance] at h
      split at h
      · cases h
      · obtain ⟨subtypes, hsave, rfl⟩ := commitSubtype_eq_commit h
        exact .seeded hsave

/-! ## What every run keeps -/

lemma PhaseSound.goes (h : Goes db others phase phase') (hphase : PhaseSound db phase) :
    PhaseSound db phase' := by
  cases h with
  | insertJob => trivial
  | priceJob =>
      rename_i job
      intro subtype hsubtype hactive
      refine ⟨seedRate db job subtype, ?_, rfl⟩
      exact List.mem_map_of_mem (List.mem_filter.mpr ⟨hsubtype, hactive⟩)
  | holdJob => trivial
  | deleteJob => trivial
  | createSubtype => exact fun _ hold => absurd hold (Option.not_mem_none _)
  | holdSubtype hfound =>
      show db.subtypes.find? _ = _
      rw [Table.key_of_find? hfound]
      exact hfound
  | checkDependents => exact hphase
  | checkPools => exact hphase
  | saveSubtype =>
      rintro old ⟨⟩
      exact ⟨rfl, hphase⟩
  | lockJobs => exact hphase
  | survey => exact hphase
  | seed hcomplete => exact ⟨hphase, hcomplete⟩

lemma JobsApart.goes {other : Phase} (h : Goes db others phase phase') (hother : other ∈ others)
    (hbefore : JobsApart phase other ∧ JobsApart other phase) :
    JobsApart phase' other ∧ JobsApart other phase' := by
  obtain ⟨hphase, hback⟩ := hbefore
  cases h with
  | insertJob hfree | deleteJob hfree =>
      refine ⟨fun hlocks => absurd hlocks Bool.false_ne_true, fun hlocks => ?_⟩
      rw [hfree other hother] at hlocks
      cases hlocks
  | lockJobs hfree =>
      refine ⟨fun _ => hfree other hother, fun hlocks => ?_⟩
      rw [(hfree other hother).2] at hlocks
      cases hlocks
  | _ => exact ⟨hphase, hback⟩

lemma RowsApart.goes {other : Phase} (h : Goes db others phase phase') (hother : other ∈ others)
    (hbefore : RowsApart phase other ∧ RowsApart other phase) :
    RowsApart phase' other ∧ RowsApart other phase' := by
  obtain ⟨hphase, hback⟩ := hbefore
  cases h with
  | createSubtype =>
      exact ⟨fun _ hrow => absurd hrow (Option.not_mem_none _),
        fun _ _ _ hrow => absurd hrow (Option.not_mem_none _)⟩
  | holdSubtype hfound hfree =>
      rename_i pk data row
      have hid : row.id = pk := Table.key_of_find? hfound
      constructor
      · rintro _ ⟨⟩ row' hrow' heq
        exact hfree other hother row' hrow' (heq.symm.trans hid)
      · rintro row' hrow' _ ⟨⟩ heq
        exact hfree other hother row' hrow' (heq.trans hid)
  | _ => exact ⟨hphase, hback⟩

section Saved

variable {before : Option LabourSubtype} {row : LabourSubtype} {subtypes : Table LabourSubtype.id}

lemma mem_saveSubtype (h : saveSubtype db.subtypes before row = some subtypes)
    {other : LabourSubtype} (hother : other ∈ subtypes.rows) :
    (other ∈ db.subtypes.rows ∧ other.id ≠ row.id) ∨ other = row := by
  cases before with
  | none =>
      rcases (Table.mem_insert? h).mp hother with hold | rfl
      · refine .inl ⟨hold, fun heq => ?_⟩
        exact Table.find?_eq_none_iff.mp (Table.find?_of_insert? h) other hold heq
      · exact .inr rfl
  | some old =>
      obtain rfl := Option.some.inj h
      rcases Table.mem_put.mp hother with hold | ⟨rfl, -⟩
      · exact .inl hold
      · exact .inr rfl

lemma mem_saveSubtype_of_ne (h : saveSubtype db.subtypes before row = some subtypes)
    {other : LabourSubtype} (hother : other ∈ db.subtypes.rows) (hne : other.id ≠ row.id) :
    other ∈ subtypes.rows := by
  cases before with
  | none => exact (Table.mem_insert? h).mpr (.inl hother)
  | some old =>
      obtain rfl := Option.some.inj h
      exact Table.mem_put.mpr (.inl ⟨hother, hne⟩)

lemma find?_saveSubtype (h : saveSubtype db.subtypes before row = some subtypes)
    (hheld : HeldRow db before row) {held : LabourSubtype}
    (hfound : db.subtypes.find? held.id = some held) (hapart : ∀ old ∈ before, old.id ≠ held.id) :
    subtypes.find? held.id = some held := by
  refine Table.find?_eq_some_iff.mpr ⟨mem_saveSubtype_of_ne h (Table.mem_of_find? hfound) ?_, rfl⟩
  cases before with
  | none =>
      intro heq
      have hfresh : db.subtypes.find? row.id = none := Table.find?_of_insert? h
      rw [← heq, hfound] at hfresh
      cases hfresh
  | some old => exact fun heq => hapart old rfl ((hheld old rfl).1.trans heq.symm)

lemma was_active (hactivates : activates before row = false) (hheld : HeldRow db before row)
    (hactive : row.isActive = true) :
    ∃ old ∈ db.subtypes.rows, old.id = row.id ∧ old.isActive = true := by
  unfold activates at hactivates
  rw [hactive, Bool.true_and, Bool.not_eq_false'] at hactivates
  rcases before with _ | old
  · cases hactivates
  · obtain ⟨hid, hfound⟩ := hheld old rfl
    exact ⟨old, Table.mem_of_find? hfound, hid, hactivates⟩

end Saved

lemma GridComplete.commits (h : Commits db others phase db') (hphase : PhaseSound db phase)
    (hgrid : GridComplete db) : GridComplete db' := by
  rw [gridComplete_iff] at hgrid ⊢
  cases h with
  | job hinsert hrates =>
      rename_i job jobs rates added
      intro j hj subtype hsubtype hactive
      refine (hasRate_insertAll hrates).mpr ?_
      rcases (Table.mem_insert? hinsert).mp hj with hold | rfl
      · exact .inl (hgrid j hold subtype hsubtype hactive)
      · exact .inr (hphase subtype hsubtype hactive)
  | deletion =>
      rename_i id
      intro j hj subtype hsubtype hactive
      obtain ⟨hold, hne⟩ := Table.mem_erase.mp hj
      obtain ⟨rate, hrate, hkey⟩ := hasRate_iff.mp (hgrid j hold subtype hsubtype hactive)
      refine hasRate_iff.mpr ⟨rate, List.mem_filter.mpr ⟨hrate, ?_⟩, hkey⟩
      have hjob : rate.job = j.id := congrArg Prod.fst hkey
      simpa [hjob] using hne
  | subtype hactivates hsave =>
      rename_i before row subtypes
      intro j hj subtype hsubtype hactive
      rcases mem_saveSubtype hsave hsubtype with ⟨hold, -⟩ | rfl
      · exact hgrid j hj subtype hold hactive
      · obtain ⟨old, hold, hid, hwas⟩ := was_active hactivates hphase hactive
        exact hid ▸ hgrid j hj old hold hwas
  | seeded hsave =>
      rename_i before row rates subtypes
      intro j hj subtype hsubtype hactive
      rcases mem_saveSubtype hsave hsubtype with ⟨hold, -⟩ | rfl
      · exact hasRate_addRates.mpr (.inl (hgrid j hj subtype hold hactive))
      · exact hphase.2 j hj

/-- What a transaction has read is about the subtypes, and about the jobs and their rates where it
holds the job table. -/
lemma PhaseSound.congr {other : Phase} (hother : PhaseSound db other)
    (hsubtypes : db'.subtypes = db.subtypes)
    (hlocks : other.locksJobs = true → db'.jobs = db.jobs ∧
      ∀ job subtype, HasRate db.rates job subtype → HasRate db'.rates job subtype) :
    PhaseSound db' other := by
  cases other with
  | seeded before row rates =>
      obtain ⟨hheld, hcomplete⟩ := hother
      obtain ⟨hjobs, hrates⟩ := hlocks rfl
      refine ⟨fun old hold => hsubtypes ▸ hheld old hold, fun job hjob => hasRate_addRates.mpr ?_⟩
      exact (hasRate_addRates.mp (hcomplete job (hjobs ▸ hjob))).imp_left (hrates _ _)
  | _ =>
      revert hother
      simp [PhaseSound, HeldRow, hsubtypes]

/-- What another transaction has read survives a saved subtype, and rates that are added.  One
that has read the active subtypes finds no other active one. -/
lemma PhaseSound.save {other : Phase} {before : Option LabourSubtype} {row : LabourSubtype}
    {subtypes : Table LabourSubtype.id} (hother : PhaseSound db other)
    (hsave : saveSubtype db.subtypes before row = some subtypes) (hheld : HeldRow db before row)
    (hrows : ∀ old ∈ before, ∀ held ∈ other.heldSubtype, old.id ≠ held.id)
    (hactive : other.writesJobs = true → row.isActive = true →
      ∃ old ∈ db.subtypes.rows, old.id = row.id ∧ old.isActive = true)
    (hlocks : other.locksJobs = true → rates = db.rates) :
    PhaseSound { db with subtypes := subtypes, rates := rates } other := by
  have hkept : ∀ held : LabourSubtype, other.heldSubtype = some held →
      db.subtypes.find? held.id = some held → subtypes.find? held.id = some held :=
    fun held hsome hfound => find?_saveSubtype hsave hheld hfound fun old hold =>
      hrows old hold held hsome
  have hkeptRow : ∀ (before' : Option LabourSubtype) (row' : LabourSubtype),
      other.heldSubtype = before' → HeldRow db before' row' →
      HeldRow { db with subtypes := subtypes, rates := rates } before' row' := by
    intro before' row' hsome hheld' old hold
    obtain ⟨hid, hfound⟩ := hheld' old hold
    refine ⟨hid, ?_⟩
    rw [← hid] at hfound ⊢
    exact hkept old (hsome.trans hold) hfound
  cases other with
  | jobPriced job priced =>
      intro subtype hsubtype hisActive
      rcases mem_saveSubtype hsave hsubtype with ⟨hold, -⟩ | rfl
      · exact hother subtype hold hisActive
      · obtain ⟨old, hold, hid, hwas⟩ := hactive rfl hisActive
        exact hid ▸ hother old hold hwas
  | subtypeHeld held data => exact hkept held rfl hother
  | subtypeFree held data => exact hkept held rfl hother
  | subtypeChecked held data => exact hkept held rfl hother
  | subtypeSaved before' row' => exact hkeptRow before' row' rfl hother
  | jobsLocked before' row' => exact hkeptRow before' row' rfl hother
  | surveyed before' row' existing => exact hkeptRow before' row' rfl hother
  | seeded before' row' rates' =>
      obtain rfl := hlocks rfl
      exact ⟨hkeptRow before' row' rfl hother.1, hother.2⟩
  | _ => trivial

lemma PhaseSound.commits {other : Phase} (h : Commits db others phase db')
    (hphase : PhaseSound db phase) (hjobs : JobsApart phase other ∧ JobsApart other phase)
    (hrows : RowsApart phase other) (hother : PhaseSound db other) : PhaseSound db' other := by
  have hwriter : ∀ {P : Prop}, phase.writesJobs = true → other.locksJobs = true → P := by
    intro P hwrites hlocks
    rw [(hjobs.2 hlocks).1] at hwrites
    cases hwrites
  cases h with
  | job hinsert hrates => exact hother.congr rfl (hwriter rfl)
  | deletion => exact hother.congr rfl (hwriter rfl)
  | subtype hactivates hsave =>
      exact hother.save hsave hphase hrows (fun _ hactive => was_active hactivates hphase hactive)
        fun _ => rfl
  | seeded hsave =>
      obtain ⟨hwrites, hlocks⟩ := hjobs.1 rfl
      refine hother.save hsave hphase.1 hrows (fun h => ?_) fun h => ?_
      · rw [hwrites] at h
        cases h
      · rw [hlocks] at h
        cases h

/-- **Every step** keeps it. -/
lemma Sound.step {a : Act} (hs : Sound s) (h : step s a = some s') : Sound s' := by
  cases a with
  | start tx op =>
      obtain ⟨inFlight, hinsert, rfl⟩ := Option.map_eq_some_iff.mp h
      constructor
      · exact hs.grid
      · intro p hp
        rcases (Table.mem_insert? hinsert).mp hp with hp | rfl
        · exact hs.phases p hp
        · trivial
      · refine hs.jobs.insert hinsert fun other => ⟨fun hlocks => ?_, fun _ => ⟨rfl, rfl⟩⟩
        cases hlocks
      · refine hs.rows.insert hinsert fun other => ⟨fun _ hrow => ?_, fun _ _ _ hrow => ?_⟩
        · cases hrow
        · cases hrow
  | next tx =>
      simp only [Labour.step] at h
      split at h
      · cases h
      · rename_i current hfound
        have hid : current.id = tx := Table.key_of_find? hfound
        have hmem : current ∈ s.inFlight.rows := Table.mem_of_find? hfound
        have hphase := hs.phases current hmem
        have hjobs : ∀ q ∈ s.inFlight.rows, q.id ≠ tx →
            JobsApart current.phase q.phase ∧ JobsApart q.phase current.phase := fun q hq hne =>
          ⟨hs.jobs current hmem q hq fun heq => hne (heq.symm.trans hid),
            hs.jobs q hq current hmem fun heq => hne (heq.trans hid)⟩
        have hrows : ∀ q ∈ s.inFlight.rows, q.id ≠ tx →
            RowsApart current.phase q.phase ∧ RowsApart q.phase current.phase := fun q hq hne =>
          ⟨hs.rows current hmem q hq fun heq => hne (heq.symm.trans hid),
            hs.rows q hq current hmem fun heq => hne (heq.trans hid)⟩
        split at h
        · cases h
        · rename_i phase' hadvance
          obtain rfl := Option.some.inj h
          have hgoes := goes_of_advance hadvance
          constructor
          · exact hs.grid
          · intro p hp
            rcases Table.mem_put.mp hp with ⟨hp, -⟩ | ⟨rfl, -⟩
            · exact hs.phases p hp
            · exact hphase.goes hgoes
          · exact hs.jobs.put fun q hq hne => JobsApart.goes hgoes (mem_others hq hne) (hjobs q hq hne)
          · exact hs.rows.put fun q hq hne => RowsApart.goes hgoes (mem_others hq hne) (hrows q hq hne)
        · rename_i db' hadvance
          obtain rfl := Option.some.inj h
          have hcommits := commits_of_advance hadvance
          refine ⟨hs.grid.commits hcommits hphase, fun p hp => ?_, hs.jobs.erase, hs.rows.erase⟩
          obtain ⟨hp, hne⟩ := Table.mem_erase.mp hp
          exact PhaseSound.commits hcommits hphase (hjobs p hp hne) (hrows p hp hne).1
            (hs.phases p hp)
        · obtain rfl := Option.some.inj h
          exact ⟨hs.grid, fun p hp => hs.phases p (Table.mem_erase.mp hp).1, hs.jobs.erase,
            hs.rows.erase⟩
  | rollback tx =>
      obtain rfl := Option.some.inj h
      exact ⟨hs.grid, fun p hp => hs.phases p (Table.mem_erase.mp hp).1, hs.jobs.erase, hs.rows.erase⟩
  | updateJobLabourRates job entries =>
      simp only [Labour.step] at h
      split at h
      · obtain rfl := Option.some.inj h
        refine ⟨?_, fun p hp => ?_, hs.jobs, hs.rows⟩
        · have hgrid := gridComplete_iff.mp hs.grid
          refine gridComplete_iff.mpr fun j hj subtype hsubtype hactive => ?_
          exact hasRate_setAmounts.mpr (hgrid j hj subtype hsubtype hactive)
        · exact (hs.phases p hp).congr rfl fun _ => ⟨rfl, fun _ _ => hasRate_setAmounts.mpr⟩
      · cases h
  | assignSubtype staff subtype =>
      obtain rfl := Option.some.inj h
      refine ⟨hs.grid, fun p hp => ?_, hs.jobs, hs.rows⟩
      exact (hs.phases p hp).congr rfl fun _ => ⟨rfl, fun _ _ => id⟩

/-! ## The workshop pool -/

/-- The workshop subtype an update past its guard is taking out of the pool. -/
def Phase.takesOut : Phase → Option ℕ
  | .subtypeChecked row data => if leavesPool true row (row.withData data) then some row.id else none
  | .subtypeSaved before row | .jobsLocked before row | .surveyed before row _
  | .seeded before row _ =>
      if before.any fun old => leavesPool true old row then some row.id else none
  | _ => none

/-- The subtype is active, a workshop one, and nobody is taking it out. -/
def State.Stays (s : State) (subtype : LabourSubtype) : Prop :=
  subtype.inPool true = true ∧ ∀ other ∈ s.inFlight.rows, other.phase.takesOut ≠ some subtype.id

instance (s : State) (subtype : LabourSubtype) : Decidable (s.Stays subtype) :=
  inferInstanceAs (Decidable (_ ∧ ∀ _ ∈ _, _))

/-- Some workshop subtype stays. -/
def PoolStays (s : State) : Prop := ∃ subtype ∈ s.db.subtypes.rows, s.Stays subtype

/-- Where the guard of the workshop pool counts another subtype, it counts one that stays. -/
def CountsOneThatStays (s : State) : Phase → Prop
  | .subtypeFree row data => leavesPool true row (row.withData data) = true →
      hasOthers s.db true row.id → ∃ other ∈ s.db.subtypes.rows, other.id ≠ row.id ∧ s.Stays other
  | _ => True

instance (s : State) : ∀ phase, Decidable (CountsOneThatStays s phase)
  | .subtypeFree .. => inferInstanceAs (Decidable (_ → _ → _))
  | .begun _ | .jobInserted _ | .jobPriced .. | .jobHeld _ | .jobDeleted _ | .subtypeHeld ..
  | .subtypeChecked .. | .subtypeSaved .. | .jobsLocked .. | .surveyed .. | .seeded .. =>
      .isTrue trivial

/-- **The condition.**  The guard of an update is checked while one of the workshop subtypes it
counts is not being taken out by another update. -/
def SeesTheOthers (s : State) : Act → Prop
  | .next tx => ∀ current ∈ s.inFlight.find? tx, CountsOneThatStays s current.phase
  | _ => True

instance (s : State) : ∀ a, Decidable (SeesTheOthers s a)
  | .next _ => inferInstanceAs (Decidable (∀ _ ∈ _, _))
  | .start .. | .rollback _ | .updateJobLabourRates .. | .assignSubtype .. => .isTrue trivial

lemma takesOut_goes (h : Goes db others phase phase') :
    phase'.takesOut = phase.takesOut ∨ ∃ row data, phase = .subtypeFree row data ∧
      phase' = .subtypeChecked row data ∧
      (leavesPool true row (row.withData data) = true → hasOthers db true row.id) := by
  cases h with
  | checkPools hguard => exact .inr ⟨_, _, rfl, rfl, hguard⟩
  | _ => exact .inl rfl

lemma inPool_save {before : Option LabourSubtype} {row subtype : LabourSubtype}
    {subtypes : Table LabourSubtype.id} (hsave : saveSubtype db.subtypes before row = some subtypes)
    (hheld : HeldRow db before row) (hsubtype : subtype ∈ db.subtypes.rows)
    (hin : subtype.inPool true = true)
    (hout : (if before.any fun old => leavesPool true old row then some row.id else none) ≠
      some subtype.id) :
    ∃ kept ∈ subtypes.rows, kept.id = subtype.id ∧ kept.inPool true = true := by
  by_cases hid : subtype.id = row.id
  · cases before with
    | none =>
        exact absurd hid (Table.find?_eq_none_iff.mp (Table.find?_of_insert? hsave) subtype hsubtype)
    | some old =>
        obtain ⟨-, hfound⟩ := hheld old rfl
        obtain rfl : subtype = old :=
          Option.some.inj ((hid ▸ Table.find?_of_mem hsubtype).symm.trans hfound)
        have hleaves : leavesPool true subtype row = false := by
          refine Bool.eq_false_iff.mpr fun hleaves => hout ?_
          rw [Option.any_some, hleaves, if_pos rfl, hid]
        obtain rfl := Option.some.inj hsave
        refine ⟨row, Table.mem_put.mpr (.inr ⟨rfl, by rw [hfound]; rfl⟩), hid.symm, ?_⟩
        simpa [leavesPool, hin] using hleaves
  · exact ⟨subtype, mem_saveSubtype_of_ne hsave hsubtype hid, rfl, hin⟩

lemma inPool_commits {subtype : LabourSubtype} (h : Commits db others phase db')
    (hphase : PhaseSound db phase) (hsubtype : subtype ∈ db.subtypes.rows)
    (hin : subtype.inPool true = true) (hout : phase.takesOut ≠ some subtype.id) :
    ∃ kept ∈ db'.subtypes.rows, kept.id = subtype.id ∧ kept.inPool true = true := by
  cases h with
  | job => exact ⟨subtype, hsubtype, rfl, hin⟩
  | deletion => exact ⟨subtype, hsubtype, rfl, hin⟩
  | subtype _ hsave => exact inPool_save hsave hphase hsubtype hin hout
  | seeded hsave => exact inPool_save hsave hphase.1 hsubtype hin hout

/-- **Every step that meets it** leaves a workshop subtype that stays. -/
lemma PoolStays.step {a : Act} (hs : Sound s) (hpool : PoolStays s) (ha : SeesTheOthers s a)
    (h : step s a = some s') : PoolStays s' := by
  obtain ⟨subtype, hsubtype, hin, hstays⟩ := hpool
  have herased : ∀ tx, ∀ other ∈ (s.inFlight.erase tx).rows,
      other.phase.takesOut ≠ some subtype.id := fun tx other hother =>
    hstays other (Table.mem_erase.mp hother).1
  cases a with
  | start tx op =>
      obtain ⟨inFlight, hinsert, rfl⟩ := Option.map_eq_some_iff.mp h
      refine ⟨subtype, hsubtype, hin, fun other hother => ?_⟩
      rcases (Table.mem_insert? hinsert).mp hother with hother | rfl
      · exact hstays other hother
      · exact (Option.some_ne_none _).symm
  | next tx =>
      simp only [Labour.step] at h
      split at h
      · cases h
      · rename_i current hfound
        have hmem : current ∈ s.inFlight.rows := Table.mem_of_find? hfound
        split at h
        · cases h
        · rename_i phase' hadvance
          obtain rfl := Option.some.inj h
          -- whoever stays beside the phase that is left, stays if the new phase does not take it
          have hput : ∀ kept ∈ s.db.subtypes.rows, s.Stays kept → phase'.takesOut ≠ some kept.id →
              PoolStays { s with inFlight := s.inFlight.put ⟨tx, phase'⟩ } := by
            rintro kept hkept ⟨hkeptIn, hkeptStays⟩ hout
            refine ⟨kept, hkept, hkeptIn, fun other hother => ?_⟩
            rcases Table.mem_put.mp hother with ⟨hother, -⟩ | ⟨rfl, -⟩
            · exact hkeptStays other hother
            · exact hout
          rcases takesOut_goes (goes_of_advance hadvance) with hsame | ⟨row, data, hfree, rfl, hguard⟩
          · refine hput subtype hsubtype ⟨hin, hstays⟩ ?_
            rw [hsame]
            exact hstays current hmem
          · by_cases hleaves : leavesPool true row (row.withData data) = true
            · have hcounts := ha current hfound
              rw [hfree] at hcounts
              obtain ⟨other, hother, hne, hkept⟩ := hcounts hleaves (hguard hleaves)
              refine hput other hother hkept ?_
              rw [Phase.takesOut, if_pos hleaves]
              exact fun heq => hne (Option.some.inj heq).symm
            · refine hput subtype hsubtype ⟨hin, hstays⟩ ?_
              rw [Phase.takesOut, if_neg hleaves]
              exact (Option.some_ne_none _).symm
        · rename_i db' hadvance
          obtain rfl := Option.some.inj h
          obtain ⟨kept, hkept, hid, hkeptIn⟩ := inPool_commits (commits_of_advance hadvance)
            (hs.phases current hmem) hsubtype hin (hstays current hmem)
          exact ⟨kept, hkept, hkeptIn, fun other hother => hid ▸ herased tx other hother⟩
        · obtain rfl := Option.some.inj h
          exact ⟨subtype, hsubtype, hin, herased tx⟩
  | rollback tx =>
      obtain rfl := Option.some.inj h
      exact ⟨subtype, hsubtype, hin, herased tx⟩
  | updateJobLabourRates job entries =>
      simp only [Labour.step] at h
      split at h
      · obtain rfl := Option.some.inj h
        exact ⟨subtype, hsubtype, hin, hstays⟩
      · cases h
  | assignSubtype staff subtype' =>
      obtain rfl := Option.some.inj h
      exact ⟨subtype, hsubtype, hin, hstays⟩

/-! ## Every run -/

/-- A site as it is set up: a workshop subtype, a complete grid, and nobody at work. -/
def Start (s : State) : Prop :=
  s.inFlight.rows = [] ∧ HasWorkshop s.db ∧ GridComplete s.db

instance (s : State) : Decidable (Start s) := inferInstanceAs (Decidable (_ ∧ _ ∧ _))

lemma sound_of_start (h : Start s) : Sound s := by
  obtain ⟨hempty, -, hgrid⟩ := h
  refine ⟨hgrid, fun p hp => ?_, fun p hp => ?_, fun p hp => ?_⟩ <;>
  · rw [hempty] at hp
    cases hp

lemma poolStays_of_start (h : Start s) : PoolStays s := by
  obtain ⟨hempty, ⟨subtype, hsubtype, hin⟩, -⟩ := h
  refine ⟨subtype, hsubtype, hin, fun other hother => ?_⟩
  rw [hempty] at hother
  cases hother

/-- **The labour rates of every run.**  However the transactions interleave, as long as every guard
is checked while a workshop subtype it counts is not being taken out by another update: at least
one workshop subtype is active, and every job has exactly one rate for every active subtype. -/
theorem labour_kept_of_run {as : List Act} (hs : Start s) (has : step.AllMeet SeesTheOthers s as)
    (hrun : step.run s as = some s') : HasWorkshop s'.db ∧ GridComplete s'.db := by
  have hkept : Sound s' ∧ PoolStays s' := by
    refine Machine.run_keeps_of_meet (I := fun s => Sound s ∧ PoolStays s) ?_
      ⟨sound_of_start hs, poolStays_of_start hs⟩ has hrun
    rintro s a s' ⟨hsound, hpool⟩ ha hstep
    exact ⟨hsound.step hstep, hpool.step hsound ha hstep⟩
  obtain ⟨hsound, subtype, hsubtype, hin, -⟩ := hkept
  exact ⟨⟨subtype, hsubtype, hin⟩, hsound.grid⟩

/-- A job, two workshop subtypes and one for the office. -/
def newSite : State where
  db :=
    { subtypes := ⟨[⟨1, "Workshop", 0, true, true, true, 110⟩, ⟨2, "Onsite", 1, true, true, true, 120⟩,
        ⟨3, "Admin", 2, true, false, false, 90⟩], by decide⟩
      jobs := ⟨[⟨5, 8⟩], by decide⟩
      rates := ⟨[⟨5, 1, 110⟩, ⟨5, 2, 120⟩, ⟨5, 3, 90⟩], by decide⟩
      staff := Table.empty
      shopCompany := 9 }
  inFlight := Table.empty

/-- An update of a subtype's activity, from its start to its commit. -/
def switching (tx pk : ℕ) (active : Bool) : List Act :=
  .start tx (.updateLabourSubtype pk { isActive := some active }) :: List.replicate 5 (.next tx)

/-- A subtype is switched off.  It is switched on again while a job is being created: the job was
inserted first, so the survey waits for it. -/
def reactivation : List Act :=
  switching 1 2 false ++ ([.start 2 (.createJob ⟨6, 9⟩), .next 2] : List Act) ++
    ([.start 3 (.updateLabourSubtype 2 { isActive := some true }), .next 3, .next 3, .next 3, .next 3] :
      List Act) ++
    ([.next 2, .next 2] : List Act) ++ ([.next 3, .next 3, .next 3, .next 3] : List Act)

/-- Both jobs have all three rates in the end. -/
theorem labour_kept_after_a_reactivation :
    ∃ s, step.run newSite reactivation = some s ∧ (HasWorkshop s.db ∧ GridComplete s.db) ∧
      s.db.rates.rows.map JobLabourRate.key =
        [(5, 1), (5, 2), (5, 3), (6, 1), (6, 3), (6, 2)] := by
  have hends : (step.run newSite reactivation).any (fun s => s.db.rates.rows.map JobLabourRate.key =
      [(5, 1), (5, 2), (5, 3), (6, 1), (6, 3), (6, 2)]) = true := by decide +kernel
  obtain ⟨s, hrun, hrates⟩ := (Option.any_eq_true _ _).mp hends
  exact ⟨s, hrun, labour_kept_of_run (by decide +kernel) (by decide +kernel) hrun,
    of_decide_eq_true hrates⟩

/-- Two people each switch off one of the two workshop subtypes.  Each guard counts the other's. -/
def bothSwitchedOff : List Act :=
  [.start 1 (.updateLabourSubtype 1 { isActive := some false }), .next 1, .next 1, .next 1,
    .start 2 (.updateLabourSubtype 2 { isActive := some false }), .next 2, .next 2, .next 2,
    .next 1, .next 1, .next 2, .next 2]

/-- **No workshop subtype is left** by two updates that are both let through. -/
theorem last_two_deactivated :
    ∃ s as s', Start s ∧ step.run s as = some s' ∧ ¬HasWorkshop s'.db := by
  have hends : (step.run newSite bothSwitchedOff).any (fun s => ¬HasWorkshop s.db) = true := by
    decide +kernel
  obtain ⟨s', hrun, hempty⟩ := (Option.any_eq_true _ _).mp hends
  exact ⟨newSite, bothSwitchedOff, s', by decide +kernel, hrun, of_decide_eq_true hempty⟩

end Labour

end Docketworks
