import Docketworks.Job.LatestPointers

/-!
# The latest pointers over runs

The pointers of a job over every run of `Docketworks.Job.LatestPointers`.

* `Sound` — the revisions of a kind are numbered, every pointer is to the highest, and a month end on its way
  holds a revision within reach.
* `SoundCosts.rollover`, `SoundCosts.createJob` — a set created within reach is the next of its kind.
* `LatestRight` — the pointers, the revisions and the lines as they should be.
* `SavesWhatItLoaded` — a quote copy or a quote revision saves its job while the pointers it loaded are still
  the job's.
* `latest_pointers_right` — then all is right in every state reached.
* `rollover_undone_by_a_copy` — and otherwise a month end is undone.
-/

namespace Docketworks

open Library

namespace LatestSets

/-! ## What holds between the steps -/

def PointsToHighest (costs : JobCosts) (job : PointedJob) (kind : CostSetKind) : Prop :=
  ∃ set ∈ costs.setsOf job.id kind, set.id = job.latest kind ∧ set.rev = (costs.revs job.id kind).length

/-- A month end on its way holds a revision that is there by now, or the next. -/
def WithinReach (costs : JobCosts) : Task → Prop
  | .rollover job rev => (costs.jobs.find? job).isSome ∧ 1 ≤ rev ∧ rev ≤ (costs.revs job .actual).length + 1
  | .entry job _ => (costs.jobs.find? job.id).isSome
  | .quoteRevision _ | .quoteCopy _ _ => True

/-- What holds of the tables. -/
structure SoundCosts (costs : JobCosts) : Prop where
  numbered : ∀ job kind, Numbered (costs.revs job kind)
  owned : ∀ set ∈ costs.sets.rows, (costs.jobs.find? set.job).isSome
  points : ∀ job ∈ costs.jobs.rows, ∀ kind, PointsToHighest costs job kind

/-- What holds between the steps. -/
structure Sound (desk : CostDesk) : Prop extends SoundCosts desk.costs where
  reach : ∀ client ∈ desk.clients.rows, WithinReach desk.costs client.task
  written : ∀ line ∈ desk.written, line.2 = some line.1

/-! ## The sets of a kind -/

section Sets

variable {costs costs' : JobCosts} {job : ℕ} {kind : CostSetKind} {set other : RevisedSet}

lemma mem_setsOf : set ∈ costs.setsOf job kind ↔ set ∈ costs.sets.rows ∧ set.job = job ∧ set.kind = kind := by
  unfold JobCosts.setsOf
  rw [List.mem_filter, decide_eq_true_iff]

lemma rev_mem_revs (h : set ∈ costs.setsOf job kind) : set.rev ∈ costs.revs job kind := List.mem_map_of_mem h

lemma eq_of_rev_eq (hnumbered : Numbered (costs.revs job kind)) (hset : set ∈ costs.setsOf job kind)
    (hother : other ∈ costs.setsOf job kind) (h : set.rev = other.rev) : set = other :=
  List.inj_on_of_nodup_map hnumbered.nodup hset hother h

lemma createSet_eq_some (h : costs.createSet set = some costs') :
    set.rev ∉ costs.revs set.job set.kind ∧ ∃ sets, costs.sets.insert? set = some sets ∧
      costs' = { costs with sets } := by
  unfold JobCosts.createSet at h
  split at h
  · cases h
  · rename_i hfree
    obtain ⟨sets, hsets, rfl⟩ := Option.map_eq_some_iff.mp h
    exact ⟨hfree, sets, hsets, rfl⟩

lemma setsOf_createSet (h : costs.createSet set = some costs') (job : ℕ) (kind : CostSetKind) :
    costs'.setsOf job kind =
      costs.setsOf job kind ++ if set.job = job ∧ set.kind = kind then [set] else [] := by
  obtain ⟨-, sets, hsets, rfl⟩ := createSet_eq_some h
  unfold JobCosts.setsOf
  rw [Table.rows_insert? hsets, List.filter_append]
  congr 1
  by_cases hof : set.job = job ∧ set.kind = kind
  · rw [if_pos hof, List.filter_cons_of_pos (by simpa using hof)]
    rfl
  · rw [if_neg hof, List.filter_cons_of_neg (by simpa using hof)]
    rfl

lemma revs_createSet (h : costs.createSet set = some costs') (job : ℕ) (kind : CostSetKind) :
    costs'.revs job kind = costs.revs job kind ++ if set.job = job ∧ set.kind = kind then [set.rev] else [] := by
  unfold JobCosts.revs
  rw [setsOf_createSet h, List.map_append]
  congr 1
  split <;> rfl

lemma length_revs_le (h : costs.createSet set = some costs') (job : ℕ) (kind : CostSetKind) :
    (costs.revs job kind).length ≤ (costs'.revs job kind).length := by
  rw [revs_createSet h, List.length_append]
  omega

lemma numbered_createSet (hnumbered : ∀ job kind, Numbered (costs.revs job kind))
    (hpos : 1 ≤ set.rev) (hreach : set.rev ≤ (costs.revs set.job set.kind).length + 1)
    (h : costs.createSet set = some costs') :
    set.rev = (costs.revs set.job set.kind).length + 1 ∧ ∀ job kind, Numbered (costs'.revs job kind) := by
  have hnext := (hnumbered set.job set.kind).eq_next hpos hreach (createSet_eq_some h).1
  refine ⟨hnext, fun job kind => ?_⟩
  rw [revs_createSet h]
  split
  · rename_i hof
    obtain ⟨rfl, rfl⟩ := hof
    rw [hnext]
    exact (hnumbered _ _).append_next
  · rw [List.append_nil]
    exact hnumbered job kind

lemma argmax_setsOf (hnumbered : Numbered (costs.revs job kind)) (hset : set ∈ costs.setsOf job kind)
    (hrev : set.rev = (costs.revs job kind).length) :
    (costs.setsOf job kind).argmax RevisedSet.rev = some set := by
  cases hmax : (costs.setsOf job kind).argmax RevisedSet.rev with
  | none =>
      rw [List.argmax_eq_none] at hmax
      rw [hmax] at hset
      cases hset
  | some highest =>
      have hmem := List.argmax_mem (Option.mem_def.mpr hmax)
      have hle := List.le_of_mem_argmax hset (Option.mem_def.mpr hmax)
      have hlast := hnumbered.le_length (rev_mem_revs hmem)
      rw [eq_of_rev_eq hnumbered hset hmem (by omega)]

end Sets

/-! ## Frames -/

section Frames

variable {costs costs' : JobCosts} {desk : CostDesk} {task : Task}

/-- Jobs stay, and the revisions of a kind only grow. -/
structure Extends (costs costs' : JobCosts) : Prop where
  found : ∀ job, (costs.jobs.find? job).isSome → (costs'.jobs.find? job).isSome
  grows : ∀ job kind, (costs.revs job kind).length ≤ (costs'.revs job kind).length

lemma Extends.of_sets (hjobs : ∀ job, (costs.jobs.find? job).isSome → (costs'.jobs.find? job).isSome)
    (hsets : costs'.sets = costs.sets) : Extends costs costs' := by
  refine ⟨hjobs, fun job kind => ?_⟩
  unfold JobCosts.revs JobCosts.setsOf
  rw [hsets]

lemma WithinReach.extends (h : WithinReach costs task) (hext : Extends costs costs') :
    WithinReach costs' task := by
  cases task with
  | quoteRevision => trivial
  | quoteCopy => trivial
  | entry job values => exact hext.found _ h
  | rollover job rev =>
      obtain ⟨hfound, hpos, hreach⟩ := h
      have hgrows := hext.grows job .actual
      exact ⟨hext.found _ hfound, hpos, by omega⟩

lemma SoundCosts.of_lines (h : SoundCosts costs) (hjobs : costs'.jobs = costs.jobs)
    (hsets : costs'.sets = costs.sets) : SoundCosts costs' := by
  obtain ⟨jobs, sets, lines⟩ := costs
  obtain ⟨jobs', sets', lines'⟩ := costs'
  obtain rfl : jobs' = jobs := hjobs
  obtain rfl : sets' = sets := hsets
  exact ⟨h.numbered, h.owned, h.points⟩

lemma Sound.commit {lines : List (ℕ × ℕ)} (h : Sound desk) (hsound : SoundCosts costs')
    (hext : Extends desk.costs costs')
    (hlines : ∀ line ∈ lines, costs'.latestActual? line.1 = some line.2) : Sound (desk.commit costs' lines) := by
  refine ⟨hsound, fun client hclient => (h.reach client hclient).extends hext, fun line hline => ?_⟩
  rcases List.mem_append.mp hline with hline | hline
  · exact h.written line hline
  · obtain ⟨⟨job, costSet⟩, hmem, rfl⟩ := List.mem_map.mp hline
    exact hlines _ hmem

lemma Sound.begin {desk' : CostDesk} {client : ℕ} (h : Sound desk) (hreach : WithinReach desk.costs task)
    (hstep : desk.begin client task = some desk') : Sound desk' := by
  obtain ⟨clients, hinsert, rfl⟩ := Option.map_eq_some_iff.mp hstep
  exact ⟨h.toSoundCosts, Table.forall_insert? hinsert h.reach hreach, h.written⟩

lemma Sound.erase {client : ℕ} (h : Sound desk) : Sound { desk with clients := desk.clients.erase client } :=
  ⟨h.toSoundCosts, fun other hother => h.reach other (Table.mem_erase.mp hother).1, h.written⟩

end Frames

/-! ## What the transactions keep -/

section Steps

variable {costs costs' : JobCosts} {job : ℕ} {row : PointedJob} {kind : CostSetKind} {set : RevisedSet}
  {newSet : ℕ}

lemma getOrCreateCostSet_eq (h : SoundCosts costs) (hrow : costs.jobs.find? job = some row)
    {answer : RevisedSet × JobCosts} (hget : costs.getOrCreateCostSet job kind newSet = some answer) :
    answer.1.id = row.latest kind ∧ answer.2 = costs := by
  obtain ⟨set, hset, hid, hrev⟩ := h.points row (Table.mem_of_find? hrow) kind
  rw [Table.key_of_find? hrow] at hset hrev
  unfold JobCosts.getOrCreateCostSet at hget
  rw [argmax_setsOf (h.numbered job kind) hset hrev] at hget
  obtain rfl := Option.some.inj hget
  exact ⟨hid, rfl⟩

lemma SoundCosts.saveJob (h : SoundCosts costs) {loaded : PointedJob}
    (hrow : costs.jobs.find? loaded.id = some row) (hlatest : loaded.latest = row.latest) :
    SoundCosts (costs.saveJob loaded) ∧ Extends costs (costs.saveJob loaded) := by
  have hfound : ∀ job, (costs.jobs.find? job).isSome → ((costs.saveJob loaded).jobs.find? job).isSome :=
    fun job hjob => Table.isSome_find?_put hrow hjob
  refine ⟨⟨h.numbered, fun set hset => hfound _ (h.owned set hset), fun other hother kind => ?_⟩,
    .of_sets hfound rfl⟩
  rcases Table.mem_put.mp hother with ⟨hother, -⟩ | ⟨rfl, -⟩
  · exact h.points other hother kind
  · have hpoints := h.points row (Table.mem_of_find? hrow) kind
    have hid : row.id = other.id := Table.key_of_find? hrow
    unfold PointsToHighest at hpoints ⊢
    rw [hid, ← hlatest] at hpoints
    exact hpoints

lemma savePointer_self (hrow : costs.jobs.find? job = some row) :
    costs.savePointer job kind (row.latest kind) = costs.saveJob row := by
  unfold JobCosts.savePointer
  simp only [hrow]
  unfold JobCosts.saveJob
  rw [Function.update_eq_self]

/-- **A month end.**  The revision it holds is the next or is taken; where it is the next, the new set is the
highest and the pointer moves to it. -/
lemma SoundCosts.rollover {rev : ℕ} (h : SoundCosts costs) (hrow : costs.jobs.find? job = some row)
    (hpos : 1 ≤ rev) (hreach : rev ≤ (costs.revs job .actual).length + 1)
    (hcreate : costs.createSet ⟨newSet, job, .actual, rev⟩ = some costs') :
    SoundCosts (costs'.setLatest ⟨newSet, job, .actual, rev⟩) ∧
      Extends costs (costs'.setLatest ⟨newSet, job, .actual, rev⟩) := by
  obtain ⟨hnext, hnumbered⟩ := numbered_createSet h.numbered hpos hreach hcreate
  have hsets := setsOf_createSet hcreate
  have hrevs := revs_createSet hcreate
  have hgrows := length_revs_le hcreate
  obtain ⟨-, sets, hinsert, rfl⟩ := createSet_eq_some hcreate
  have hid : row.id = job := Table.key_of_find? hrow
  obtain ⟨moved, hmoved⟩ : ∃ moved : PointedJob,
      moved = { row with latest := Function.update row.latest .actual newSet } := ⟨_, rfl⟩
  have hput : JobCosts.setLatest { costs with sets } ⟨newSet, job, .actual, rev⟩ =
      { costs with sets, jobs := costs.jobs.put moved } := by
    unfold JobCosts.setLatest JobCosts.savePointer
    simp only [hrow]
    rw [hmoved]
  have hkey : costs.jobs.find? moved.id = some row := by
    rw [hmoved]
    exact hid ▸ hrow
  have hfound : ∀ other, (costs.jobs.find? other).isSome → ((costs.jobs.put moved).find? other).isSome :=
    fun other hother => Table.isSome_find?_put hkey hother
  rw [hput]
  refine ⟨⟨hnumbered, fun set hset => hfound _ ?_, fun other hother kind => ?_⟩, hfound, hgrows⟩
  · rcases (Table.mem_insert? hinsert).mp hset with hset | rfl
    · exact h.owned set hset
    · rw [hrow]
      rfl
  · -- every pointer but the one that moved is to the set it was to
    have hkept : other ∈ costs.jobs.rows → (other.id = job → kind ≠ .actual) →
        PointsToHighest { costs with sets, jobs := costs.jobs.put moved } other kind := by
      intro hmem hne
      obtain ⟨set, hset, hpointed, hrev⟩ := h.points other hmem kind
      have hother : ¬(job = other.id ∧ CostSetKind.actual = kind) := fun hboth => hne hboth.1.symm hboth.2.symm
      refine ⟨set, ?_, hpointed, ?_⟩
      · change set ∈ JobCosts.setsOf { costs with sets } other.id kind
        rw [hsets, if_neg hother, List.append_nil]
        exact hset
      · change set.rev = (JobCosts.revs { costs with sets } other.id kind).length
        rw [hrevs, if_neg hother, List.append_nil]
        exact hrev
    rcases Table.mem_put.mp hother with ⟨hmem, hne⟩ | ⟨heq, -⟩
    · refine hkept hmem fun hjob => absurd ?_ hne
      rw [hjob, hmoved]
      exact hid.symm
    · rw [heq]
      have hmovedId : moved.id = job := by
        rw [hmoved]
        exact hid
      by_cases hkind : kind = .actual
      · subst hkind
        refine ⟨⟨newSet, job, .actual, rev⟩, ?_, ?_, ?_⟩
        · change _ ∈ JobCosts.setsOf { costs with sets } moved.id .actual
          rw [hsets, if_pos ⟨hmovedId.symm, rfl⟩]
          exact List.mem_append_right _ List.mem_cons_self
        · rw [hmoved]
          exact (Function.update_self CostSetKind.actual newSet row.latest).symm
        · change rev = (JobCosts.revs { costs with sets } moved.id .actual).length
          rw [hrevs, if_pos ⟨hmovedId.symm, rfl⟩, hmovedId, List.length_append]
          exact hnext
      · obtain ⟨set, hset, hpointed, hrev⟩ := h.points row (Table.mem_of_find? hrow) kind
        have hother : ¬(job = moved.id ∧ CostSetKind.actual = kind) := fun hboth => hkind hboth.2.symm
        rw [hid, ← hmovedId] at hset hrev
        refine ⟨set, ?_, ?_, ?_⟩
        · change set ∈ JobCosts.setsOf { costs with sets } moved.id kind
          rw [hsets, if_neg hother, List.append_nil]
          exact hset
        · rw [hpointed, hmoved]
          exact (Function.update_of_ne hkind _ _).symm
        · change set.rev = (JobCosts.revs { costs with sets } moved.id kind).length
          rw [hrevs, if_neg hother, List.append_nil]
          exact hrev

/-- **A new job.**  Its three sets are the first of their kinds, and it points to them. -/
lemma SoundCosts.createJob (h : SoundCosts costs) (hcreate : costs.createJob row = some costs') :
    SoundCosts costs' ∧ Extends costs costs' := by
  simp only [JobCosts.createJob, Option.bind_eq_bind, Option.bind_eq_some_iff, Option.map_eq_some_iff] at hcreate
  obtain ⟨first, hfirst, second, hsecond, third, hthird, jobs, hjobs, rfl⟩ := hcreate
  have hnew : costs.jobs.find? row.id = none := by
    obtain ⟨-, _, -, rfl⟩ := createSet_eq_some hfirst
    obtain ⟨-, _, -, rfl⟩ := createSet_eq_some hsecond
    obtain ⟨-, _, -, rfl⟩ := createSet_eq_some hthird
    exact Table.find?_of_insert? hjobs
  have hjobsEq : third.jobs = costs.jobs := by
    obtain ⟨-, _, -, rfl⟩ := createSet_eq_some hfirst
    obtain ⟨-, _, -, rfl⟩ := createSet_eq_some hsecond
    obtain ⟨-, _, -, rfl⟩ := createSet_eq_some hthird
    rfl
  -- no set of the new job was there before
  have hnone : ∀ kind, costs.setsOf row.id kind = [] := by
    intro kind
    rw [List.eq_nil_iff_forall_not_mem]
    intro set hset
    obtain ⟨hmem, hjob, -⟩ := mem_setsOf.mp hset
    have howned := h.owned set hmem
    rw [hjob, hnew] at howned
    cases howned
  have hsets : ∀ job kind, third.setsOf job kind = costs.setsOf job kind ++
      if row.id = job then [⟨row.latest kind, row.id, kind, 1⟩] else [] := by
    intro job kind
    rw [setsOf_createSet hthird, setsOf_createSet hsecond, setsOf_createSet hfirst]
    by_cases hjob : row.id = job
    · cases kind <;> simp [hjob]
    · simp [hjob]
  have hrevs : ∀ job kind, third.revs job kind = costs.revs job kind ++ if row.id = job then [1] else [] := by
    intro job kind
    unfold JobCosts.revs
    rw [hsets, List.map_append]
    congr 1
    split <;> rfl
  have hfound : ∀ job, (costs.jobs.find? job).isSome → (jobs.find? job).isSome := by
    intro job hjob
    rw [← hjobsEq] at hjob
    exact Table.isSome_find?_insert? hjobs hjob
  have hself : (jobs.find? row.id).isSome := by
    rw [Table.find?_insert?_self hjobs]
    rfl
  refine ⟨⟨fun job kind => ?_, fun set hset => ?_, fun other hother kind => ?_⟩, hfound, fun job kind => ?_⟩
  · change Numbered (third.revs job kind)
    rw [hrevs]
    by_cases hjob : row.id = job
    · subst hjob
      have hrevsNone : costs.revs row.id kind = [] := by
        unfold JobCosts.revs
        rw [hnone]
        rfl
      rw [hrevsNone, if_pos rfl]
      exact Numbered.nil.append_next
    · rw [if_neg hjob, List.append_nil]
      exact h.numbered job kind
  · change (jobs.find? set.job).isSome
    have hmem : set ∈ third.setsOf set.job set.kind := mem_setsOf.mpr ⟨hset, rfl, rfl⟩
    rw [hsets, List.mem_append] at hmem
    rcases hmem with hmem | hmem
    · exact hfound _ (h.owned set (mem_setsOf.mp hmem).1)
    · split at hmem
      · rename_i hjob
        rw [← hjob]
        exact hself
      · cases hmem
  · have hmem := (Table.mem_insert? hjobs).mp hother
    rw [hjobsEq] at hmem
    rcases hmem with hmem | rfl
    · have hne : row.id ≠ other.id := by
        intro heq
        have hfind := Table.find?_of_mem hmem
        rw [← heq, hnew] at hfind
        cases hfind
      obtain ⟨set, hset, hpointed, hrev⟩ := h.points other hmem kind
      refine ⟨set, ?_, hpointed, ?_⟩
      · change set ∈ third.setsOf other.id kind
        rw [hsets, if_neg hne, List.append_nil]
        exact hset
      · change set.rev = (third.revs other.id kind).length
        rw [hrevs, if_neg hne, List.append_nil]
        exact hrev
    · refine ⟨⟨other.latest kind, other.id, kind, 1⟩, ?_, rfl, ?_⟩
      · change _ ∈ third.setsOf other.id kind
        rw [hsets, if_pos rfl]
        exact List.mem_append_right _ List.mem_cons_self
      · change 1 = (third.revs other.id kind).length
        unfold JobCosts.revs
        rw [hsets, hnone, if_pos rfl]
        rfl
  · change _ ≤ (third.revs job kind).length
    rw [hrevs, List.length_append]
    omega

end Steps

/-! ## The quote services -/

/-- The loaded job a task saves whole, if its transaction gets that far. -/
def savedJob (costs : JobCosts) : Task → Option PointedJob
  | .quoteRevision job => if costs.linesOf (job.latest .quote) = [] then none else some job
  | .quoteCopy job archiveExisting =>
      if costs.contentsOf (job.latest .quote) = costs.contentsOf (job.latest .estimate) then none
      else if costs.isBlank (job.latest .quote) || archiveExisting then some job
      else none
  | .entry .. | .rollover .. => none

section Quote

variable {costs costs' : JobCosts} {job : PointedJob} {archiveExisting : Bool}

lemma createQuoteRevision_eq (h : costs.createQuoteRevision job = some costs') :
    savedJob costs (.quoteRevision job) = some job ∧ costs'.jobs = (costs.saveJob job).jobs ∧
      costs'.sets = costs.sets := by
  unfold JobCosts.createQuoteRevision at h
  unfold savedJob
  split at h
  · cases h
  · rename_i hlines
    obtain rfl := Option.some.inj h
    exact ⟨if_neg hlines, rfl, rfl⟩

lemma copyEstimateToQuote_eq (h : costs.copyEstimateToQuote job archiveExisting = some costs') :
    costs' = costs ∨ (savedJob costs (.quoteCopy job archiveExisting) = some job ∧
      costs'.jobs = (costs.saveJob job).jobs ∧ costs'.sets = costs.sets) := by
  unfold JobCosts.copyEstimateToQuote at h
  unfold savedJob
  dsimp only at h
  split at h
  · cases h
  · split at h
    · exact .inl (Option.some.inj h).symm
    · rename_i hcontents
      dsimp only
      rw [if_neg hcontents]
      right
      split at h
      · rename_i hblank
        obtain rfl := Option.some.inj h
        exact ⟨if_pos (by simp [hblank]), rfl, rfl⟩
      · split at h
        · rename_i harchive
          obtain ⟨revised, hrevised, rfl⟩ := Option.map_eq_some_iff.mp h
          obtain ⟨-, hjobs, hsets⟩ := createQuoteRevision_eq hrevised
          exact ⟨if_pos (by simp [harchive]), hjobs, hsets⟩
        · cases h

end Quote

/-! ## One step -/

def PointedJob.pointers (job : PointedJob) : ℕ × ℕ × ℕ :=
  (job.latest .estimate, job.latest .quote, job.latest .actual)

lemma latest_eq_of_pointers {job other : PointedJob} (h : job.pointers = other.pointers) :
    job.latest = other.latest := by
  obtain ⟨hestimate, hquote, hactual⟩ : _ ∧ _ ∧ _ := by simpa [PointedJob.pointers] using h
  funext kind
  cases kind
  · exact hestimate
  · exact hquote
  · exact hactual

/-- The pointers a job was loaded with are still the row's when its request saves it. -/
def SavesWhatItLoaded (desk : CostDesk) : CostStep → Prop
  | .committed client _ => ∀ request ∈ desk.clients.find? client, ∀ loaded ∈ savedJob desk.costs request.task,
      ∀ row ∈ desk.costs.jobs.find? loaded.id, loaded.pointers = row.pointers
  | _ => True

instance (desk : CostDesk) : DecidablePred (SavesWhatItLoaded desk)
  | .committed client _ => inferInstanceAs (Decidable (∀ request ∈ desk.clients.find? client, _))
  | .jobCreated _ | .costLineCreated .. | .receiptProcessed _ | .loaded .. | .monthEndRead .. | .givenUp _ =>
      inferInstanceAs (Decidable True)

section Step

variable {desk desk' : CostDesk}

lemma latestActual?_of_find? {costs : JobCosts} {job : ℕ} {row : PointedJob}
    (h : costs.jobs.find? job = some row) : costs.latestActual? job = some (row.latest .actual) := by
  unfold JobCosts.latestActual?
  rw [h]
  rfl

lemma Sound.createCostLine {job newSet : ℕ} {kind : CostSetKind} {values : CopiedLine} (h : Sound desk)
    (hstep : desk.createCostLine job kind values newSet = some desk') : Sound desk' := by
  simp only [CostDesk.createCostLine, Option.bind_eq_bind, Option.bind_eq_some_iff] at hstep
  obtain ⟨row, hrow, ⟨set, costs⟩, hget, hstep⟩ := hstep
  obtain ⟨hset, rfl⟩ := getOrCreateCostSet_eq h.toSoundCosts hrow hget
  obtain rfl := Option.some.inj hstep
  refine h.commit (h.toSoundCosts.of_lines rfl rfl) (.of_sets (fun _ h => h) rfl) fun line hline => ?_
  split at hline
  · rename_i hkind
    obtain rfl := List.mem_singleton.mp hline
    subst hkind
    exact (latestActual?_of_find? hrow).trans (congrArg some hset.symm)
  · cases hline

lemma receiptLines_latest {allocations : List (ℕ × CopiedLine)} {lines : List (ℕ × PlacedLine)}
    (hlines : desk.receiptLines allocations = some lines) :
    ∀ line ∈ lines, desk.costs.latestActual? line.1 = some line.2.costSet := by
  unfold CostDesk.receiptLines at hlines
  induction allocations generalizing lines with
  | nil =>
      obtain rfl : [] = lines := Option.some.inj hlines
      exact fun _ h => absurd h List.not_mem_nil
  | cons allocation allocations ih =>
      simp only [List.mapM_cons, Option.bind_eq_bind, Option.bind_eq_some_iff, Option.map_eq_some_iff] at hlines
      obtain ⟨_, ⟨row, hrow, rfl⟩, rest, hrest, hlines⟩ := hlines
      obtain rfl := Option.some.inj hlines
      intro line hline
      rcases List.mem_cons.mp hline with rfl | hline
      · exact latestActual?_of_find? hrow
      · exact ih hrest line hline

lemma Sound.processDeliveryReceipt {allocations : List (ℕ × CopiedLine)} (h : Sound desk)
    (hstep : desk.processDeliveryReceipt allocations = some desk') : Sound desk' := by
  obtain ⟨lines, hlines, rfl⟩ := Option.map_eq_some_iff.mp hstep
  refine h.commit (h.toSoundCosts.of_lines rfl rfl) (.of_sets (fun _ h => h) rfl) fun line hline => ?_
  obtain ⟨line, hmem, rfl⟩ := List.mem_map.mp hline
  exact receiptLines_latest hlines line hmem

lemma Sound.commit_saved {costs : JobCosts} {loaded : PointedJob} (h : Sound desk)
    (hcurrent : ∀ row, desk.costs.jobs.find? loaded.id = some row → loaded.latest = row.latest)
    (hjobs : costs.jobs = (desk.costs.saveJob loaded).jobs) (hsets : costs.sets = desk.costs.sets) :
    Sound (desk.commit costs []) := by
  have hsaved : SoundCosts (desk.costs.saveJob loaded) ∧ Extends desk.costs (desk.costs.saveJob loaded) := by
    cases hrow : desk.costs.jobs.find? loaded.id with
    | some row => exact h.toSoundCosts.saveJob hrow (hcurrent row hrow)
    | none =>
        -- a row that is not there is not written
        have hsame : (desk.costs.saveJob loaded).jobs = desk.costs.jobs := by
          refine Table.eq_of_rows ?_
          refine (List.map_congr_left fun row hmem => ?_).trans (List.map_id _)
          exact if_neg fun hkey => Table.find?_eq_none_iff.mp hrow row hmem hkey
        exact ⟨h.toSoundCosts.of_lines hsame rfl, .of_sets (fun _ hfound => by rwa [hsame]) rfl⟩
  refine h.commit (hsaved.1.of_lines hjobs hsets) ⟨fun job hjob => ?_, fun job kind => ?_⟩
    fun _ hline => absurd hline List.not_mem_nil
  · rw [hjobs]
    exact hsaved.2.found job hjob
  · unfold JobCosts.revs JobCosts.setsOf
    rw [hsets]

lemma Sound.commitTask {newSet : ℕ} {task : Task} (h : Sound desk) (hreach : WithinReach desk.costs task)
    (hcurrent : ∀ loaded, savedJob desk.costs task = some loaded →
      ∀ row, desk.costs.jobs.find? loaded.id = some row → loaded.latest = row.latest)
    (hstep : desk.commitTask newSet task = some desk') : Sound desk' := by
  cases task with
  | quoteRevision job =>
      obtain ⟨costs, hcosts, rfl⟩ := Option.map_eq_some_iff.mp hstep
      obtain ⟨hsaved, hjobs, hsets⟩ := createQuoteRevision_eq hcosts
      exact h.commit_saved (hcurrent job hsaved) hjobs hsets
  | quoteCopy job archiveExisting =>
      obtain ⟨costs, hcosts, rfl⟩ := Option.map_eq_some_iff.mp hstep
      rcases copyEstimateToQuote_eq hcosts with rfl | ⟨hsaved, hjobs, hsets⟩
      · exact h.commit h.toSoundCosts (.of_sets (fun _ h => h) rfl) fun _ hline => absurd hline List.not_mem_nil
      · exact h.commit_saved (hcurrent job hsaved) hjobs hsets
  | entry job values =>
      simp only [CostDesk.commitTask, Option.bind_eq_bind, Option.bind_eq_some_iff] at hstep
      obtain ⟨⟨set, costs⟩, hget, hstep⟩ := hstep
      obtain ⟨row, hrow⟩ := Option.isSome_iff_exists.mp hreach
      obtain ⟨hset, rfl⟩ := getOrCreateCostSet_eq h.toSoundCosts hrow hget
      obtain rfl := Option.some.inj hstep
      have hid : row.id = job.id := Table.key_of_find? hrow
      -- the pointer is to that set already, so moving it there leaves it
      have hmoved : ((desk.costs.writeLine set.id values).updateLatestActual job set).jobs = desk.costs.jobs ∨
          ((desk.costs.writeLine set.id values).updateLatestActual job set).jobs =
            (desk.costs.saveJob row).jobs := by
        unfold JobCosts.updateLatestActual
        split
        · exact .inl rfl
        · split
          · right
            rw [hset]
            have hself : (desk.costs.writeLine (row.latest .actual) values).savePointer job.id .actual
                (row.latest .actual) = (desk.costs.writeLine (row.latest .actual) values).saveJob row :=
              savePointer_self hrow
            rw [hself]
            rfl
          · exact .inl rfl
      have hsets : ((desk.costs.writeLine set.id values).updateLatestActual job set).sets = desk.costs.sets := by
        unfold JobCosts.updateLatestActual JobCosts.savePointer
        split
        · rfl
        · split
          · split <;> rfl
          · rfl
      have hkey : desk.costs.jobs.find? row.id = some row := hid ▸ hrow
      have hsaved := h.toSoundCosts.saveJob hkey rfl
      have hlatest : (desk.costs.saveJob row).jobs.find? job.id = some row := by
        have hself := Table.find?_put_self (r := row) (hid ▸ hrow)
        rw [hid] at hself
        exact hself
      rcases hmoved with hjobs | hjobs
      · refine h.commit (h.toSoundCosts.of_lines hjobs hsets) (.of_sets (fun _ hf => by rwa [hjobs]) hsets)
          fun line hline => ?_
        obtain rfl := List.mem_singleton.mp hline
        exact (latestActual?_of_find? (hjobs ▸ hrow)).trans (congrArg some hset.symm)
      · refine h.commit (hsaved.1.of_lines hjobs hsets)
          (.of_sets (fun _ hf => by rw [hjobs]; exact hsaved.2.found _ hf) hsets) fun line hline => ?_
        obtain rfl := List.mem_singleton.mp hline
        exact (latestActual?_of_find? (hjobs ▸ hlatest)).trans (congrArg some hset.symm)
  | rollover job rev =>
      simp only [CostDesk.commitTask, Option.bind_eq_bind, Option.bind_eq_some_iff] at hstep
      obtain ⟨costs, hcreate, hstep⟩ := hstep
      obtain rfl := Option.some.inj hstep
      obtain ⟨hfound, hpos, hwithin⟩ := hreach
      obtain ⟨row, hrow⟩ := Option.isSome_iff_exists.mp hfound
      obtain ⟨hsound, hext⟩ := h.toSoundCosts.rollover hrow hpos hwithin hcreate
      exact h.commit hsound hext fun _ hline => absurd hline List.not_mem_nil

lemma nextRev_withinReach {costs : JobCosts} {job : ℕ} (h : SoundCosts costs)
    (hfound : (costs.jobs.find? job).isSome) : WithinReach costs (.rollover job (costs.nextRev job .actual)) := by
  refine ⟨hfound, ?_⟩
  unfold JobCosts.nextRev
  by_cases hnone : costs.revs job .actual = []
  · rw [hnone]
    simp
  · rw [(h.numbered job .actual).max?_eq hnone]
    dsimp only
    omega

/-- **A step keeps the desk sound**, if it saves no job with pointers that have moved. -/
lemma Sound.step {step : CostStep} (h : Sound desk) (hmeets : SavesWhatItLoaded desk step)
    (hstep : costDesk desk step = some desk') : Sound desk' := by
  cases step with
  | jobCreated job =>
      obtain ⟨costs, hcosts, rfl⟩ := Option.map_eq_some_iff.mp hstep
      obtain ⟨hsound, hext⟩ := h.toSoundCosts.createJob hcosts
      exact h.commit hsound hext fun _ hline => absurd hline List.not_mem_nil
  | costLineCreated job kind values newSet => exact h.createCostLine hstep
  | receiptProcessed allocations => exact h.processDeliveryReceipt hstep
  | loaded client job loading =>
      simp only [costDesk, Option.bind_eq_bind, Option.bind_eq_some_iff] at hstep
      obtain ⟨row, hrow, hstep⟩ := hstep
      refine h.begin ?_ hstep
      cases loading with
      | quoteRevision => trivial
      | quoteCopy => trivial
      | entry values =>
          change (desk.costs.jobs.find? row.id).isSome = true
          rw [Table.key_of_find? hrow, hrow]
          rfl
  | monthEndRead client job =>
      simp only [costDesk, Option.bind_eq_bind, Option.bind_eq_some_iff] at hstep
      obtain ⟨row, hrow, hstep⟩ := hstep
      refine h.begin (nextRev_withinReach h.toSoundCosts ?_) hstep
      rw [hrow]
      rfl
  | committed client newSet =>
      simp only [costDesk, Option.bind_eq_bind, Option.bind_eq_some_iff] at hstep
      obtain ⟨request, hrequest, between, hbetween, hstep⟩ := hstep
      obtain rfl := Option.some.inj hstep
      exact (h.commitTask (h.reach request (Table.mem_of_find? hrequest))
        (fun loaded hloaded row hrow => latest_eq_of_pointers (hmeets request hrequest loaded hloaded row hrow))
        hbetween).erase
  | givenUp client =>
      obtain rfl := Option.some.inj hstep
      exact h.erase

end Step

/-! ## The result -/

/-- Each pointer of a job is to a set of the job and the kind, of the highest revision; no revision is there
twice; and every actual line was written on the set that was latest as its transaction committed. -/
structure LatestRight (desk : CostDesk) : Prop where
  pointers : ∀ job ∈ desk.costs.jobs.rows, ∀ kind, ∃ set ∈ desk.costs.sets.rows,
    set.id = job.latest kind ∧ set.job = job.id ∧ set.kind = kind ∧
      ∀ other ∈ desk.costs.sets.rows, other.job = job.id → other.kind = kind → other.rev ≤ set.rev
  distinct : ∀ set ∈ desk.costs.sets.rows, ∀ other ∈ desk.costs.sets.rows,
    set.job = other.job → set.kind = other.kind → set.rev = other.rev → set = other
  written : ∀ line ∈ desk.written, line.2 = some line.1

lemma Sound.empty : Sound CostDesk.empty :=
  ⟨⟨fun _ _ => Numbered.nil, fun _ h => absurd h List.not_mem_nil, fun _ h => absurd h List.not_mem_nil⟩,
    fun _ h => absurd h List.not_mem_nil, fun _ h => absurd h List.not_mem_nil⟩

lemma Sound.latestRight {desk : CostDesk} (h : Sound desk) : LatestRight desk := by
  refine ⟨fun job hjob kind => ?_, fun set hset other hother hjob hkind hrev => ?_, h.written⟩
  · obtain ⟨set, hset, hpointed, hrev⟩ := h.points job hjob kind
    obtain ⟨hmem, hof, hkind⟩ := mem_setsOf.mp hset
    refine ⟨set, hmem, hpointed, hof, hkind, fun other hother hotherJob hotherKind => ?_⟩
    have hle := (h.numbered job.id kind).le_length (rev_mem_revs (mem_setsOf.mpr ⟨hother, hotherJob, hotherKind⟩))
    omega
  · exact eq_of_rev_eq (h.numbered other.job other.kind) (mem_setsOf.mpr ⟨hset, hjob, hkind⟩)
      (mem_setsOf.mpr ⟨hother, rfl, rfl⟩) hrev

/-- **The latest pointers are right.**  In every run in which no quote copy and no quote revision saves a job
whose pointers have moved since it was loaded, every state reached has them right. -/
theorem latest_pointers_right {steps : List CostStep} {desk : CostDesk}
    (hmeets : costDesk.AllMeet SavesWhatItLoaded CostDesk.empty steps)
    (hrun : costDesk.run CostDesk.empty steps = some desk) : LatestRight desk :=
  (Machine.run_keeps_of_meet (I := Sound) (fun _ _ _ h hmeet hstep => h.step hmeet hstep) Sound.empty hmeets
    hrun).latestRight

def fixedPriceJob : PointedJob where
  id := 1
  pricingMethodology := .fixedPrice
  latest
    | .estimate => 1
    | .quote => 2
    | .actual => 3

def materialLine (unitCost : ℚ) : CopiedLine where
  kind := .material
  desc := some "Sheet"
  quantity := 1
  unitCost := unitCost
  unitRev := unitCost
  accountingDate := 0
  extRefs := []
  payload := []
  xeroPayItem := none
  labourSubtype := none

/-- An estimate copied to the quote, a month end and a receipt, each after the other. -/
def orderlyWork : List CostStep :=
  [.jobCreated fixedPriceJob, .costLineCreated 1 .estimate (materialLine 10) 10,
    .loaded 1 1 (.quoteCopy false), .committed 1 0, .monthEndRead 2 1, .committed 2 4,
    .receiptProcessed [(1, materialLine 5)], .loaded 3 1 (.entry (materialLine 7)), .committed 3 0]

theorem latest_pointers_right_orderly : ∃ desk, costDesk.run CostDesk.empty orderlyWork = some desk ∧
    LatestRight desk ∧ desk.written = [(4, some 4), (4, some 4)] := by
  have hruns : (costDesk.run CostDesk.empty orderlyWork).any
      (fun desk => desk.written = [(4, some 4), (4, some 4)]) = true := by decide +kernel
  have hmeets : costDesk.AllMeet SavesWhatItLoaded CostDesk.empty orderlyWork := by decide +kernel
  obtain ⟨desk, hrun, hwritten⟩ := (Option.any_eq_true _ _).mp hruns
  exact ⟨desk, hrun, latest_pointers_right hmeets hrun, of_decide_eq_true hwritten⟩

/-- A quote copy loads its job, a month end comes between, and the copy saves the job as it was. -/
def rolloverUnderACopy : List CostStep :=
  [.jobCreated fixedPriceJob, .costLineCreated 1 .estimate (materialLine 10) 10,
    .loaded 1 1 (.quoteCopy false), .monthEndRead 2 1, .committed 2 4, .committed 1 0]

/-- The pointer is back at the set that was latest before the month end. -/
theorem rollover_undone_by_a_copy :
    ¬∀ steps desk, costDesk.run CostDesk.empty steps = some desk → LatestRight desk := by
  intro hall
  have hruns : (costDesk.run CostDesk.empty rolloverUnderACopy).any (fun desk =>
      desk.costs.jobs.rows.any (fun job => job.latest .actual = 3 && job.id = 1) &&
        (desk.costs.sets.rows.all (fun set => set.id ≠ 3 || set.rev = 1) &&
          desk.costs.sets.rows.contains ⟨4, 1, .actual, 2⟩)) = true := by decide +kernel
  obtain ⟨desk, hrun, hdesk⟩ := (Option.any_eq_true _ _).mp hruns
  obtain ⟨hjob, hsets⟩ := Bool.and_eq_true_iff.mp hdesk
  obtain ⟨holder, hnewer⟩ := Bool.and_eq_true_iff.mp hsets
  obtain ⟨job, hmem, hlatest⟩ := List.any_eq_true.mp hjob
  rw [Bool.and_eq_true, decide_eq_true_eq, decide_eq_true_eq] at hlatest
  obtain ⟨set, hset, hid, -, -, hhighest⟩ := (hall rolloverUnderACopy desk hrun).pointers job hmem .actual
  have hrev := List.all_eq_true.mp holder set hset
  have hle := hhighest _ (List.contains_iff_mem.mp hnewer) hlatest.2.symm rfl
  rw [hid, hlatest.1] at hrev
  have hone : set.rev = 1 := by simpa using hrev
  rw [hone] at hle
  exact absurd hle (by decide)

end LatestSets

end Docketworks
