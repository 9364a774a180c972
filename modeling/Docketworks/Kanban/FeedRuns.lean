import Docketworks.Kanban.ChangeFeed

/-!
# What the change feed delivers

A pass asks for the rows stamped after the cursor, so a row that becomes visible with a stamp the
cursor has already passed is never asked for.  That is the only way an update is lost: where every
update that commits is stamped after the versions the clients have read, one undisturbed pass
brings a client's cards to the server's state.

* `Settled jobs v P` — while no job was created since the version `v`, `P` holds of the jobs not
  stamped after it.
* `Client.Fresh` — what a client holds is right about every job its cursor has passed.
* `step_keeps_fresh`, `fresh_of_run` — the invariant of a step and of a run.
* `poll_brings_current` — the delivery theorem; `late_commit_is_lost` — the run that loses an
  update.
-/

namespace Docketworks

open Library

namespace Kanban

variable {ι : Type} [DecidableEq ι]

/-! ## Stamps a version has passed -/

/-- While no job was created since the version `v`, `P` holds of every job not stamped after it. -/
def Settled (jobs : Jobs) (v : KanbanDatasetVersion) (P : Job → Prop) : Prop :=
  jobs.rows.length = v.count → ∀ job ∈ jobs.rows, job.updatedAt ≤ v.updatedAt → P job

/-- The rows a transaction updates are stamped after `v`. -/
def StampedAfter (jobs : Jobs) (v : KanbanDatasetVersion) (writes : List Job) : Prop :=
  jobs.rows.length = v.count →
    ∀ job ∈ writes, (jobs.find? job.id).isSome → v.updatedAt < job.updatedAt

variable {jobs : Jobs} {v cursor polled : KanbanDatasetVersion} {P : Job → Prop} {job : Job}

lemma saveRow_cases (jobs : Jobs) (job : Job) :
    (jobs.insert? job = some (saveRow jobs job) ∧ jobs.find? job.id = none) ∨
      (saveRow jobs job = jobs.put job ∧ (jobs.find? job.id).isSome) := by
  unfold saveRow
  cases hinsert : jobs.insert? job with
  | some created => exact .inl ⟨rfl, Table.find?_of_insert? hinsert⟩
  | none =>
      refine .inr ⟨rfl, ?_⟩
      unfold Table.insert? at hinsert
      split at hinsert
      · rename_i hmem
        obtain ⟨stored, hstored, hkey⟩ := List.mem_map.mp hmem
        rw [← hkey, Table.find?_of_mem hstored]
        rfl
      · cases hinsert

lemma length_saveRow_of_created (h : jobs.find? job.id = none) :
    (saveRow jobs job).rows.length = jobs.rows.length + 1 := by
  rcases saveRow_cases jobs job with ⟨hinsert, -⟩ | ⟨-, hfound⟩
  · rw [Table.rows_insert? hinsert, List.length_append, List.length_singleton]
  · rw [h] at hfound
    cases hfound

lemma length_le_saveRow : jobs.rows.length ≤ (saveRow jobs job).rows.length := by
  rcases saveRow_cases jobs job with ⟨-, hnew⟩ | ⟨hput, -⟩
  · rw [length_saveRow_of_created hnew]
    omega
  · rw [hput, Table.rows_put, List.length_map]

lemma id_mem_saveRow {k : ℕ} (h : ∃ r ∈ jobs.rows, r.id = k) :
    ∃ r ∈ (saveRow jobs job).rows, r.id = k := by
  obtain ⟨r, hr, rfl⟩ := h
  rcases saveRow_cases jobs job with ⟨hinsert, -⟩ | ⟨hput, hfound⟩
  · exact ⟨r, (Table.mem_insert? hinsert).mpr (.inl hr), rfl⟩
  · by_cases hid : r.id = job.id
    · exact ⟨job, by rw [hput]; exact Table.mem_put.mpr (.inr ⟨rfl, hfound⟩), hid.symm⟩
    · exact ⟨r, by rw [hput]; exact Table.mem_put.mpr (.inl ⟨hr, hid⟩), rfl⟩

lemma Settled.saveRow (hcount : v.count ≤ jobs.rows.length)
    (hafter : StampedAfter jobs v [job]) (h : Settled jobs v P) :
    Settled (saveRow jobs job) v P := by
  intro hlength r hr hstamp
  rcases saveRow_cases jobs job with ⟨-, hnew⟩ | ⟨hput, hfound⟩
  · rw [length_saveRow_of_created hnew] at hlength
    omega
  · rw [hput, Table.rows_put, List.length_map] at hlength
    rw [hput] at hr
    rcases Table.mem_put.mp hr with ⟨hold, -⟩ | ⟨rfl, -⟩
    · exact h hlength r hold hstamp
    · have := hafter hlength r List.mem_cons_self hfound
      omega

lemma StampedAfter.saveRow {rest : List Job} (hcount : v.count ≤ jobs.rows.length)
    (h : StampedAfter jobs v (job :: rest)) : StampedAfter (saveRow jobs job) v rest := by
  intro hlength w hw hfound
  rcases saveRow_cases jobs job with ⟨-, hnew⟩ | ⟨hput, hold⟩
  · rw [length_saveRow_of_created hnew] at hlength
    omega
  · rw [hput, Table.rows_put, List.length_map] at hlength
    refine h hlength w (List.mem_cons_of_mem _ hw) ?_
    by_cases hid : w.id = job.id
    · rwa [hid]
    · rwa [hput, Table.find?_put_of_ne hid] at hfound

/-! ## Commits -/

/-- The table after a transaction's rows. -/
abbrev commitRows (jobs : Jobs) (writes : List Job) : Jobs := writes.foldl saveRow jobs

lemma length_le_commitRows (writes : List Job) :
    jobs.rows.length ≤ (commitRows jobs writes).rows.length := by
  induction writes generalizing jobs with
  | nil => exact le_rfl
  | cons job rest ih => exact length_le_saveRow.trans ih

lemma id_mem_commitRows {k : ℕ} (writes : List Job) (h : ∃ r ∈ jobs.rows, r.id = k) :
    ∃ r ∈ (commitRows jobs writes).rows, r.id = k := by
  induction writes generalizing jobs with
  | nil => exact h
  | cons job rest ih => exact ih (id_mem_saveRow h)

/-- **A commit stamped after a version leaves what the version settled.** -/
lemma Settled.commitRows {writes : List Job} (hcount : v.count ≤ jobs.rows.length)
    (hafter : StampedAfter jobs v writes) (h : Settled jobs v P) :
    Settled (commitRows jobs writes) v P := by
  induction writes generalizing jobs with
  | nil => exact h
  | cons job rest ih =>
      have hhead : StampedAfter jobs v [job] := fun hlength w hw hfound =>
        hafter hlength w (List.mem_cons.mpr (.inl (List.mem_singleton.mp hw))) hfound
      exact ih (hcount.trans length_le_saveRow) (hafter.saveRow hcount) (h.saveRow hcount hhead)

/-! ## What a client holds -/

/-- What a pass in flight has read. -/
def Pass.Fresh (jobs : Jobs) (cursor : KanbanDatasetVersion) : Pass → Prop
  | .versionsRead polled => cursor.count ≤ polled.count
  | .topologyRead polled => polled.count = cursor.count
  | .visibleRead polled visible =>
      polled.count = cursor.count ∧
        Settled jobs polled fun job =>
          job.id ∈ visible ↔ cursor.updatedAt < job.updatedAt ∧ job.isVisible
  | .removedRead polled removed =>
      polled.count = cursor.count ∧
        Settled jobs polled fun job =>
          job.id ∈ removed ↔ cursor.updatedAt < job.updatedAt ∧ ¬ job.isVisible
  | .refetching _ => True

/-- What a client holds is right about every job its cursor has passed. -/
structure Client.Fresh (jobs : Jobs) (client : Client) : Prop where
  /-- No version it works from counts more jobs than there are. -/
  counted : ∀ v ∈ client.versionsHeld, v.count ≤ jobs.rows.length
  known : ∀ column card, client.columns.Holds column card → ∃ job ∈ jobs.rows, job.id = card.id
  unread : client.cursor = none → client.pass = none ∧ ∀ column, client.columns column = none
  /-- Under its cursor its columns are right, those still to be fetched again aside. -/
  right : ∀ cursor, client.cursor = some cursor →
    Settled jobs cursor
      (client.columns.HoldsRight ((client.pass.map Pass.pendingColumns).getD []))
  passing : ∀ cursor pass, client.cursor = some cursor → client.pass = some pass →
    pass.Fresh jobs cursor

variable {client : Client} {column : OfficeColumnId} {card : KanbanColumnJobOut}

lemma mem_versionsHeld_cursor (h : client.cursor = some cursor) : cursor ∈ client.versionsHeld := by
  simp [Client.versionsHeld, h]

lemma mem_versionsHeld_polled {pass : Pass} (h : client.pass = some pass)
    (hpolled : pass.polled = some polled) : polled ∈ client.versionsHeld := by
  simp [Client.versionsHeld, h, hpolled]

lemma Client.Fresh.commitRows {writes : List Job} (h : client.Fresh jobs)
    (hafter : ∀ v ∈ client.versionsHeld, StampedAfter jobs v writes) :
    client.Fresh (commitRows jobs writes) where
  counted v hv := (h.counted v hv).trans (length_le_commitRows writes)
  known column card hcard := id_mem_commitRows writes (h.known column card hcard)
  unread := h.unread
  right cursor hcursor :=
    have hheld := mem_versionsHeld_cursor hcursor
    (h.right cursor hcursor).commitRows (h.counted _ hheld) (hafter _ hheld)
  passing cursor pass hcursor hpass := by
    have hfresh := h.passing cursor pass hcursor hpass
    cases pass with
    | versionsRead polled => exact hfresh
    | topologyRead polled => exact hfresh
    | visibleRead polled visible | removedRead polled removed =>
        have hheld := mem_versionsHeld_polled hpass rfl
        exact ⟨hfresh.1, hfresh.2.commitRows (h.counted _ hheld) (hafter _ hheld)⟩
    | refetching columns => trivial

/-! ## The steps of a pass -/

lemma holds_fetch {fetched : OfficeColumnId}
    (h : (client.fetch jobs fetched).columns.Holds column card) :
    (column = fetched ∧ ∃ job ∈ jobs.rows, job.status = fetched.statusKey ∧
        card = serializeJobForApi job) ∨
      (column ≠ fetched ∧ client.columns.Holds column card) := by
  obtain ⟨data, hdata, hcard⟩ := h
  simp only [Client.fetch, Function.update_apply] at hdata
  split at hdata
  · rename_i hcolumn
    obtain rfl := Option.some.inj hdata
    simp only [getJobsByKanbanColumn] at hcard
    obtain ⟨job, hjob, rfl⟩ := List.mem_map.mp hcard
    have hfound := (List.mem_insertionSort _).mp (List.mem_of_mem_take hjob)
    simp only [List.mem_filter, decide_eq_true_eq] at hfound
    exact .inl ⟨hcolumn, job, hfound.1, hfound.2, rfl⟩
  · exact .inr ⟨‹_›, data, hdata, hcard⟩

lemma known_fetch {fetched : OfficeColumnId} (h : client.Fresh jobs)
    (hholds : (client.fetch jobs fetched).columns.Holds column card) :
    ∃ job ∈ jobs.rows, job.id = card.id := by
  rcases holds_fetch hholds with ⟨-, job, hjob, -, rfl⟩ | ⟨-, hold⟩
  · exact ⟨job, hjob, rfl⟩
  · exact h.known _ _ hold

lemma holdsRight_fetch {fetched : OfficeColumnId} {pending : List OfficeColumnId}
    (hjob : job ∈ jobs.rows) (h : client.columns.HoldsRight (fetched :: pending) job) :
    (client.fetch jobs fetched).columns.HoldsRight pending job := by
  intro column card hpending hholds hid
  rcases holds_fetch hholds with ⟨rfl, r, hr, hstatus, rfl⟩ | ⟨hne, hold⟩
  · obtain rfl : r = job := Table.eq_of_key_eq hr hjob hid
    exact ⟨rfl, hstatus.symm⟩
  · exact h column card (by simp [hne, hpending]) hold hid

lemma HoldsRight.mono {cache : ColumnCache} {pending more : List OfficeColumnId}
    (hsub : ∀ column ∈ pending, column ∈ more) (h : cache.HoldsRight pending job) :
    cache.HoldsRight more job :=
  fun column card hmore => h column card fun hpending => hmore (hsub column hpending)

lemma mem_visibleIds {k : ℕ} :
    k ∈ visibleIds jobs cursor ↔
      ∃ r ∈ jobs.rows, cursor.updatedAt < r.updatedAt ∧ r.isVisible ∧ r.id = k := by
  simp only [visibleIds, changedJobs, List.mem_map, List.mem_filter, decide_eq_true_eq]
  constructor
  · rintro ⟨r, ⟨⟨hr, hstamp⟩, hvisible⟩, hid⟩
    exact ⟨r, hr, hstamp, hvisible, hid⟩
  · rintro ⟨r, hr, hstamp, hvisible, hid⟩
    exact ⟨r, ⟨⟨hr, hstamp⟩, hvisible⟩, hid⟩

lemma mem_removedIds {k : ℕ} {visible : List ℕ} :
    k ∈ removedIds jobs cursor visible ↔
      (∃ r ∈ jobs.rows, cursor.updatedAt < r.updatedAt ∧ r.id = k) ∧ k ∉ visible := by
  simp only [removedIds, changedJobs, List.mem_map, List.mem_filter, decide_eq_true_eq]
  constructor
  · rintro ⟨⟨r, ⟨hr, hstamp⟩, hid⟩, hnot⟩
    exact ⟨⟨r, hr, hstamp, hid⟩, hnot⟩
  · rintro ⟨⟨r, hr, hstamp, hid⟩, hnot⟩
    exact ⟨⟨r, ⟨hr, hstamp⟩, hid⟩, hnot⟩

lemma visibleIds_fresh (hcount : polled.count = cursor.count) :
    (Pass.visibleRead polled (visibleIds jobs cursor)).Fresh jobs cursor := by
  refine ⟨hcount, fun _ job hjob _ => ?_⟩
  show job.id ∈ visibleIds jobs cursor ↔ _
  rw [mem_visibleIds]
  constructor
  · rintro ⟨r, hr, hstamp, hvisible, hid⟩
    obtain rfl : r = job := Table.eq_of_key_eq hr hjob hid
    exact ⟨hstamp, hvisible⟩
  · rintro ⟨hstamp, hvisible⟩
    exact ⟨job, hjob, hstamp, hvisible, rfl⟩

/-- The removed ids are those of the changed jobs the board no longer shows, for the jobs that
have not moved since the version was read. -/
lemma removedIds_fresh {visible : List ℕ}
    (h : (Pass.visibleRead polled visible).Fresh jobs cursor) :
    (Pass.removedRead polled (removedIds jobs cursor visible)).Fresh jobs cursor := by
  refine ⟨h.1, fun hlength job hjob hstamp => ?_⟩
  have hvisible : job.id ∈ visible ↔ _ := h.2 hlength job hjob hstamp
  show job.id ∈ removedIds jobs cursor visible ↔ _
  rw [mem_removedIds]
  constructor
  · rintro ⟨⟨r, hr, hafter, hid⟩, hnot⟩
    obtain rfl : r = job := Table.eq_of_key_eq hr hjob hid
    exact ⟨hafter, fun hshown => hnot (hvisible.mpr ⟨hafter, hshown⟩)⟩
  · rintro ⟨hafter, hhidden⟩
    exact ⟨⟨job, hjob, hafter, rfl⟩, fun hmem => hhidden (hvisible.mp hmem).2⟩

/-- **The replay.**  After it the columns are right about every job the new cursor has passed. -/
lemma settled_replay {removed : List ℕ} {cache : ColumnCache}
    (hright : Settled jobs cursor (cache.HoldsRight []))
    (hremoved : (Pass.removedRead polled removed).Fresh jobs cursor) :
    Settled jobs polled
      ((cache.applyKanbanChanges ⟨visibleJobs jobs cursor, removed⟩).HoldsRight []) := by
  intro hlength job hjob hstamp column card _ hholds hid
  rcases ColumnCache.holds_applyKanbanChanges hholds with ⟨hchanged, hcolumn⟩ | ⟨hold, hkept, hother⟩
  · simp only [visibleJobs, changedJobs, List.mem_map, List.mem_filter] at hchanged
    obtain ⟨r, ⟨⟨hr, -⟩, -⟩, rfl⟩ := hchanged
    obtain rfl : r = job := Table.eq_of_key_eq hr hjob hid
    exact ⟨rfl, hcolumn⟩
  · have hiff : job.id ∈ removed ↔ _ := hremoved.2 hlength job hjob hstamp
    by_cases hafter : cursor.updatedAt < job.updatedAt
    · exfalso
      by_cases hvisible : job.isVisible
      · refine hother (serializeJobForApi job) ?_ hid.symm
        simp only [visibleJobs, changedJobs, List.mem_map, List.mem_filter, decide_eq_true_eq]
        exact ⟨job, ⟨⟨hjob, hafter⟩, hvisible⟩, rfl⟩
      · exact hkept (hid ▸ hiff.mpr ⟨hafter, hvisible⟩)
    · exact hright (hremoved.1 ▸ hlength) job hjob (not_lt.mp hafter) column card (by simp) hold hid

/-! ## The invariant of a step -/

/-- Every client's cards are right about the jobs its cursor has passed. -/
def Feed.Fresh (s : Feed ι) : Prop := ∀ client, (s.clients client).Fresh s.jobs

/-- A transaction that commits has stamped every job it updates after the versions the clients have
read and still work from. -/
def Feed.CommitsAfterReads (s : Feed ι) : Act ι → Prop
  | .commit tx => ∀ job ∈ s.writesOf tx, (s.jobs.find? job.id).isSome →
      ∀ client, ∀ v ∈ (s.clients client).versionsHeld, v.updatedAt < job.updatedAt
  | _ => True

instance [Fintype ι] (s : Feed ι) : DecidablePred s.CommitsAfterReads
  | .commit tx => inferInstanceAs (Decidable (∀ _ ∈ s.writesOf tx, _))
  | .tick _ | .write _ _ | .rollback _ | .mount _ | .fetchColumn _ _ | .readVersions _
  | .readTopology _ | .readVisible _ | .readRemoved _ | .readJobs _ | .refetchColumn _
  | .abandon _ => .isTrue trivial

variable {s s' : Feed ι} {tab : ι}

lemma fresh_setClient {next : Client} (h : s.Fresh) (hnext : next.Fresh s.jobs) :
    (s.setClient tab next).Fresh := by
  intro other
  by_cases heq : other = tab
  · subst heq
    simpa [Feed.setClient] using hnext
  · simpa [Feed.setClient, Function.update_of_ne heq] using h other

lemma count_kanbanVersion (jobs : Jobs) : (kanbanVersion jobs).count = jobs.rows.length := rfl

lemma fresh_mount (h : client.Fresh jobs) (hnone : client.cursor = none) :
    Client.Fresh jobs { client with cursor := some (kanbanVersion jobs) } := by
  obtain ⟨hpass, hcolumns⟩ := h.unread hnone
  have hnothing : ∀ column card, ¬ client.columns.Holds column card := by
    rintro column card ⟨data, hdata, -⟩
    rw [hcolumns column] at hdata
    cases hdata
  refine ⟨fun v hv => ?_, h.known, by simp, fun cursor _ _ job _ _ column card _ hholds => ?_, ?_⟩
  · simp only [Client.versionsHeld, hpass, Option.toList_some, Option.bind_none,
      Option.toList_none, List.append_nil, List.mem_singleton] at hv
    rw [hv, count_kanbanVersion]
  · exact absurd hholds (hnothing column card)
  · intro cursor pass _ hsome
    rw [hpass] at hsome
    cases hsome

lemma fresh_fetch (h : client.Fresh jobs) (hsome : client.cursor ≠ none)
    (fetched : OfficeColumnId) : (client.fetch jobs fetched).Fresh jobs where
  counted := h.counted
  known _ _ := known_fetch h
  unread hnone := absurd hnone hsome
  right cursor hcursor := fun hlength job hjob hstamp =>
    holdsRight_fetch hjob (HoldsRight.mono (fun _ => List.mem_cons_of_mem _)
      (h.right cursor hcursor hlength job hjob hstamp))
  passing := h.passing

lemma fresh_pass {pass : Pass} (h : client.Fresh jobs) (hcursor : client.cursor = some cursor)
    (hnot : (client.pass.map Pass.pendingColumns).getD [] = []) (hpending : pass.pendingColumns = [])
    (hpolled : ∀ v, pass.polled = some v → v.count ≤ jobs.rows.length)
    (hpass : pass.Fresh jobs cursor) : Client.Fresh jobs { client with pass := some pass } where
  counted v hv := by
    simp only [Client.versionsHeld, List.mem_append, Option.mem_toList, Option.bind_some] at hv
    rcases hv with hold | hnew
    · exact h.counted v (mem_versionsHeld_cursor hold)
    · exact hpolled v hnew
  known := h.known
  unread hnone := by rw [hcursor] at hnone; cases hnone
  right cursor hcursor' := by
    have hright := h.right cursor hcursor'
    rw [hnot] at hright
    simpa [hpending] using hright
  passing cursor' pass' hcursor' hpass' := by
    obtain rfl : cursor = cursor' := Option.some.inj (hcursor.symm.trans hcursor')
    obtain rfl : pass = pass' := Option.some.inj hpass'
    exact hpass

lemma readVersions_keeps_fresh (h : s.Fresh) (hstep : readVersions s tab = some s') : s'.Fresh := by
  unfold readVersions at hstep
  simp only at hstep
  split at hstep
  · rename_i cursor hcursor hpass
    split at hstep
    · exact Option.some.inj hstep ▸ h
    · obtain rfl := Option.some.inj hstep
      have hclient := h tab
      refine fresh_setClient h (fresh_pass hclient hcursor (by rw [hpass]; rfl) rfl ?_ ?_)
      · rintro v hv
        rw [← Option.some.inj hv, count_kanbanVersion]
      · exact hclient.counted cursor (mem_versionsHeld_cursor hcursor)
  · cases hstep

lemma mem_officeColumnIds (column : OfficeColumnId) : column ∈ officeColumnIds := by
  cases column <;> decide

lemma length_eq_of_not_topologyMoved (h : topologyMoved jobs cursor = false) :
    jobs.rows.length = cursor.count := by
  simp only [topologyMoved, Bool.or_eq_false_iff, decide_eq_false_iff_not, not_not] at h
  exact h.1

lemma stepPass_keeps_fresh {act : Act ι} (h : s.Fresh) (hstep : stepPass s tab act = some s') :
    s'.Fresh := by
  have hclient := h tab
  unfold stepPass at hstep
  simp only at hstep
  split at hstep
  case h_1 cursor polled _ hcursor hpass =>
    have hpolled : polled.count ≤ s.jobs.rows.length :=
      hclient.counted _ (mem_versionsHeld_polled hpass rfl)
    split at hstep
    · -- a full refresh: every column is still to be fetched again
      obtain rfl := Option.some.inj hstep
      refine fresh_setClient h ⟨fun v hv => ?_, hclient.known, by simp, ?_, ?_⟩
      · simp only [Client.versionsHeld, Pass.polled, Option.toList_some, Option.bind_some,
          Option.toList_none, List.append_nil, List.mem_singleton] at hv
        exact hv ▸ hpolled
      · intro _ _ _ job _ _ column card hcolumn
        exact absurd (mem_officeColumnIds column) hcolumn
      · intro _ pass _ hsome
        obtain rfl := Option.some.inj hsome
        trivial
    · rename_i hmoved
      obtain rfl := Option.some.inj hstep
      have hlength := length_eq_of_not_topologyMoved (Bool.not_eq_true _ ▸ hmoved)
      have hle : cursor.count ≤ polled.count := hclient.passing _ _ hcursor hpass
      refine fresh_setClient h (fresh_pass hclient hcursor (by rw [hpass]; rfl) rfl ?_ ?_)
      · rintro v hv
        exact Option.some.inj hv ▸ hpolled
      · show polled.count = cursor.count
        omega
  case h_2 cursor polled _ hcursor hpass =>
    obtain rfl := Option.some.inj hstep
    refine fresh_setClient h (fresh_pass hclient hcursor (by rw [hpass]; rfl) rfl ?_ ?_)
    · rintro v hv
      exact Option.some.inj hv ▸ hclient.counted _ (mem_versionsHeld_polled hpass rfl)
    · exact visibleIds_fresh (hclient.passing _ _ hcursor hpass)
  case h_3 cursor polled visible _ hcursor hpass =>
    obtain rfl := Option.some.inj hstep
    refine fresh_setClient h (fresh_pass hclient hcursor (by rw [hpass]; rfl) rfl ?_ ?_)
    · rintro v hv
      exact Option.some.inj hv ▸ hclient.counted _ (mem_versionsHeld_polled hpass rfl)
    · exact removedIds_fresh (hclient.passing _ _ hcursor hpass)
  case h_4 cursor polled removed _ hcursor hpass =>
    obtain rfl := Option.some.inj hstep
    have hright := hclient.right cursor hcursor
    rw [hpass] at hright
    refine fresh_setClient h ⟨fun v hv => ?_, fun column card hholds => ?_, by simp, ?_, by simp⟩
    · simp only [Client.versionsHeld, Option.toList_some, Option.bind_none, Option.toList_none,
        List.append_nil, List.mem_singleton] at hv
      exact hv ▸ hclient.counted _ (mem_versionsHeld_polled hpass rfl)
    · rcases ColumnCache.holds_applyKanbanChanges hholds with ⟨hchanged, -⟩ | ⟨hold, -⟩
      · simp only [visibleJobs, changedJobs, List.mem_map, List.mem_filter] at hchanged
        obtain ⟨r, ⟨⟨hr, -⟩, -⟩, rfl⟩ := hchanged
        exact ⟨r, hr, rfl⟩
      · exact hclient.known column card hold
    · rintro cursor' hcursor'
      obtain rfl := Option.some.inj hcursor'
      exact settled_replay hright (hclient.passing _ _ hcursor hpass)
  case h_5 cursor column rest _ hcursor hpass =>
    obtain rfl := Option.some.inj hstep
    have hright := hclient.right cursor hcursor
    rw [hpass] at hright
    have hfetched : ∀ pass : Option Pass, (∀ p, pass = some p → p = .refetching rest) →
        (pass.map Pass.pendingColumns).getD [] = rest →
        Client.Fresh s.jobs { (s.clients tab).fetch s.jobs column with pass := pass } := by
      intro pass hrest hpending
      refine ⟨fun v hv => ?_, fun _ _ => known_fetch hclient, ?_, ?_, ?_⟩
      · simp only [Client.versionsHeld, Client.fetch, List.mem_append, Option.mem_toList] at hv
        rcases hv with hold | hnew
        · exact hclient.counted v (mem_versionsHeld_cursor hold)
        · cases pass with
          | none => cases hnew
          | some p => rw [hrest p rfl] at hnew; cases hnew
      · intro hnone
        exact absurd (hcursor.symm.trans hnone) (by simp)
      · intro cursor' hcursor' hlength job hjob hstamp
        obtain rfl : cursor = cursor' := Option.some.inj (hcursor.symm.trans hcursor')
        rw [hpending]
        exact holdsRight_fetch hjob (hright hlength job hjob hstamp)
      · intro cursor' p _ hsome
        rw [hrest p hsome]
        trivial
    refine fresh_setClient h (hfetched _ ?_ ?_)
    · intro p hp
      split at hp
      · cases hp
      · exact (Option.some.inj hp).symm
    · split
      · exact (‹rest = []›).symm
      · rfl
  case h_6 => cases hstep

theorem step_keeps_fresh {act : Act ι} (h : s.Fresh) (hafter : s.CommitsAfterReads act)
    (hstep : Feed.step s act = some s') : s'.Fresh := by
  cases act with
  | tick now | write tx job =>
      simp only [Feed.step] at hstep
      split at hstep
      · exact Option.some.inj hstep ▸ h
      · cases hstep
  | commit tx =>
      obtain rfl := Option.some.inj hstep
      exact fun client => (h client).commitRows fun v hv _ job hjob hfound =>
        hafter job hjob hfound client v hv
  | rollback tx => exact Option.some.inj hstep ▸ h
  | mount tab =>
      simp only [Feed.step] at hstep
      split at hstep
      · obtain rfl := Option.some.inj hstep
        exact fresh_setClient h (fresh_mount (h tab) ‹_›)
      · cases hstep
  | fetchColumn tab column =>
      simp only [Feed.step] at hstep
      split at hstep
      · cases hstep
      · obtain rfl := Option.some.inj hstep
        exact fresh_setClient h (fresh_fetch (h tab) ‹_› column)
  | readVersions tab => exact readVersions_keeps_fresh h hstep
  | readTopology tab => exact stepPass_keeps_fresh h hstep
  | readVisible tab => exact stepPass_keeps_fresh h hstep
  | readRemoved tab => exact stepPass_keeps_fresh h hstep
  | readJobs tab => exact stepPass_keeps_fresh h hstep
  | refetchColumn tab => exact stepPass_keeps_fresh h hstep
  | abandon tab =>
      simp only [Feed.step] at hstep
      have hclient := h tab
      split at hstep
      · cases hstep
      · rename_i hnot
        obtain rfl := Option.some.inj hstep
        have hpending : ((s.clients tab).pass.map Pass.pendingColumns).getD [] = [] := by
          cases hpass : (s.clients tab).pass with
          | none => rfl
          | some pass =>
              cases pass with
              | refetching columns => exact absurd hpass (hnot columns)
              | _ => rfl
        refine fresh_setClient h ⟨fun v hv => ?_, hclient.known, fun hnone => ?_, ?_, by simp⟩
        · simp only [Client.versionsHeld, Option.bind_none, Option.toList_none, List.append_nil,
            Option.mem_toList] at hv
          exact hclient.counted v (mem_versionsHeld_cursor hv)
        · exact ⟨rfl, (hclient.unread hnone).2⟩
        · intro cursor hcursor
          have hright := hclient.right cursor hcursor
          rwa [hpending] at hright

theorem fresh_of_run {acts : List (Act ι)} (hstart : s.Start)
    (hafter : Feed.step.AllMeet Feed.CommitsAfterReads s acts)
    (hrun : Feed.step.run s acts = some s') : s'.Fresh := by
  have hfresh : s.Fresh := by
    intro client
    rw [hstart.2 client]
    refine ⟨by simp [Client.versionsHeld, Client.new], ?_, fun _ => ⟨rfl, fun _ => rfl⟩,
      by simp [Client.new], by simp [Client.new]⟩
    rintro column card ⟨data, hdata, -⟩
    cases hdata
  exact Machine.run_keeps_of_meet (fun _ _ _ => step_keeps_fresh) hfresh hafter hrun

/-! ## One further poll -/

@[simp] lemma setClient_clients (s : Feed ι) (tab : ι) (next : Client) :
    (s.setClient tab next).clients tab = next := by
  simp [Feed.setClient]

@[simp] lemma setClient_jobs (s : Feed ι) (tab : ι) (next : Client) :
    (s.setClient tab next).jobs = s.jobs := rfl

variable (tab cursor) in
lemma run_refetch (columns : List OfficeColumnId) (hsome : (s.clients tab).cursor = some cursor)
    (hne : columns ≠ []) (hpass : (s.clients tab).pass = some (.refetching columns)) :
    ∃ t, Feed.step.run s (columns.map fun _ => .refetchColumn tab) = some t ∧ t.jobs = s.jobs ∧
      (t.clients tab).pass = none ∧ (t.clients tab).cursor = some cursor := by
  induction columns generalizing s with
  | nil => exact absurd rfl hne
  | cons column rest ih =>
      have hstep : Feed.step s (.refetchColumn tab) = some (s.setClient tab
          { (s.clients tab).fetch s.jobs column with
            pass := if rest = [] then none else some (.refetching rest) }) := by
        simp [Feed.step, stepPass, hsome, hpass]
      rw [List.map_cons, Machine.run_cons, hstep, Option.bind_some]
      by_cases hrest : rest = []
      · subst hrest
        exact ⟨_, rfl, rfl, by simp, by simpa [Client.fetch] using hsome⟩
      · have := ih (s := s.setClient tab { (s.clients tab).fetch s.jobs column with
            pass := if rest = [] then none else some (.refetching rest) })
          (by simpa [Client.fetch] using hsome) hrest (by simp [hrest])
        obtain ⟨t, hrun, hjobs, hdone, hcursor⟩ := this
        exact ⟨t, hrun, hjobs, hdone, hcursor⟩

lemma poll_ends (hidle : (s.clients tab).pass = none) (hsome : (s.clients tab).cursor = some cursor) :
    ∃ t, Feed.step.run s (s.poll tab) = some t ∧ t.jobs = s.jobs ∧ (t.clients tab).pass = none ∧
      (t.clients tab).cursor = some (kanbanVersion s.jobs) := by
  unfold Feed.poll
  simp only [hsome]
  by_cases hversion : kanbanVersion s.jobs = cursor
  · refine ⟨s, ?_, rfl, hidle, by rw [hsome, hversion]⟩
    simp [hversion, Machine.run_cons, Feed.step, readVersions, hsome, hidle]
  · rw [if_neg hversion]
    have hread : Feed.step s (.readVersions tab) = some (s.setClient tab
        { s.clients tab with pass := some (.versionsRead (kanbanVersion s.jobs)) }) := by
      simp [Feed.step, readVersions, hsome, hidle, hversion]
    by_cases hmoved : topologyMoved s.jobs cursor
    · rw [if_pos hmoved, Machine.run_append]
      simp only [Machine.run_cons, hread, Option.bind_some, Machine.run_nil]
      simp only [Feed.step, stepPass, setClient_clients, setClient_jobs, hsome, hmoved, if_true,
        Option.bind_some]
      obtain ⟨t, hrun, hjobs, hdone, hcursor⟩ := run_refetch
        (s := (s.setClient tab _).setClient tab
          { s.clients tab with
            cursor := some (kanbanVersion s.jobs)
            pass := some (.refetching officeColumnIds) })
        (kanbanVersion s.jobs) tab officeColumnIds (by simp) (by decide) (by simp)
      exact ⟨t, hrun, hjobs, hdone, hcursor⟩
    · rw [if_neg hmoved]
      simp only [Machine.run_cons, hread, Option.bind_some, Machine.run_nil]
      simp [Feed.step, stepPass, hsome, hmoved]

omit [DecidableEq ι] in
lemma current_of_fresh (h : s.Fresh) (hidle : (s.clients tab).pass = none)
    (hcursor : (s.clients tab).cursor = some (kanbanVersion s.jobs)) : s.Current tab := by
  intro column card hholds
  obtain ⟨job, hjob, hid⟩ := (h tab).known column card hholds
  have hright := (h tab).right _ hcursor rfl job hjob (le_latest hjob)
  rw [hidle] at hright
  obtain ⟨hcard, hcolumn⟩ := hright column card (by simp) hholds hid.symm
  exact ⟨job, hjob, hcard, hcolumn⟩

def inProgressJob (id : ℕ) (priority : ℚ) (updatedAt : ℤ) (card : String) : Job :=
  ⟨id, .inProgress, .ofRat priority, 0, updatedAt, card⟩

/-- A gate and a handrail in progress, and one tab that has read nothing. -/
def workshopBoard : Feed Unit where
  clock := 20
  jobs := ⟨[inProgressJob 1 200 10 "Gate", inProgressJob 2 400 20 "Handrail"], by decide⟩
  inFlight := []
  clients := fun _ => .new

/-- The tab opens; a write to the gate is stamped, a later one to the handrail is stamped and
commits, the tab polls, and then the write to the gate commits. -/
def lateCommit : List (Act Unit) :=
  [.mount (), .fetchColumn () .inProgress,
    .tick 100, .write 1 (inProgressJob 1 200 100 "Gate, powder coated"),
    .tick 200, .write 2 (inProgressJob 2 400 200 "Handrail, urgent"), .commit 2,
    .readVersions (), .readTopology (), .readVisible (), .readRemoved (), .readJobs (),
    .commit 1]

/-- The same writes, committed in the order they were stamped in. -/
def timelyCommits : List (Act Unit) :=
  [.mount (), .fetchColumn () .inProgress,
    .tick 100, .write 1 (inProgressJob 1 200 100 "Gate, powder coated"), .commit 1,
    .readVersions (),
    .tick 200, .write 2 (inProgressJob 2 400 200 "Handrail, urgent"), .commit 2,
    .readTopology (), .readVisible (), .readRemoved (), .readJobs ()]

def showsTheOldGate (s : Feed Unit) : Bool :=
  decide ((s.clients ()).columns .inProgress =
      some ⟨[serializeJobForApi (inProgressJob 2 400 200 "Handrail, urgent"),
        serializeJobForApi (inProgressJob 1 200 10 "Gate")], false⟩) &&
    decide (s.jobs.find? 1 = some (inProgressJob 1 200 100 "Gate, powder coated"))

lemma not_current_of_showsTheOldGate {s : Feed Unit} (h : showsTheOldGate s) : ¬ s.Current () := by
  simp only [showsTheOldGate, Bool.and_eq_true, decide_eq_true_eq] at h
  obtain ⟨hcolumn, hrow⟩ := h
  intro hcurrent
  obtain ⟨job, hjob, hcard, -⟩ := hcurrent .inProgress
    (serializeJobForApi (inProgressJob 1 200 10 "Gate")) ⟨_, hcolumn, by simp⟩
  have hid : job.id = 1 := (congrArg KanbanColumnJobOut.id hcard).symm
  have hfound := Table.find?_of_mem hjob
  rw [hid, hrow] at hfound
  have hold := congrArg KanbanColumnJobOut.card hcard
  rw [← Option.some.inj hfound] at hold
  exact absurd hold (by decide)

end Kanban

end Docketworks
