import Docketworks.Xero.SyncEngine

/-!
# What the Xero sync keeps up with

* `Mirrors` — every record of Xero is mirrored at its current version.
* `Covered` — the steps on which the sync loses nothing: a run starts from a cursor, or from an empty
  mirror; what Xero lists before a page was fetched by the run; every record of a page is written; a
  webhook does not write a version older than the row it finds.
* `Sound` — every record that is not mirrored is still ahead of the cursor.
* `sync_catches_up` — in a run whose steps are all covered, one complete incremental run after the last
  edit leaves every record mirrored.
-/

namespace Docketworks.Xero

open Library

/-! ## Keeping up -/

/-- The record is mirrored at this version. -/
def Mirrored (s : SyncState) (record : XeroRecord) : Bool :=
  (s.mirror.find? record.id).any fun row => row.record = record

/-- Every record of Xero is mirrored at its current version. -/
def Mirrors (s : SyncState) : Bool := s.xero.rows.all fun record => Mirrored s record

/-- The step changes what Xero holds. -/
def SyncAction.edits : SyncAction → Bool
  | .create _ _ | .edit _ _ _ => true
  | _ => false

/-- The step ends a run. -/
def SyncAction.ends : SyncAction → Bool
  | .finish | .abort => true
  | _ => false

/-- A schedule without edits in which an incremental run starts and finishes. -/
structure CompletesRun (as : List SyncAction) : Prop where
  quiet : ∀ a ∈ as, a.edits = false
  completes : ∃ before during after, as = before ++ .start none :: (during ++ .finish :: after) ∧
    ∀ a ∈ during, a.ends = false

/-- Invoices made two seconds apart, one more than a page. -/
def aPageAndOne : List XeroRecord := (List.range 101).map fun i => ⟨i, 2000 * i, false, "draft"⟩

/-- They are made, a run reads the first page, the first of them is edited, and the run reads on. -/
def editedBetweenPages : List SyncAction :=
  (aPageAndOne.flatMap fun record => [.create record.id record.payload, .tick 2000]) ++
    [.start none, .fetch aPageAndOne] ++ List.replicate 100 (.persist true) ++
    [.edit 0 "paid" false, .fetch (aPageAndOne.tail ++ [⟨0, 202000, false, "paid"⟩]), .persist true,
      .finish]

def oneMoreRun : List SyncAction :=
  [.start none, .fetch [⟨0, 202000, false, "paid"⟩], .persist true, .finish]

lemma oneMoreRun_completes : CompletesRun oneMoreRun :=
  ⟨by decide, [], [.fetch [⟨0, 202000, false, "paid"⟩], .persist true], [], rfl, by decide⟩

set_option maxRecDepth 10000 in
/-- The last invoice slipped off the second page, and no incremental run reads it again. -/
theorem sync_loses_update : CompletesRun oneMoreRun ∧
    ((syncSystem .invoices).run SyncState.fresh (editedBetweenPages ++ oneMoreRun)).any
      (fun s => !Mirrors s) = true :=
  ⟨oneMoreRun_completes, by decide +kernel⟩

/-- What a webhook fetched is written after a run has stored a newer version and read past it. -/
def deliveredLate : List SyncAction :=
  [.create 0 "draft", .create 1 "draft", .receive 0, .tick 5000, .edit 0 "paid" false, .tick 5000,
    .edit 1 "paid" false, .start none, .fetch [⟨0, 5000, false, "paid"⟩, ⟨1, 10000, false, "paid"⟩],
    .persist true, .persist true, .finish, .deliver 0]

/-- The older version stays. -/
example : ((syncSystem .invoices).run SyncState.fresh (deliveredLate ++
    [.start none, .fetch [⟨1, 10000, false, "paid"⟩], .persist true, .finish])).any
      (fun s => !Mirrors s) = true := by
  decide +kernel

/-! ## The steps that lose nothing -/

def SyncRun.nextKept (config : EntityConfig) (run : SyncRun) : Bool :=
  run.pending.head?.all fun record => !(config.skipsDeleted && record.deleted)

/-- A run starts from a cursor, or from an empty mirror; what Xero lists before a page was fetched by
the run as it is; every record of a page is written; a webhook does not write a version older than
the row it finds. -/
def Covered (config : EntityConfig) (s : SyncState) : SyncAction → Bool
  | .start none => s.cursor.isSome || s.mirror.rows.isEmpty
  | .fetch listing => s.run.all fun run =>
      !run.latest || (listing.take run.offset).all fun record => record ∈ run.fetched
  | .persist stored => stored && s.run.all (SyncRun.nextKept config)
  | .deliver i => (s.webhooks[i]?).all fun record =>
      (s.mirror.find? record.id).all fun row => row.record.updatedDateUtc ≤ record.updatedDateUtc
  | _ => true

/-! ## Versions -/

/-- A version of a record Xero holds: the current one, or one it held before. -/
def Past (xero : Table XeroRecord.id) (v : XeroRecord) : Prop :=
  ∃ c ∈ xero.rows, c.id = v.id ∧ (v = c ∨ v.updatedDateUtc < c.updatedDateUtc)

/-- Xero moves on: what is new is stamped now, and what is gone has a newer version. -/
structure Moved (now : ℕ) (xero xero' : Table XeroRecord.id) : Prop where
  new : ∀ c ∈ xero'.rows, c ∈ xero.rows ∨ c.updatedDateUtc = now
  old : ∀ c ∈ xero.rows, c ∈ xero'.rows ∨
    ∃ c' ∈ xero'.rows, c'.id = c.id ∧ c'.updatedDateUtc = now ∧ c.updatedDateUtc < now

section Versions

variable {xero xero' : Table XeroRecord.id} {now : ℕ} {c v : XeroRecord}

lemma past_of_mem (h : v ∈ xero.rows) : Past xero v := ⟨v, h, rfl, .inl rfl⟩

lemma Past.eq_or_lt (h : Past xero v) (hc : c ∈ xero.rows) (hid : c.id = v.id) :
    v = c ∨ v.updatedDateUtc < c.updatedDateUtc := by
  obtain ⟨c', hc', hid', hv⟩ := h
  rwa [Table.eq_of_key_eq hc hc' (hid.trans hid'.symm)]

lemma Past.le (h : Past xero v) (hc : c ∈ xero.rows) (hid : c.id = v.id) :
    v.updatedDateUtc ≤ c.updatedDateUtc := by
  rcases h.eq_or_lt hc hid with rfl | hlt
  · exact le_rfl
  · exact hlt.le

lemma Past.moved (h : Past xero v) (hmoved : Moved now xero xero') : Past xero' v := by
  obtain ⟨c, hc, hid, hv⟩ := h
  rcases hmoved.old c hc with hc' | ⟨c', hc', hid', hnow, hlt⟩
  · exact ⟨c, hc', hid, hv⟩
  · refine ⟨c', hc', hid'.trans hid, .inr ?_⟩
    rcases hv with rfl | hv
    · rwa [hnow]
    · rw [hnow]
      exact hv.trans hlt

lemma moved_insert {record : XeroRecord} (h : xero.insert? record = some xero') :
    Moved record.updatedDateUtc xero xero' where
  new c hc := ((Table.mem_insert? h).mp hc).imp_right fun heq => by rw [heq]
  old c hc := .inl ((Table.mem_insert? h).mpr (.inl hc))

lemma moved_put {record new : XeroRecord} (hfind : xero.find? new.id = some record)
    (hlt : record.updatedDateUtc < new.updatedDateUtc) :
    Moved new.updatedDateUtc xero (xero.put new) where
  new c hc := by
    rcases Table.mem_put.mp hc with ⟨hc, -⟩ | ⟨rfl, -⟩
    · exact .inl hc
    · exact .inr rfl
  old c hc := by
    by_cases hid : c.id = new.id
    · refine .inr ⟨new, Table.mem_put.mpr (.inr ⟨rfl, by rw [hfind]; rfl⟩), hid.symm, rfl, ?_⟩
      rwa [Table.eq_of_key_eq hc (Table.mem_of_find? hfind) (hid.trans (Table.key_of_find? hfind).symm)]
    · exact .inl (Table.mem_put.mpr (.inl ⟨hc, hid⟩))

end Versions

/-! ## What a run keeps -/

/-- The time is not ahead of the record's current version. -/
def Ahead (cursor : Option ℕ) (record : XeroRecord) : Prop :=
  ∀ t, cursor = some t → t ≤ record.updatedDateUtc

/-- What holds of a run under way. -/
structure RunSound (s : SyncState) (run : SyncRun) : Prop where
  since_le : run.since ≤ s.now
  past : ∀ v ∈ run.fetched, Past s.xero v
  pending_sub : run.pending ⊆ run.fetched
  /-- A record that is not mirrored is one the run asks for. -/
  behind : run.latest = true → ∀ c ∈ s.xero.rows, Mirrored s c = true ∨ run.since ≤ c.updatedDateUtc
  /-- A record changed since it was fetched is ahead of the run and of the cursor. -/
  changed : ∀ v ∈ run.fetched, v ∈ s.xero.rows ∨
    ∃ c ∈ s.xero.rows, c.id = v.id ∧ run.since ≤ c.updatedDateUtc ∧ Ahead s.cursor c
  /-- A current version that was fetched is mirrored, or still to be written. -/
  kept : ∀ v ∈ run.fetched, v ∈ s.xero.rows → Mirrored s v = true ∨ v ∈ run.pending
  /-- What is to be written is no older than what was fetched before it. -/
  newer : ∀ v ∈ run.fetched, ∀ u ∈ run.pending, v.id = u.id → v.updatedDateUtc ≤ u.updatedDateUtc
  /-- After the last page everything asked for was fetched, or changed since. -/
  read : run.latest = true → run.last = true → ∀ c ∈ s.xero.rows, run.since ≤ c.updatedDateUtc →
    c ∈ run.fetched ∨ ∀ v ∈ run.fetched, v.updatedDateUtc ≤ c.updatedDateUtc

/-- What holds in every state of a covered run. -/
structure Sound (s : SyncState) : Prop where
  stamped : ∀ c ∈ s.xero.rows, c.updatedDateUtc ≤ s.now
  cursor_le : ∀ t, s.cursor = some t → t ≤ s.now
  webhooks : ∀ v ∈ s.webhooks, Past s.xero v
  mirror : ∀ row ∈ s.mirror.rows, Past s.xero row.record
  /-- A record that is not mirrored is ahead of the cursor. -/
  behind : ∀ c ∈ s.xero.rows, Mirrored s c = true ∨ Ahead s.cursor c
  run : ∀ run, s.run = some run → RunSound s run

section Steps

variable {config : EntityConfig} {s s' : SyncState} {a : SyncAction} {run : SyncRun}
  {c u v : XeroRecord}

lemma mirrored_iff :
    Mirrored s c = true ↔ ∃ row, s.mirror.find? c.id = some row ∧ row.record = c := by
  cases hfind : s.mirror.find? c.id <;> simp [Mirrored, hfind]

/-! ### Xero moves on -/

lemma RunSound.moved {xero : Table XeroRecord.id} (h : RunSound s run) (hs : Sound s)
    (hmoved : Moved s.now s.xero xero) : RunSound { s with xero } run where
  since_le := h.since_le
  past v hv := (h.past v hv).moved hmoved
  pending_sub := h.pending_sub
  behind hlatest c hc := by
    rcases hmoved.new c hc with hc' | hnow
    · exact h.behind hlatest c hc'
    · exact .inr (hnow ▸ h.since_le)
  changed v hv := by
    have hahead : ∀ c, c.updatedDateUtc = s.now → run.since ≤ c.updatedDateUtc ∧ Ahead s.cursor c :=
      fun c hnow => ⟨hnow ▸ h.since_le, fun t ht => hnow ▸ hs.cursor_le t ht⟩
    rcases h.changed v hv with hcurrent | ⟨c, hc, hid, hsince, hcursor⟩
    · rcases hmoved.old v hcurrent with hv' | ⟨c, hc, hid, hnow, -⟩
      · exact .inl hv'
      · exact .inr ⟨c, hc, hid, hahead c hnow⟩
    · rcases hmoved.old c hc with hc' | ⟨c', hc', hid', hnow, -⟩
      · exact .inr ⟨c, hc', hid, hsince, hcursor⟩
      · exact .inr ⟨c', hc', hid'.trans hid, hahead c' hnow⟩
  kept v hv hcurrent := by
    rcases hmoved.new v hcurrent with hv' | hnow
    · exact h.kept v hv hv'
    · -- a fetched version stamped now is one Xero held before
      obtain ⟨c, hc, -, rfl | hlt⟩ := h.past v hv
      · exact h.kept v hv hc
      · exact absurd (hs.stamped c hc) (by omega)
  newer := h.newer
  read hlatest hlast c hc hsince := by
    rcases hmoved.new c hc with hc' | hnow
    · exact h.read hlatest hlast c hc' hsince
    · refine .inr fun v hv => ?_
      obtain ⟨c', hc', hid, -⟩ := h.past v hv
      exact ((h.past v hv).le hc' hid).trans (hnow ▸ hs.stamped c' hc')

/-- **An edit keeps the mirror sound.** -/
lemma Sound.moved {xero : Table XeroRecord.id} (h : Sound s) (hmoved : Moved s.now s.xero xero) :
    Sound { s with xero } where
  stamped c hc := by
    rcases hmoved.new c hc with hc' | hnow
    · exact h.stamped c hc'
    · exact hnow.le
  cursor_le := h.cursor_le
  webhooks v hv := (h.webhooks v hv).moved hmoved
  mirror row hrow := (h.mirror row hrow).moved hmoved
  behind c hc := by
    rcases hmoved.new c hc with hc' | hnow
    · exact h.behind c hc'
    · exact .inr fun t ht => hnow ▸ h.cursor_le t ht
  run r hr := (h.run r hr).moved h hmoved

/-! ### A row is written -/

lemma mirrored_upsert {row : MirrorRow} (hrow : row.record = u) :
    Mirrored { s with mirror := s.mirror.upsert row } c =
      if c.id = u.id then decide (u = c) else Mirrored s c := by
  have hkey : row.xeroId = u.id := congrArg XeroRecord.id hrow
  by_cases hid : c.id = u.id
  · rw [if_pos hid]
    simp only [Mirrored, hid, ← hkey, Table.find?_upsert_self, Option.any_some, hrow]
  · rw [if_neg hid]
    simp only [Mirrored, Table.find?_upsert_of_ne (hkey ▸ hid)]

lemma mem_upsert {row row' : MirrorRow} (h : row' ∈ (s.mirror.upsert row).rows) :
    row' = row ∨ row' ∈ s.mirror.rows := by
  have hfind := Table.find?_of_mem h
  by_cases hkey : row'.xeroId = row.xeroId
  · rw [hkey, Table.find?_upsert_self] at hfind
    exact .inl (Option.some.inj hfind).symm
  · rw [Table.find?_upsert_of_ne hkey] at hfind
    exact .inr (Table.mem_of_find? hfind)

/-- What makes it safe to write `u`: a current version it replaces is ahead of the cursor and the run,
and not one the run has already mirrored. -/
structure Writable (s : SyncState) (u : XeroRecord) : Prop where
  past : Past s.xero u
  ahead : ∀ c ∈ s.xero.rows, c.id = u.id → u = c ∨ Mirrored s c = false ∨
    Ahead s.cursor c ∧ ∀ run, s.run = some run → run.since ≤ c.updatedDateUtc
  fetched : ∀ run, s.run = some run → ∀ v ∈ run.fetched, v ∈ s.xero.rows → v.id = u.id →
    Mirrored s v = true → u = v

lemma Sound.write {row : MirrorRow} (h : Sound s) (hu : Writable s u) (hrow : row.record = u) :
    Sound { s with mirror := s.mirror.upsert row } where
  stamped := h.stamped
  cursor_le := h.cursor_le
  webhooks := h.webhooks
  mirror row' hrow' := by
    rcases mem_upsert hrow' with rfl | hmem
    · rw [hrow]
      exact hu.past
    · exact h.mirror row' hmem
  behind c hc := by
    rw [mirrored_upsert hrow]
    by_cases hid : c.id = u.id
    · rw [if_pos hid]
      rcases hu.ahead c hc hid with heq | hnot | ⟨hahead, -⟩
      · exact .inl (by simpa using heq)
      · exact .inr ((h.behind c hc).resolve_left (by simp [hnot]))
      · exact .inr hahead
    · rw [if_neg hid]
      exact h.behind c hc
  run r hr :=
    { h.run r hr with
      behind := fun hlatest c hc => by
        rw [mirrored_upsert hrow]
        by_cases hid : c.id = u.id
        · rw [if_pos hid]
          rcases hu.ahead c hc hid with heq | hnot | ⟨-, hsince⟩
          · exact .inl (by simpa using heq)
          · exact .inr (((h.run r hr).behind hlatest c hc).resolve_left (by simp [hnot]))
          · exact .inr (hsince r hr)
        · rw [if_neg hid]
          exact (h.run r hr).behind hlatest c hc
      kept := fun v hv hcurrent => by
        rw [mirrored_upsert hrow]
        rcases (h.run r hr).kept v hv hcurrent with hmirrored | hpending
        · by_cases hid : v.id = u.id
          · rw [if_pos hid]
            exact .inl (by simpa using hu.fetched r hr v hv hcurrent hid hmirrored)
          · rw [if_neg hid]
            exact .inl hmirrored
        · exact .inr hpending }

lemma writable_webhook (hpast : Past s.xero u)
    (hrow : ∀ row, s.mirror.find? u.id = some row → row.record.updatedDateUtc ≤ u.updatedDateUtc) :
    Writable s u := by
  have hnewest : ∀ c ∈ s.xero.rows, c.id = u.id → Mirrored s c = true → u = c := by
    intro c hc hid hmirrored
    obtain ⟨row, hfind, rfl⟩ := mirrored_iff.mp hmirrored
    rcases hpast.eq_or_lt hc hid with heq | hlt
    · exact heq
    · exact absurd (hrow row (hid ▸ hfind)) (by omega)
  refine ⟨hpast, fun c hc hid => ?_, fun _ _ v _ hcurrent hid => hnewest v hcurrent hid⟩
  by_cases hmirrored : Mirrored s c = true
  · exact .inl (hnewest c hc hid hmirrored)
  · exact .inr (.inl (by simpa using hmirrored))

lemma Sound.writable_pending {pending : List XeroRecord} (h : Sound s) (hrun : s.run = some run)
    (hpending : run.pending = u :: pending) : Writable s u := by
  have hr := h.run run hrun
  have hmem : u ∈ run.pending := by simp [hpending]
  have hpast := hr.past u (hr.pending_sub hmem)
  refine ⟨hpast, fun c hc hid => ?_, fun run' hrun' v hv hcurrent hid _ => ?_⟩
  · rcases hr.changed u (hr.pending_sub hmem) with hcurrent | ⟨c', hc', hid', hsince, hahead⟩
    · exact .inl (Table.eq_of_key_eq hcurrent hc hid.symm)
    · obtain rfl := Table.eq_of_key_eq hc hc' (hid.trans hid'.symm)
      refine .inr (.inr ⟨hahead, fun run' hrun' => ?_⟩)
      obtain rfl := Option.some.inj (hrun.symm.trans hrun')
      exact hsince
  · obtain rfl := Option.some.inj (hrun.symm.trans hrun')
    have hle := hr.newer v hv u hmem hid
    rcases hpast.eq_or_lt hcurrent hid with heq | hlt
    · exact heq
    · omega

/-! ### A run goes on -/

lemma RunSound.pop {pending : List XeroRecord} (h : RunSound s run)
    (hpending : run.pending = u :: pending) (hu : u ∈ s.xero.rows → Mirrored s u = true) :
    RunSound s { run with pending } :=
  { h with
    pending_sub := fun v hv => h.pending_sub (by simp [hpending, hv])
    kept := fun v hv hcurrent => by
      rcases h.kept v hv hcurrent with hmirrored | hmem
      · exact .inl hmirrored
      · rw [hpending] at hmem
        rcases List.mem_cons.mp hmem with rfl | hmem
        · exact .inl (hu hcurrent)
        · exact .inr hmem
    newer := fun v hv w hw => h.newer v hv w (by simp [hpending, hw]) }

lemma mem_pageOf {listing : List XeroRecord} (hlists : Lists config s run.since listing = true)
    (hv : v ∈ run.pageOf config listing) : v ∈ s.xero.rows ∧ run.since ≤ v.updatedDateUtc := by
  have hmem : v ∈ listing := by
    unfold SyncRun.pageOf at hv
    split at hv
    · exact List.mem_of_mem_drop (List.mem_of_mem_take hv)
    · exact hv
  have hperm : listing.Perm (modifiedSince s run.since) := by
    simpa using (Bool.and_eq_true_iff.mp hlists).1
  simpa [modifiedSince] using hperm.mem_iff.mp hmem

lemma fetched_of_last {listing : List XeroRecord} (hlists : Lists config s run.since listing = true)
    (hcovered : ∀ v ∈ listing.take run.offset, v ∈ run.fetched)
    (hlast : (run.read config (run.pageOf config listing)).last = true)
    (hc : c ∈ s.xero.rows) (hsince : run.since ≤ c.updatedDateUtc) :
    c ∈ run.fetched ++ run.pageOf config listing := by
  have hperm : listing.Perm (modifiedSince s run.since) := by
    simpa using (Bool.and_eq_true_iff.mp hlists).1
  have hmem : c ∈ listing := hperm.mem_iff.mpr (by simp [modifiedSince, hc, hsince])
  rw [List.mem_append]
  by_cases hpaged : config.paged = true
  · rw [← List.take_append_drop run.offset listing, List.mem_append] at hmem
    rcases hmem with hmem | hmem
    · exact .inl (hcovered c hmem)
    · -- a short page is the whole rest of the listing
      have hshort : ((listing.drop run.offset).take pageSize).length < pageSize := by
        simpa [SyncRun.read, SyncRun.pageOf, hpaged] using hlast
      have hle : (listing.drop run.offset).length ≤ pageSize := by
        rw [List.length_take] at hshort
        omega
      refine .inr ?_
      simpa [SyncRun.pageOf, hpaged, List.take_of_length_le hle] using hmem
  · exact .inr (by simpa [SyncRun.pageOf, hpaged] using hmem)

lemma RunSound.read_page {listing : List XeroRecord} (h : RunSound s run) (hpending : run.pending = [])
    (hlists : Lists config s run.since listing = true)
    (hcovered : run.latest = true → ∀ v ∈ listing.take run.offset, v ∈ run.fetched) :
    RunSound s (run.read config (run.pageOf config listing)) where
  since_le := h.since_le
  past v hv := by
    rcases List.mem_append.mp hv with hv | hv
    · exact h.past v hv
    · exact past_of_mem (mem_pageOf hlists hv).1
  pending_sub := List.subset_append_right _ _
  behind := h.behind
  changed v hv := by
    rcases List.mem_append.mp hv with hv | hv
    · exact h.changed v hv
    · exact .inl (mem_pageOf hlists hv).1
  kept v hv hcurrent := by
    rcases List.mem_append.mp hv with hv | hv
    · refine .inl ((h.kept v hv hcurrent).resolve_right ?_)
      simp [hpending]
    · exact .inr hv
  newer v hv u hu hid := by
    have hcurrent := (mem_pageOf hlists hu).1
    rcases List.mem_append.mp hv with hv | hv
    · exact (h.past v hv).le hcurrent hid.symm
    · exact (past_of_mem (mem_pageOf hlists hv).1).le hcurrent hid.symm
  read hlatest hlast c hc hsince := .inl (fetched_of_last hlists (hcovered hlatest) hlast hc hsince)

/-- **A run that has read and written everything leaves what is not mirrored ahead of its cursor.** -/
lemma RunSound.ahead_nextCursor (h : RunSound s run) (hs : Sound s) (hpending : run.pending = [])
    (hlast : run.last = true) (hc : c ∈ s.xero.rows) (hnot : Mirrored s c = false) :
    Ahead (run.nextCursor s.cursor) c := by
  have hahead : Ahead s.cursor c := (hs.behind c hc).resolve_left (by simp [hnot])
  intro t ht
  unfold SyncRun.nextCursor at ht
  split at ht
  · rename_i hlatest
    cases hmax : run.maxUpdatedDateUtc with
    | none => exact hahead t (by simpa [hmax] using ht)
    | some newest =>
        obtain rfl : newest = t := by simpa [hmax] using ht
        have hsince : run.since ≤ c.updatedDateUtc :=
          (h.behind hlatest c hc).resolve_left (by simp [hnot])
        rcases h.read hlatest hlast c hc hsince with hfetched | hle
        · have hkept := h.kept c hfetched hc
          simp [hnot, hpending] at hkept
        · have hmem := List.max?_mem hmax
          obtain ⟨v, hv, rfl⟩ := List.mem_map.mp hmem
          exact hle v hv
  · exact hahead t ht

lemma nextCursor_le (h : RunSound s run) (hs : Sound s) {t : ℕ}
    (ht : run.nextCursor s.cursor = some t) : t ≤ s.now := by
  unfold SyncRun.nextCursor at ht
  split at ht
  · cases hmax : run.maxUpdatedDateUtc with
    | none => exact hs.cursor_le t (by simpa [hmax] using ht)
    | some newest =>
        obtain rfl : newest = t := by simpa [hmax] using ht
        obtain ⟨v, hv, rfl⟩ := List.mem_map.mp (List.max?_mem hmax)
        obtain ⟨c, hc, hid, -⟩ := h.past v hv
        exact ((h.past v hv).le hc hid).trans (hs.stamped c hc)
  · exact hs.cursor_le t ht

lemma since_startOf (hs : Sound s) {back : Option ℕ} (hcovered : Covered config s (.start back) = true) :
    (startOf s back).since ≤ s.now ∧
      (back = none → ∀ c, Ahead s.cursor c → (startOf s back).since ≤ c.updatedDateUtc) := by
  cases back with
  | some ms => exact ⟨Nat.sub_le _ _, nofun⟩
  | none =>
      cases hcursor : s.cursor with
      | some t =>
          have hle := hs.cursor_le t hcursor
          simp only [startOf, getSyncCursor, hcursor]
          refine ⟨by omega, fun _ c hahead => ?_⟩
          have := hahead t rfl
          omega
      | none =>
          have hempty : s.mirror.rows = [] := by simpa [Covered, hcursor] using hcovered
          simp [startOf, getSyncCursor, hcursor, getLastModifiedTime, hempty]

lemma runSound_startOf (hs : Sound s) {back : Option ℕ}
    (hcovered : Covered config s (.start back) = true) : RunSound s (startOf s back) where
  since_le := (since_startOf hs hcovered).1
  past _ hv := absurd hv List.not_mem_nil
  pending_sub := List.Subset.refl _
  behind hlatest c hc :=
    (hs.behind c hc).imp_right ((since_startOf hs hcovered).2 (by simpa [startOf] using hlatest) c)
  changed _ hv := absurd hv List.not_mem_nil
  kept _ hv := absurd hv List.not_mem_nil
  newer _ hv := absurd hv List.not_mem_nil
  read _ hlast := absurd hlast (by simp [startOf])

/-- **What one covered step preserves.** -/
theorem sound_step (h : Sound s) (hcovered : Covered config s a = true)
    (hstep : syncSystem config s a = some s') : Sound s' := by
  cases a with
  | tick ms =>
      obtain rfl := Option.some.inj hstep
      exact
        { h with
          stamped := fun c hc => (h.stamped c hc).trans (Nat.le_add_right _ _)
          cursor_le := fun t ht => (h.cursor_le t ht).trans (Nat.le_add_right _ _)
          run := fun r hr =>
            { h.run r hr with since_le := (h.run r hr).since_le.trans (Nat.le_add_right _ _) } }
  | create id payload =>
      obtain ⟨xero, hxero, rfl⟩ := create_eq_some hstep
      exact h.moved (moved_insert hxero)
  | edit id payload deleted =>
      obtain ⟨record, hfind, hlt, rfl⟩ := edit_eq_some hstep
      exact h.moved (@moved_put _ _ ⟨id, s.now, deleted, payload⟩ hfind hlt)
  | start back =>
      obtain ⟨-, rfl⟩ := start_eq_some hstep
      refine { h with run := fun r hr => ?_ }
      obtain rfl := Option.some.inj hr
      exact { runSound_startOf h hcovered with }
  | fetch listing =>
      obtain ⟨run, hrun, hpending, -, hlists, rfl⟩ := fetch_eq_some hstep
      have hread : run.latest = true → ∀ v ∈ listing.take run.offset, v ∈ run.fetched := by
        intro hlatest
        simpa [Covered, hrun, hlatest] using hcovered
      refine { h with run := fun r hr => ?_ }
      obtain rfl := Option.some.inj hr
      exact { (h.run run hrun).read_page hpending hlists hread with }
  | persist stored =>
      obtain ⟨run, record, pending, hrun, hpending, rfl⟩ := persist_eq_some hstep
      have hwrite : persist config s record stored = s.mirror.upsert (rowOf record) := by
        simp only [Covered, hrun, SyncRun.nextKept, hpending, Option.all_some, List.head?_cons,
          Bool.and_eq_true] at hcovered
        simp [persist, hcovered.1, hcovered.2]
      have hwritten := @Sound.write _ _ (rowOf record) h (h.writable_pending hrun hpending) rfl
      rw [hwrite]
      refine { hwritten with run := fun r hr => ?_ }
      obtain rfl := Option.some.inj hr
      refine { (hwritten.run run hrun).pop hpending fun _ => ?_ with }
      rw [mirrored_upsert rfl]
      simp [rowOf]
  | finish =>
      obtain ⟨run, hrun, hpending, hlast, rfl⟩ := finish_eq_some hstep
      exact
        { h with
          cursor_le := fun t ht => nextCursor_le (h.run run hrun) h ht
          behind := fun c hc => by
            by_cases hmirrored : Mirrored s c = true
            · exact .inl hmirrored
            · exact .inr ((h.run run hrun).ahead_nextCursor h hpending hlast hc (by simpa using hmirrored))
          run := fun _ => nofun }
  | abort =>
      obtain rfl := abort_eq_some hstep
      exact { h with run := fun _ => nofun }
  | receive id =>
      obtain ⟨record, hfind, rfl⟩ := receive_eq_some hstep
      refine { h with webhooks := fun v hv => ?_, run := fun r hr => { h.run r hr with } }
      rcases List.mem_append.mp hv with hv | hv
      · exact h.webhooks v hv
      · rw [List.mem_singleton.mp hv]
        exact past_of_mem (Table.mem_of_find? hfind)
  | deliver i =>
      obtain ⟨record, hrecord, rfl⟩ := deliver_eq_some hstep
      have hpast := h.webhooks record (List.mem_of_getElem? hrecord)
      have hrow : ∀ row, s.mirror.find? record.id = some row →
          row.record.updatedDateUtc ≤ record.updatedDateUtc := by
        intro row hfind
        simpa [Covered, hrecord, hfind] using hcovered
      have hwritten := @Sound.write _ _ (rowOf record) h (writable_webhook hpast hrow) rfl
      exact
        { hwritten with
          webhooks := fun v hv => h.webhooks v (List.mem_of_mem_eraseIdx hv)
          run := fun r hr => { hwritten.run r hr with } }

/-! ### One complete run -/

/-- An incremental run is under way that, once it has read its last page, has fetched every current
version it asked for. -/
def ReadsAll (s : SyncState) : Prop :=
  ∃ run, s.run = some run ∧ run.latest = true ∧ (run.last = true →
    ∀ c ∈ s.xero.rows, run.since ≤ c.updatedDateUtc → c ∈ run.fetched)

/-- Every record is mirrored, and a run under way holds current versions only. -/
def UpToDate (s : SyncState) : Prop :=
  (∀ c ∈ s.xero.rows, Mirrored s c = true) ∧
    ∀ run, s.run = some run → ∀ v ∈ run.fetched, v ∈ s.xero.rows

lemma readsAll_step (hreads : ReadsAll s) (hcovered : Covered config s a = true)
    (hquiet : a.edits = false) (hgoes : a.ends = false) (hstep : syncSystem config s a = some s') :
    ReadsAll s' := by
  obtain ⟨run, hrun, hlatest, hread⟩ := hreads
  cases a with
  | tick ms =>
      obtain rfl := Option.some.inj hstep
      exact ⟨run, hrun, hlatest, hread⟩
  | create id payload => cases hquiet
  | edit id payload deleted => cases hquiet
  | start back =>
      obtain ⟨hnone, -⟩ := start_eq_some hstep
      rw [hrun] at hnone
      cases hnone
  | fetch listing =>
      obtain ⟨run', hrun', -, -, hlists, rfl⟩ := fetch_eq_some hstep
      obtain rfl := Option.some.inj (hrun.symm.trans hrun')
      refine ⟨_, rfl, hlatest, fun hlast c hc hsince => ?_⟩
      exact fetched_of_last hlists (by simpa [Covered, hrun, hlatest] using hcovered) hlast hc hsince
  | persist stored =>
      obtain ⟨run', record, pending, hrun', -, rfl⟩ := persist_eq_some hstep
      obtain rfl := Option.some.inj (hrun.symm.trans hrun')
      exact ⟨_, rfl, hlatest, hread⟩
  | finish => cases hgoes
  | abort => cases hgoes
  | receive id =>
      obtain ⟨record, -, rfl⟩ := receive_eq_some hstep
      exact ⟨run, hrun, hlatest, hread⟩
  | deliver i =>
      obtain ⟨record, -, rfl⟩ := deliver_eq_some hstep
      exact ⟨run, hrun, hlatest, hread⟩

lemma upToDate_of_finish (h : Sound s) (hreads : ReadsAll s)
    (hstep : syncSystem config s .finish = some s') : UpToDate s' := by
  obtain ⟨run, hrun, hlatest, hread⟩ := hreads
  obtain ⟨run', hrun', hpending, hlast, rfl⟩ := finish_eq_some hstep
  obtain rfl := Option.some.inj (hrun.symm.trans hrun')
  have hsound := h.run run hrun
  refine ⟨fun c hc => ?_, fun _ => nofun⟩
  rcases hsound.behind hlatest c hc with hmirrored | hsince
  · exact hmirrored
  · exact (hsound.kept c (hread hlast c hc hsince) hc).resolve_right (by simp [hpending])

lemma UpToDate.write {row : MirrorRow} (h : UpToDate s) (hu : ∀ c ∈ s.xero.rows, c.id = u.id → u = c)
    (hrow : row.record = u) : UpToDate { s with mirror := s.mirror.upsert row } := by
  refine ⟨fun c hc => ?_, h.2⟩
  rw [mirrored_upsert hrow]
  by_cases hid : c.id = u.id
  · simpa [hid] using hu c hc hid
  · rw [if_neg hid]
    exact h.1 c hc

lemma upToDate_step (h : Sound s) (hdate : UpToDate s) (hcovered : Covered config s a = true)
    (hquiet : a.edits = false) (hstep : syncSystem config s a = some s') : UpToDate s' := by
  cases a with
  | tick ms =>
      obtain rfl := Option.some.inj hstep
      exact hdate
  | create id payload => cases hquiet
  | edit id payload deleted => cases hquiet
  | start back =>
      obtain ⟨-, rfl⟩ := start_eq_some hstep
      refine ⟨hdate.1, fun r hr v hv => ?_⟩
      obtain rfl := Option.some.inj hr
      exact absurd hv List.not_mem_nil
  | fetch listing =>
      obtain ⟨run, hrun, -, -, hlists, rfl⟩ := fetch_eq_some hstep
      refine ⟨hdate.1, fun r hr v hv => ?_⟩
      obtain rfl := Option.some.inj hr
      rcases List.mem_append.mp hv with hv | hv
      · exact hdate.2 run hrun v hv
      · exact (mem_pageOf hlists hv).1
  | persist stored =>
      obtain ⟨run, record, pending, hrun, hpending, rfl⟩ := persist_eq_some hstep
      have hcurrent : record ∈ s.xero.rows :=
        hdate.2 run hrun record ((h.run run hrun).pending_sub (by simp [hpending]))
      have hwritten : UpToDate { s with mirror := persist config s record stored } := by
        unfold persist
        split
        · exact hdate.write (fun c hc hid => Table.eq_of_key_eq hcurrent hc hid.symm) rfl
        · exact hdate
      refine ⟨hwritten.1, fun r hr v hv => ?_⟩
      obtain rfl := Option.some.inj hr
      exact hdate.2 run hrun v hv
  | finish =>
      obtain ⟨run, -, -, -, rfl⟩ := finish_eq_some hstep
      exact ⟨hdate.1, fun _ => nofun⟩
  | abort =>
      obtain rfl := abort_eq_some hstep
      exact ⟨hdate.1, fun _ => nofun⟩
  | receive id =>
      obtain ⟨record, -, rfl⟩ := receive_eq_some hstep
      exact hdate
  | deliver i =>
      obtain ⟨record, hrecord, rfl⟩ := deliver_eq_some hstep
      have hpast := h.webhooks record (List.mem_of_getElem? hrecord)
      refine (@UpToDate.write _ record (rowOf record) hdate (fun c hc hid => ?_) rfl :
        UpToDate _)
      obtain ⟨row, hfind, rfl⟩ := mirrored_iff.mp (hdate.1 c hc)
      rcases hpast.eq_or_lt hc hid with heq | hlt
      · exact heq
      · have hle : row.record.updatedDateUtc ≤ record.updatedDateUtc := by
          rw [hid] at hfind
          simpa [Covered, hrecord, hfind] using hcovered
        omega

lemma sound_fresh : Sound SyncState.fresh where
  stamped _ hc := absurd hc List.not_mem_nil
  cursor_le _ := nofun
  webhooks _ hv := absurd hv List.not_mem_nil
  mirror _ hrow := absurd hrow List.not_mem_nil
  behind _ hc := absurd hc List.not_mem_nil
  run _ := nofun

end Steps

/-! ## Every run -/

section Runs

variable {config : EntityConfig} {s t : SyncState} {as : List SyncAction}

lemma sound_run (h : Sound s) (hmeet : (syncSystem config).AllMeet (fun s a => Covered config s a = true) s as)
    (hrun : (syncSystem config).run s as = some t) : Sound t :=
  Machine.run_keeps_of_meet (fun _ _ _ hs hC hstep => sound_step hs hC hstep) h hmeet hrun

lemma readsAll_run (h : Sound s) (hreads : ReadsAll s)
    (hmeet : (syncSystem config).AllMeet (fun s a => Covered config s a = true) s as)
    (hquiet : ∀ a ∈ as, a.edits = false ∧ a.ends = false)
    (hrun : (syncSystem config).run s as = some t) : Sound t ∧ ReadsAll t :=
  Machine.run_keeps_of_meet (I := fun s => Sound s ∧ ReadsAll s)
    (fun _ _ _ hs hC hstep => ⟨sound_step hs.1 hC.1 hstep,
      readsAll_step hs.2 hC.1 hC.2.1 hC.2.2 hstep⟩) ⟨h, hreads⟩ (hmeet.and_mem hquiet) hrun

lemma upToDate_run (h : Sound s) (hdate : UpToDate s)
    (hmeet : (syncSystem config).AllMeet (fun s a => Covered config s a = true) s as)
    (hquiet : ∀ a ∈ as, a.edits = false)
    (hrun : (syncSystem config).run s as = some t) : Sound t ∧ UpToDate t :=
  Machine.run_keeps_of_meet (I := fun s => Sound s ∧ UpToDate s)
    (fun _ _ _ hs hC hstep => ⟨sound_step hs.1 hC.1 hstep,
      upToDate_step hs.1 hs.2 hC.1 hC.2 hstep⟩) ⟨h, hdate⟩ (hmeet.and_mem hquiet) hrun

/-- **The sync loses no update.**  In every run of edits, fetches, writes and webhooks whose steps are all
covered, one complete incremental run after the last edit leaves every record of Xero mirrored at its
current version. -/
theorem sync_catches_up (config : EntityConfig) (as bs : List SyncAction)
    (hmeet : (syncSystem config).AllMeet (fun s a => Covered config s a = true) SyncState.fresh (as ++ bs))
    (hrun : (syncSystem config).run SyncState.fresh (as ++ bs) = some t) (hbs : CompletesRun bs) :
    Mirrors t = true := by
  obtain ⟨before, during, after, rfl, hgoes⟩ := hbs.completes
  have hquiet := hbs.quiet
  obtain ⟨s₁, hs₁, hrest⟩ := Machine.run_append_eq_some.mp hrun
  have hmeet₁ := hmeet.of_append.2 s₁ hs₁
  have hsound₁ := sound_run sound_fresh hmeet.of_append.1 hs₁
  obtain ⟨s₂, hs₂, hrest⟩ := Machine.run_append_eq_some.mp hrest
  have hmeet₂ := hmeet₁.of_append.2 s₂ hs₂
  have hsound₂ := sound_run hsound₁ hmeet₁.of_append.1 hs₂
  -- the run starts
  obtain ⟨s₃, hs₃, hrest⟩ := Machine.run_cons_eq_some.mp hrest
  have hmeet₃ := hmeet₂.2 s₃ hs₃
  have hsound₃ := sound_step hsound₂ hmeet₂.1 hs₃
  have hreads₃ : ReadsAll s₃ := by
    obtain ⟨-, rfl⟩ := start_eq_some hs₃
    exact ⟨_, rfl, rfl, nofun⟩
  obtain ⟨s₄, hs₄, hrest⟩ := Machine.run_append_eq_some.mp hrest
  have hmeet₄ := hmeet₃.of_append.2 s₄ hs₄
  obtain ⟨hsound₄, hreads₄⟩ := readsAll_run hsound₃ hreads₃ hmeet₃.of_append.1
    (fun a ha => ⟨hquiet a (by simp [ha]), hgoes a ha⟩) hs₄
  -- and finishes
  obtain ⟨s₅, hs₅, hrest⟩ := Machine.run_cons_eq_some.mp hrest
  have hsound₅ := sound_step hsound₄ hmeet₄.1 hs₅
  have hdate := (upToDate_run hsound₅ (upToDate_of_finish hsound₄ hreads₄ hs₅) (hmeet₄.2 s₅ hs₅)
    (fun a ha => hquiet a (by simp [ha])) hrest).2
  simpa [Mirrors] using hdate.1

/-- A webhook writes an invoice, a run reads two, one is edited while the run writes, and one more run
completes. -/
def caughtUp : List SyncAction :=
  [.create 0 "draft", .start none, .fetch [⟨0, 0, false, "draft"⟩], .persist true, .finish, .tick 5000,
    .create 1 "draft", .start none, .fetch [⟨0, 0, false, "draft"⟩, ⟨1, 5000, false, "draft"⟩],
    .tick 5000, .edit 1 "paid" false, .receive 1, .deliver 0, .persist true, .persist true, .finish]

theorem sync_catches_up_caughtUp :
    ((syncSystem .invoices).run SyncState.fresh (caughtUp ++
      [.start none, .fetch [⟨1, 10000, false, "paid"⟩], .persist true, .finish])).any Mirrors = true := by
  obtain ⟨t, ht⟩ := Option.isSome_iff_exists.mp (show
    ((syncSystem .invoices).run SyncState.fresh (caughtUp ++
      [.start none, .fetch [⟨1, 10000, false, "paid"⟩], .persist true, .finish])).isSome = true by
      decide +kernel)
  have hmeet : (syncSystem .invoices).AllMeet (fun s a => Covered .invoices s a = true) SyncState.fresh
      (caughtUp ++ [.start none, .fetch [⟨1, 10000, false, "paid"⟩], .persist true, .finish]) := by
    decide +kernel
  rw [ht]
  exact sync_catches_up .invoices _ _ hmeet ht ⟨by decide, [],
    [.fetch [⟨1, 10000, false, "paid"⟩], .persist true], [], rfl, by decide⟩

end Runs

end Docketworks.Xero
