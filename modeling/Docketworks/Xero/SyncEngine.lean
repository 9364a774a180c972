import Docketworks.Library.Machine
import Docketworks.Library.Table

/-!
# The Xero sync of one entity

`apps/xero/sync.py` for one entry of `ENTITY_CONFIGS`, and the webhook's `sync_single_*` of
`apps/xero/single_sync.py` beside it.

* `EntityConfig` — what the engine does differently from entity to entity.
* `getSyncCursor` — where an incremental run starts reading.
* `SyncRun` — a run under way: the page it reads next, what it has fetched and what of the page it has
  not written yet.
* `syncSystem` — the interleavings of edits made in Xero, of a run's fetches and writes, and of webhooks.

**Representation.**  Times are milliseconds since `2000-01-01T00:00:00Z`, the earliest time a run asks
for.  A record's content is its payload; a mirror row keeps the record it was written from, as
`raw_json` does.  What Xero lists is given with the fetch, as any order of the records modified since
the run's start, ascending by `UpdatedDateUTC` where the engine asks for that order: how Xero breaks
ties is its own affair.  One run at a time: the dispatcher's lock holds.
-/

namespace Docketworks.Xero

open Library

/-! ## Records and rows -/

structure XeroRecord where
  id : ℕ
  updatedDateUtc : ℕ
  deleted : Bool
  payload : String
deriving DecidableEq, Repr

structure MirrorRow where
  record : XeroRecord
  xeroLastModified : ℕ
deriving DecidableEq, Repr

def MirrorRow.xeroId (row : MirrorRow) : ℕ := row.record.id

/-- An entry of `ENTITY_CONFIGS`, as far as the engine reads it. -/
structure EntityConfig where
  /-- `pagination_mode == "page"`. -/
  paged : Bool
  /-- The call asks for `order: UpdatedDateUTC ASC`. -/
  ordered : Bool
  /-- `sync_entities` passes over a deleted document. -/
  skipsDeleted : Bool
deriving DecidableEq, Repr

namespace EntityConfig

def contacts : EntityConfig := ⟨true, true, false⟩

def invoices : EntityConfig := ⟨true, true, true⟩

def bills : EntityConfig := invoices

def creditNotes : EntityConfig := invoices

def purchaseOrders : EntityConfig := invoices

/-- `get_quotes` takes neither `page_size` nor `order`, and a quote's status is an enumeration, which is
never the text `DELETED`. -/
def quotes : EntityConfig := ⟨true, false, false⟩

def accounts : EntityConfig := ⟨false, false, false⟩

/-- An item has no status. -/
def stock : EntityConfig := ⟨false, false, false⟩

end EntityConfig

def pageSize : ℕ := 100

/-! ## The state -/

/-- A run of `sync_xero_data`. -/
structure SyncRun where
  /-- An incremental run, which moves the cursor; a deep one does not. -/
  latest : Bool
  /-- `if_modified_since`. -/
  since : ℕ
  page : ℕ
  fetched : List XeroRecord
  pending : List XeroRecord
  last : Bool
deriving DecidableEq

/-- Xero, the mirror, and what is under way. -/
structure SyncState where
  now : ℕ
  xero : Table XeroRecord.id
  mirror : Table MirrorRow.xeroId
  cursor : Option ℕ
  run : Option SyncRun
  /-- The records webhooks have fetched and not written yet. -/
  webhooks : List XeroRecord

/-- Before anything was synced. -/
def SyncState.fresh : SyncState where
  now := 0
  xero := Table.empty
  mirror := Table.empty
  cursor := none
  run := none
  webhooks := []

/-- `get_last_modified_time`: the high-water mark of the mirror, less a second. -/
def getLastModifiedTime (mirror : Table MirrorRow.xeroId) : ℕ :=
  match (mirror.rows.map MirrorRow.xeroLastModified).max? with
  | some lastModified => lastModified - 1000
  | none => 0

/-- `get_sync_cursor`: the cursor, less a second of overlap. -/
def getSyncCursor (s : SyncState) : ℕ :=
  match s.cursor with
  | none => getLastModifiedTime s.mirror
  | some lastModified => lastModified - 1000

/-- A run of `sync_all_xero_data` before its first page: incremental, or looking back some time. -/
def startOf (s : SyncState) (back : Option ℕ) : SyncRun where
  latest := back.isNone
  since :=
    match back with
    | none => getSyncCursor s
    | some ms => s.now - ms
  page := 0
  fetched := []
  pending := []
  last := false

/-- What Xero answers a call with `if_modified_since`. -/
def modifiedSince (s : SyncState) (since : ℕ) : List XeroRecord :=
  s.xero.rows.filter fun record => since ≤ record.updatedDateUtc

/-- An order Xero may list the records in. -/
def Lists (config : EntityConfig) (s : SyncState) (since : ℕ) (listing : List XeroRecord) : Bool :=
  listing.Perm (modifiedSince s since) &&
    (!config.ordered || listing.Pairwise fun r r' => r.updatedDateUtc ≤ r'.updatedDateUtc)

/-- The records before the page a run reads next. -/
def SyncRun.offset (run : SyncRun) : ℕ := run.page * pageSize

def SyncRun.pageOf (config : EntityConfig) (run : SyncRun) (listing : List XeroRecord) :
    List XeroRecord :=
  if config.paged then (listing.drop run.offset).take pageSize else listing

/-- The run after it reads a page: a short one, or the only one, is the last. -/
def SyncRun.read (config : EntityConfig) (run : SyncRun) (items : List XeroRecord) : SyncRun :=
  { run with
    page := run.page + 1
    fetched := run.fetched ++ items
    pending := items
    last := items.length < pageSize || !config.paged }

def SyncRun.maxUpdatedDateUtc (run : SyncRun) : Option ℕ :=
  (run.fetched.map XeroRecord.updatedDateUtc).max?

/-- The row written from a record. -/
def rowOf (record : XeroRecord) : MirrorRow where
  record
  xeroLastModified := record.updatedDateUtc

/-- A run writes one record of its page, or passes it over: a deleted document is skipped, and one whose
transform raises, or that a finished test run made, leaves the mirror as it is. -/
def persist (config : EntityConfig) (s : SyncState) (record : XeroRecord) (stored : Bool) :
    Table MirrorRow.xeroId :=
  if stored && !(config.skipsDeleted && record.deleted) then s.mirror.upsert (rowOf record)
  else s.mirror

/-- `update_sync_cursor`, where the run is incremental and anything was fetched. -/
def SyncRun.nextCursor (run : SyncRun) (cursor : Option ℕ) : Option ℕ :=
  if run.latest then run.maxUpdatedDateUtc.or cursor else cursor

/-! ## The steps -/

/-- The steps. -/
inductive SyncAction where
  | tick (ms : ℕ)
  | create (id : ℕ) (payload : String)
  | edit (id : ℕ) (payload : String) (deleted : Bool)
  /-- A run starts: an incremental one, or one that looks back some time. -/
  | start (back : Option ℕ)
  /-- The run fetches its next page of what Xero lists. -/
  | fetch (listing : List XeroRecord)
  | persist (stored : Bool)
  /-- The run ends and its cursor is stored. -/
  | finish
  /-- The run is aborted: the day's quota, an exception, a lost worker. -/
  | abort
  | receive (id : ℕ)
  /-- A webhook's task writes the record it fetched. -/
  | deliver (webhook : ℕ)
deriving DecidableEq

def syncSystem (config : EntityConfig) : Machine SyncState SyncAction := fun s a =>
  match a with
  | .tick ms => some { s with now := s.now + ms }
  | .create id payload =>
      (s.xero.insert? ⟨id, s.now, false, payload⟩).map fun xero => { s with xero }
  | .edit id payload deleted =>
      match s.xero.find? id with
      | none => none
      | some record =>
          if record.updatedDateUtc < s.now then
            some { s with xero := s.xero.put ⟨id, s.now, deleted, payload⟩ }
          else none
  | .start back =>
      match s.run with
      | some _ => none
      | none =>
          some { s with run := some (startOf s back) }
  | .fetch listing =>
      match s.run with
      | none => none
      | some run =>
          if run.pending = [] ∧ run.last = false ∧ Lists config s run.since listing = true then
            some { s with run := some (run.read config (run.pageOf config listing)) }
          else none
  | .persist stored =>
      match s.run with
      | none => none
      | some run =>
          match run.pending with
          | [] => none
          | record :: pending =>
              some { s with
                mirror := Xero.persist config s record stored
                run := some { run with pending } }
  | .finish =>
      match s.run with
      | none => none
      | some run =>
          if run.pending = [] ∧ run.last = true then
            some { s with cursor := run.nextCursor s.cursor, run := none }
          else none
  | .abort =>
      match s.run with
      | none => none
      | some _ => some { s with run := none }
  | .receive id => (s.xero.find? id).map fun record => { s with webhooks := s.webhooks ++ [record] }
  | .deliver i =>
      (s.webhooks[i]?).map fun record =>
        { s with
          mirror := s.mirror.upsert (rowOf record)
          webhooks := s.webhooks.eraseIdx i }

/-! ## What a step can be -/

section Steps

variable {config : EntityConfig} {s s' : SyncState}

lemma create_eq_some {id : ℕ} {payload : String} (h : syncSystem config s (.create id payload) = some s') :
    ∃ xero, s.xero.insert? ⟨id, s.now, false, payload⟩ = some xero ∧ s' = { s with xero } := by
  obtain ⟨xero, hxero, rfl⟩ := Option.map_eq_some_iff.mp h
  exact ⟨xero, hxero, rfl⟩

lemma edit_eq_some {id : ℕ} {payload : String} {deleted : Bool}
    (h : syncSystem config s (.edit id payload deleted) = some s') :
    ∃ record, s.xero.find? id = some record ∧ record.updatedDateUtc < s.now ∧
      s' = { s with xero := s.xero.put ⟨id, s.now, deleted, payload⟩ } := by
  simp only [syncSystem] at h
  split at h
  · cases h
  · rename_i record hfind
    split at h
    · exact ⟨record, hfind, ‹_›, (Option.some.inj h).symm⟩
    · cases h

lemma start_eq_some {back : Option ℕ} (h : syncSystem config s (.start back) = some s') :
    s.run = none ∧ s' = { s with run := some (startOf s back) } := by
  simp only [syncSystem] at h
  split at h
  · cases h
  · exact ⟨‹_›, (Option.some.inj h).symm⟩

lemma fetch_eq_some {listing : List XeroRecord} (h : syncSystem config s (.fetch listing) = some s') :
    ∃ run, s.run = some run ∧ run.pending = [] ∧ run.last = false ∧
      Lists config s run.since listing = true ∧
      s' = { s with run := some (run.read config (run.pageOf config listing)) } := by
  simp only [syncSystem] at h
  split at h
  · cases h
  · rename_i run hrun
    split at h
    · rename_i hcan
      exact ⟨run, hrun, hcan.1, hcan.2.1, hcan.2.2, (Option.some.inj h).symm⟩
    · cases h

lemma persist_eq_some {stored : Bool} (h : syncSystem config s (.persist stored) = some s') :
    ∃ run record pending, s.run = some run ∧ run.pending = record :: pending ∧
      s' = { s with
        mirror := persist config s record stored
        run := some { run with pending } } := by
  simp only [syncSystem] at h
  split at h
  · cases h
  · rename_i run hrun
    split at h
    · cases h
    · exact ⟨run, _, _, hrun, ‹_›, (Option.some.inj h).symm⟩

lemma finish_eq_some (h : syncSystem config s .finish = some s') :
    ∃ run, s.run = some run ∧ run.pending = [] ∧ run.last = true ∧
      s' = { s with cursor := run.nextCursor s.cursor, run := none } := by
  simp only [syncSystem] at h
  split at h
  · cases h
  · rename_i run hrun
    split at h
    · rename_i hcan
      exact ⟨run, hrun, hcan.1, hcan.2, (Option.some.inj h).symm⟩
    · cases h

lemma abort_eq_some (h : syncSystem config s .abort = some s') : s' = { s with run := none } := by
  simp only [syncSystem] at h
  split at h
  · cases h
  · exact (Option.some.inj h).symm

lemma receive_eq_some {id : ℕ} (h : syncSystem config s (.receive id) = some s') :
    ∃ record, s.xero.find? id = some record ∧
      s' = { s with webhooks := s.webhooks ++ [record] } := by
  obtain ⟨record, hrecord, rfl⟩ := Option.map_eq_some_iff.mp h
  exact ⟨record, hrecord, rfl⟩

lemma deliver_eq_some {i : ℕ} (h : syncSystem config s (.deliver i) = some s') :
    ∃ record, s.webhooks[i]? = some record ∧
      s' = { s with
        mirror := s.mirror.upsert (rowOf record)
        webhooks := s.webhooks.eraseIdx i } := by
  obtain ⟨record, hrecord, rfl⟩ := Option.map_eq_some_iff.mp h
  exact ⟨record, hrecord, rfl⟩

end Steps

end Docketworks.Xero
