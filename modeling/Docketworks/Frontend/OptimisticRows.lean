import Docketworks.Library.Json
import Docketworks.Library.Machine

/-!
# Optimistic rows

`useOptimisticRows` (`frontend/src/features/shared/optimistic.ts`), the one lifecycle of the cost, timesheet
and purchase order grids, as `useCostLines` uses it.

* `Grid`, `GridWrite` — what a grid's rows are, and a patch, a delete or an append of one.
* `WriteQueue`, `consume`, `GridSite.publish` — the writes under way, and the document displayed.
* `GridSite.run`, `GridSite.settle`, `GridSite.cleanUp` — a write begins, is answered, and is cleaned up
  after.
* `optimisticRows` — the interleavings of these with the documents that refetches bring.
* `GridSite.truth` — the document the user should see.

**Representation.**  A document and a row are JSON objects; a request that answers nothing answers `{}`.  A
queue leaves the map only with nothing pending, so the queue of an open request is the one in the map.  A
write cancels the fetches under way and none begins while one is pending; a response arrives once the
promise jobs before it have run, so while no clean-up is due.
-/

namespace Docketworks.Frontend

open Library
open Library.Json (Members)

/-! ## Objects -/

/-- `{ ...values, ...written }`. -/
def spread (values written : Members) : Members :=
  values.map (fun member => (member.1, (written.get? member.1).getD member.2)) ++
    written.filter fun member => (values.get? member.1).isNone

lemma get?_spread (values written : Members) (name : String) :
    (spread values written).get? name = (written.get? name).or (values.get? name) := by
  have hmap : (values.map fun member => (member.1, (written.get? member.1).getD member.2)).find?
      (fun member => member.1 = name) =
        (values.find? fun member => member.1 = name).map
          fun member => (member.1, (written.get? member.1).getD member.2) := List.find?_map
  unfold spread
  rw [Members.get?, List.find?_append, hmap]
  rcases hvalues : values.find? (fun member => member.1 = name) with _ | member
  · -- the members it has in addition
    have hfilter : (written.filter fun member => (values.get? member.1).isNone).find?
        (fun member => member.1 = name) = written.find? fun member => member.1 = name := by
      rw [List.find?_filter]
      congr 1
      funext member
      by_cases hname : member.1 = name
      · simp [hname, hvalues, Members.get?]
      · simp [hname]
    rw [hfilter]
    simp [Members.get?, hvalues]
  · have hname : member.1 = name := by simpa using List.find?_some hvalues
    have hget : values.get? name = some member.2 := congrArg (Option.map Prod.snd) hvalues
    rw [hget, hvalues, Option.map_some, Option.some_or, Option.map_some]
    subst hname
    cases written.get? member.1 <;> rfl

/-- The rows of a grid's document. -/
structure Grid where
  rows : Members → List Members
  withRows : Members → List Members → Members
  /-- The rows put into a document are its rows. -/
  rows_withRows : ∀ doc rs, rows (withRows doc rs) = rs

/-- The objects among some values. -/
def objects (items : List Json) : List Members :=
  items.filterMap fun
    | .object members => some members
    | _ => none

/-- The grid of `useCostLines`: the cost lines of a cost set. -/
def costLines : Grid where
  rows doc := match doc.get? "cost_lines" with
    | some (.array items) => objects items
    | _ => []
  withRows doc lines := spread doc [("cost_lines", .array (lines.map .object))]
  rows_withRows doc lines := by
    have hget : (spread doc [("cost_lines", .array (lines.map .object))]).get? "cost_lines" =
        some (.array (lines.map .object)) := by
      rw [get?_spread]
      rfl
    rw [hget]
    exact List.filterMap_map.trans List.filterMap_some

/-- `row.id === rowId`. -/
def hasId (rowId : String) (row : Members) : Bool := row.get? "id" = some (Json.string rowId)

/-- What the user does to the grid. -/
inductive GridWrite where
  | patchRow (rowId : String) (display : Members)
  | patchDoc (display : Members)
  | deleteRow (rowId : String)
  | appendRow
  /-- The created rows come with the final refetch. -/
  | createRow
deriving DecidableEq

namespace Grid

variable (grid : Grid)

def mapRows (map : List Members → List Members) (doc : Members) : Members :=
  grid.withRows doc (map (grid.rows doc))

/-- The `patch` of `patchRow`. -/
def patch (rowId : String) (values : Members) : Members → Members :=
  grid.mapRows fun current => current.map fun row => if hasId rowId row then spread row values else row

/-- The `remove` of `deleteRow`. -/
def remove (rowId : String) : Members → Members :=
  grid.mapRows fun current => current.filter fun row => !hasId rowId row

/-- What is displayed for a write while its request is under way. -/
def display : GridWrite → Members → Members
  | .patchRow rowId values => grid.patch rowId values
  | .patchDoc values => fun doc => spread doc values
  | .deleteRow rowId => grid.remove rowId
  | .appendRow => id
  | .createRow => id

/-- What a write is to the document once the server has answered. -/
def confirmed (echo : Members) : GridWrite → Members → Members
  | .patchRow rowId values => grid.patch rowId (spread values echo)
  | .patchDoc values => fun doc => spread doc values
  | .deleteRow rowId => grid.remove rowId
  | .appendRow => grid.mapRows fun current => current ++ [echo]
  | .createRow => id

end Grid

/-! ## The queue -/

structure PendingWrite where
  number : ℕ
  write : GridWrite
  apply : Members → Members
  settled : Bool

/-- The writes under way, over the document with the earlier ones confirmed. -/
structure WriteQueue where
  number : ℕ
  confirmed : Option Members
  pending : List PendingWrite

def WriteQueue.push (self : WriteQueue) (write : PendingWrite) : WriteQueue :=
  { self with pending := self.pending ++ [write] }

/-- The loop of `settle`: the settled prefix goes into the document. -/
def consume (confirmed : Option Members) : List PendingWrite → Option Members × List PendingWrite
  | [] => (confirmed, [])
  | first :: pending =>
      if first.settled then consume (confirmed.map first.apply) pending else (confirmed, first :: pending)

def WriteQueue.settled (self : WriteQueue) (number : ℕ) (apply : Members → Members) : WriteQueue :=
  let (confirmed, pending) := consume self.confirmed <| self.pending.map fun write =>
    if write.number = number then { write with apply := apply, settled := true } else write
  { self with confirmed := confirmed, pending := pending }

/-- How a request ended. -/
inductive Outcome where
  | failed
  | answered (echo : Members)

/-- A write as the user made it, and how it ended. -/
structure Made where
  number : ℕ
  write : GridWrite
  outcome : Option Outcome

def Made.failed (self : Made) : Bool :=
  match self.outcome with
  | some .failed => true
  | _ => false

/-- The write, where the request that ended is its own. -/
def Made.settledAs (number : ℕ) (outcome : Outcome) (self : Made) : Made :=
  if self.number = number then { self with outcome := some outcome } else self

/-- What a write is to the document: its local edit, nothing at all, or its confirmed result. -/
def Made.effect (grid : Grid) (self : Made) : Members → Members :=
  match self.outcome with
  | none => grid.display self.write
  | some .failed => id
  | some (.answered echo) => grid.confirmed echo self.write

/-- The writes in the order the user made them. -/
def replay (grid : Grid) (writes : List Made) (doc : Members) : Members :=
  writes.foldl (fun doc made => made.effect grid doc) doc

/-- A grid on the page.  `base` and `history` are what the user did: the document his writes began from,
and the writes. -/
structure GridSite where
  cache : Option Members
  queue : Option WriteQueue
  cleanUps : List ℕ
  /-- Writes and queues have been numbered up to here. -/
  made : ℕ
  base : Option Members
  history : List Made

namespace GridSite

/-- A page with the document its query brought. -/
def opened (doc : Option Members) : GridSite where
  cache := doc
  queue := none
  cleanUps := []
  made := 0
  base := doc
  history := []

/-- Every write has ended. -/
def AllSettled (self : GridSite) : Prop := ∀ made ∈ self.history, made.outcome.isSome

instance (self : GridSite) : Decidable self.AllSettled :=
  inferInstanceAs (Decidable (∀ made ∈ self.history, made.outcome.isSome = true))

/-- **The document the user should see.** -/
def truth (grid : Grid) (self : GridSite) : Option Members := self.base.map (replay grid self.history)

def publish (self : GridSite) (queue : WriteQueue) : GridSite :=
  match queue.confirmed with
  | none => { self with queue := some queue }
  | some confirmed => { self with
      queue := some queue
      cache := some (queue.pending.foldl (fun doc write => write.apply doc) confirmed) }

/-- The user begins a write: his first since the last ones ended begins from what he sees. -/
def noteWrite (self : GridSite) (write : GridWrite) : GridSite :=
  if self.AllSettled then { self with base := self.cache, history := [⟨self.made, write, none⟩] }
  else { self with history := self.history ++ [⟨self.made, write, none⟩] }

/-- A request ended. -/
def noteOutcome (self : GridSite) (number : ℕ) (outcome : Outcome) : GridSite :=
  { self with history := self.history.map (Made.settledAs number outcome) }

/-- `run`, up to the request. -/
def run (grid : Grid) (self : GridSite) (write : GridWrite) : GridSite :=
  { (self.noteWrite write).publish ((self.queue.getD ⟨self.made, self.cache, []⟩).push
      ⟨self.made, write, grid.display write, false⟩) with
    made := self.made + 1 }

def settle (self : GridSite) (queue : WriteQueue) (number : ℕ) (apply : Members → Members) : GridSite :=
  self.publish (queue.settled number apply)

/-- A callback returned, and the clean-up is due; or it raised. -/
def afterCallback (self : GridSite) (queue : ℕ) (raised : Bool) : GridSite :=
  if raised then self else { self with cleanUps := queue :: self.cleanUps }

/-- The request of a write ends. -/
def ends (grid : Grid) (self : GridSite) (number : ℕ) (outcome : Outcome) (raised : Bool) :
    Option GridSite :=
  self.queue.bind fun queue =>
    (queue.pending.find? fun write => write.number = number && !write.settled).map fun write =>
      ((self.noteOutcome number outcome).settle queue number
        (Made.effect grid ⟨number, write.write, some outcome⟩)).afterCallback queue.number raised

/-- The clean-up after a request: the queue goes once nothing is pending. -/
def cleanUp (self : GridSite) (number : ℕ) : GridSite :=
  { self with
    cleanUps := self.cleanUps.erase number
    queue := self.queue.filter fun queue => !(queue.number = number && queue.pending.isEmpty) }

def canRefetch (self : GridSite) : Bool := self.queue.all fun queue => queue.pending.isEmpty

end GridSite

inductive GridAct where
  | write (write : GridWrite)
  /-- The request of a write ends; the callback raises, or it does not. -/
  | ends (number : ℕ) (outcome : Outcome) (raised : Bool)
  | cleanUp (queue : ℕ)
  | refetched (doc : Members)

/-- One step of the page. -/
def optimisticRows (grid : Grid) : Machine GridSite GridAct := fun s act =>
  match act with
  | .write write => some (s.run grid write)
  | .ends number outcome raised => s.ends grid number outcome raised
  | .cleanUp queue => if queue ∈ s.cleanUps then some (s.cleanUp queue) else none
  | .refetched doc =>
      if s.canRefetch ∧ s.cleanUps = [] then some { s with cache := some doc, base := some doc, history := [] }
      else none

/-! ## What the user sees -/

/-- The display is the truth, and the queue is gone once every write has ended and been cleaned up after. -/
structure GridSite.Safe (grid : Grid) (s : GridSite) : Prop where
  shows : s.cache = s.truth grid
  gone : s.AllSettled → s.cleanUps = [] → s.queue.isNone

instance (grid : Grid) (s : GridSite) : Decidable (s.Safe grid) :=
  decidable_of_iff (s.cache = s.truth grid ∧ (s.AllSettled → s.cleanUps = [] → s.queue.isNone = true))
    ⟨fun ⟨hshows, hgone⟩ => ⟨hshows, hgone⟩, fun h => ⟨h.shows, h.gone⟩⟩

/-- A callback raises only while another write is under way, or another clean-up is due. -/
def CallbackSafe (s : GridSite) : GridAct → Prop
  | .ends number _ raised => raised = true →
      (∃ made ∈ s.history, made.number ≠ number ∧ made.outcome.isNone) ∨
        ∃ queue ∈ s.queue, queue.number ∈ s.cleanUps
  | _ => True

instance (s : GridSite) (act : GridAct) : Decidable (CallbackSafe s act) := by
  unfold CallbackSafe
  split <;> infer_instance

end Docketworks.Frontend
