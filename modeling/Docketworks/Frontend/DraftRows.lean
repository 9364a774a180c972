import Docketworks.Library.Machine
import Mathlib.Data.List.Nodup

/-!
# The draft rows of a grid

The rows a user types before they are stored (`frontend/src/features/shared/useDraftRows.ts`), as the
calls on the hook, the answers of the sends and the applications of the queued updaters take their turns.

* `Options` — what the hook is told about drafts: which are empty, and which may be sent.
* `Updater`, `applyUpdater` — the changes to the rows, queued by the calls and applied later, in order.
* `Grid`, `step` — the rows, the guard against a second send, the timers and the sends that are out.
* `Sound` — rows end in an entry row, are sent once, disappear when stored or removed, and survive a failure.

**Design.**  The guard `persisting` is a mutable set, changed when the call is made.  The list a call reads
is the one with the updaters applied so far.  `log` has the sends and their answers, the newest first.
-/

namespace Docketworks.Frontend

open Library

namespace DraftRows

/-! ## Rows -/

structure DraftEntry (D : Type) where
  localId : ℕ
  draft : D
deriving DecidableEq, Repr

/-- The caller's rules for a draft. -/
structure Options (D : Type) where
  emptyDraft : D
  draftIsEmpty : D → Bool
  isReady : D → Bool
  emptyDraft_isEmpty : draftIsEmpty emptyDraft = true

/-- A change to the rows. -/
inductive Updater (D : Type) where
  | update (localId : ℕ) (patch : D → D)
  | commit (localId : ℕ)
  /-- Of `settlePersisted`. -/
  | settled (localId : ℕ)
  /-- Of `removeDraft`. -/
  | remove (localId : ℕ)

/-- What happened to a row. -/
inductive Event where
  | sent (localId : ℕ)
  | created (localId : ℕ)
  | failed (localId : ℕ)
  | cancelled (localId : ℕ)
  | removed (localId : ℕ)
deriving DecidableEq, Repr

/-- A send that is out; `external` where the caller sends for the row. -/
structure Send where
  localId : ℕ
  external : Bool
deriving DecidableEq, Repr

inductive Outcome where
  | created
  | failed
  | cancelled
deriving DecidableEq, Repr

structure Grid (D : Type) where
  drafts : List (DraftEntry D)
  queue : List (Updater D)
  /-- `persistingRef`. -/
  persisting : List ℕ
  timers : List ℕ
  inFlight : List Send
  nextId : ℕ
  log : List Event

def opened {D : Type} (options : Options D) : Grid D :=
  ⟨[⟨0, options.emptyDraft⟩], [], [], [], [], 1, []⟩

section Step

variable {D : Type} (options : Options D)

/-! ## The updaters -/

/-- `freshPhantom`, appended to the rows. -/
def withPhantom (grid : Grid D) (drafts : List (DraftEntry D)) : Grid D :=
  { grid with drafts := drafts ++ [⟨grid.nextId, options.emptyDraft⟩], nextId := grid.nextId + 1 }

def dropRow (grid : Grid D) (localId : ℕ) : Grid D :=
  let remaining := grid.drafts.filter fun entry => entry.localId ≠ localId
  if remaining.isEmpty then withPhantom options grid [] else { grid with drafts := remaining }

def startSend (grid : Grid D) (send : Send) : Grid D :=
  { grid with
    persisting := send.localId :: grid.persisting
    inFlight := send :: grid.inFlight
    log := .sent send.localId :: grid.log }

def persistDraftIfReady (grid : Grid D) (localId : ℕ) : Grid D :=
  match grid.drafts.find? fun entry => entry.localId = localId with
  | none => grid
  | some entry =>
      if options.isReady entry.draft && localId ∉ grid.persisting then startSend grid ⟨localId, false⟩
      else grid

/-- The rows with one of them changed. -/
def patched (drafts : List (DraftEntry D)) (localId : ℕ) (patch : D → D) : List (DraftEntry D) :=
  drafts.map fun entry =>
    if entry.localId = localId then { entry with draft := patch entry.draft } else entry

def applyUpdater (grid : Grid D) : Updater D → Grid D
  | .update localId patch =>
      let next := patched grid.drafts localId patch
      if next.getLast?.any fun last => !options.draftIsEmpty last.draft then withPhantom options grid next
      else { grid with drafts := next }
  | .commit localId => persistDraftIfReady options grid localId
  | .settled localId =>
      dropRow options { grid with persisting := grid.persisting.filter (· ≠ localId) } localId
  | .remove localId => dropRow options grid localId

/-! ## The calls -/

/-- `settlePersisted`, `settleFailed` and what `onCancelled` does. -/
def settle (grid : Grid D) (localId : ℕ) (outcome : Outcome) : Grid D :=
  let grid := { grid with persisting := grid.persisting.filter (· ≠ localId) }
  match outcome with
  | .created => { grid with queue := grid.queue ++ [.settled localId], log := .created localId :: grid.log }
  | .failed => { grid with log := .failed localId :: grid.log }
  | .cancelled => { grid with log := .cancelled localId :: grid.log }

/-- What takes its turn. -/
inductive Step (D : Type) where
  | updateDraft (localId : ℕ) (patch : D → D)
  | commitDraft (localId : ℕ)
  | removeDraft (localId : ℕ)
  | rowExit (localId : ℕ)
  | rowFocus (localId : ℕ)
  | timerFires (localId : ℕ)
  | beginExternalPersist (localId : ℕ)
  | answer (send : Send) (outcome : Outcome)
  | applyNext

def step : Machine (Grid D) (Step D)
  | grid, .updateDraft localId patch => some { grid with queue := grid.queue ++ [.update localId patch] }
  | grid, .commitDraft localId => some { grid with queue := grid.queue ++ [.commit localId] }
  | grid, .removeDraft localId =>
      some { grid with queue := grid.queue ++ [.remove localId], log := .removed localId :: grid.log }
  | grid, .rowExit localId => some { grid with timers := localId :: grid.timers.filter (· ≠ localId) }
  | grid, .rowFocus localId => some { grid with timers := grid.timers.filter (· ≠ localId) }
  | grid, .timerFires localId =>
      if localId ∈ grid.timers then
        some { grid with
          timers := grid.timers.filter (· ≠ localId), queue := grid.queue ++ [.commit localId] }
      else none
  | grid, .beginExternalPersist localId =>
      if grid.drafts.any (fun entry => entry.localId = localId) && localId ∉ grid.persisting then
        some { startSend grid ⟨localId, true⟩ with timers := grid.timers.filter (· ≠ localId) }
      else some grid
  -- a send has one answer, and the caller does not cancel one of its own
  | grid, .answer send outcome =>
      if send ∈ grid.inFlight ∧ (send.external = true → outcome ≠ .cancelled) then
        some (settle { grid with inFlight := grid.inFlight.erase send } send.localId outcome)
      else none
  | grid, .applyNext =>
      match grid.queue with
      | [] => none
      | updater :: queue => some (applyUpdater options { grid with queue := queue } updater)

/-! ## What the rows promise -/

def EndsEmpty (drafts : List (DraftEntry D)) : Prop :=
  ∃ before last, drafts = before ++ [last] ∧ options.draftIsEmpty last.draft = true

/-- No send of the row has started since one failed or was cancelled. -/
def sendable (localId : ℕ) : List Event → Bool
  | [] => true
  | .sent other :: log => other ≠ localId && sendable localId log
  | .failed other :: log => other = localId || sendable localId log
  | .cancelled other :: log => other = localId || sendable localId log
  | _ :: log => sendable localId log

/-- A row is sent again only when its send failed or was cancelled. -/
def SentOnce : List Event → Prop
  | [] => True
  | .sent localId :: log => sendable localId log = true ∧ SentOnce log
  | _ :: log => SentOnce log

/-- The updater changes or drops the row. -/
def Updater.Rewrites : Updater D → ℕ → Prop
  | .update other _, localId => other = localId
  | .commit _, _ => False
  | .settled other, localId => other = localId
  | .remove other, localId => other = localId

/-- Rows end in an empty draft, are not sent again but after a failure, disappear when created or removed
and stay as they are till then, and may be sent again after a failure. -/
structure Sound (grid : Grid D) : Prop where
  endsEmpty : EndsEmpty options grid.drafts
  sentOnce : SentOnce grid.log
  kept : ∀ localId < grid.nextId, (∃ entry ∈ grid.drafts, entry.localId = localId) ∨
    .created localId ∈ grid.log ∨ .removed localId ∈ grid.log
  contents : ∀ a grid', step options grid a = some grid' → ∀ entry ∈ grid.drafts, entry ∈ grid'.drafts ∨
    ∃ updater queue, grid.queue = updater :: queue ∧ updater.Rewrites entry.localId
  resent : ∀ send outcome grid', outcome ≠ .created →
    step options grid (.answer send outcome) = some grid' →
    grid'.drafts = grid.drafts ∧ grid'.queue = grid.queue ∧
      ∀ entry ∈ grid'.drafts, entry.localId = send.localId → options.isReady entry.draft = true →
        (applyUpdater options grid' (.commit send.localId)).log = .sent send.localId :: grid'.log

/-- The row is not the last, or it is the only one, or the one before it is empty. -/
def LeavesEntryRow (drafts : List (DraftEntry D)) (localId : ℕ) : Prop :=
  ∀ before last, drafts = before ++ [last] → last.localId = localId →
    before = [] ∨ EndsEmpty options before

/-- A row that is dropped leaves an entry row; and no commit is applied, and no external persist begun,
while the removal of the row's own settlement waits. -/
def InOrder (grid : Grid D) : Step D → Prop
  | .applyNext =>
      match grid.queue with
      | .commit localId :: queue => ¬(.settled localId ∈ queue ∧
          ∃ entry ∈ grid.drafts, entry.localId = localId ∧ options.isReady entry.draft = true)
      | .settled localId :: _ => LeavesEntryRow options grid.drafts localId
      | .remove localId :: _ => LeavesEntryRow options grid.drafts localId
      | _ => True
  | .beginExternalPersist localId => ¬(.settled localId ∈ grid.queue ∧
      ∃ entry ∈ grid.drafts, entry.localId = localId)
  | _ => True

end Step

end DraftRows

end Docketworks.Frontend
