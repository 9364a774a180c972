import Docketworks.Library.Lease
import Docketworks.Library.Machine
import Docketworks.Library.Table

/-!
# The lock of the Xero sync

`apps/xero/sync_constants.py`, and its holders: the dispatcher of `sync_service.py`, the task of
`sync_worker.py` and the command `start_xero_sync`.

* `Dispatch`, `Execution` — an attempt to dispatch a run, and one execution of the sync.
* `SyncSite` — the lock in the shared cache, the messages the broker has, and both.
* `progress` and `renew`, `releaseReads` and `releaseDeletes` — the two halves of `renew_sync_lock` and
  of `release_sync_lock`: the cache is read, and then the key touched or deleted.
* `syncLock` — the interleavings of all of these, with the passing of time.
* `SyncSite.Safe` — one sync at a time.

**Representation.**  A task id is the number it was issued as.  The broker delivers a message it has
taken as often as it likes, while the run is live and after.  `leaseEnds`, `outrun`, `strays` and
`trespassed` are what an observer notes; no step reads them.
-/

namespace Docketworks.SyncLock

open Library

/-- `LOCK_TIMEOUT`, in seconds. -/
def lockTimeout : ℕ := 60 * 60 * 4

/-! ## The parties -/

/-- How far `start_sync` is with a run it took the lock for. -/
inductive DispatchStage where
  /-- It checks the token and calls `delay`. -/
  | dispatching
  /-- It rolls back: `release_sync_lock` is to be called. -/
  | rollingBack
  /-- `release_sync_lock` has read its own id. -/
  | releasing
  | ended
deriving DecidableEq, Repr

/-- An attempt to dispatch a run. -/
structure Dispatch where
  task : ℕ
  stage : DispatchStage
deriving DecidableEq, Repr

/-- How far an execution of the sync is. -/
inductive Stage where
  /-- Between two progress events: it writes. -/
  | running
  /-- `renew_sync_lock` has read its own id. -/
  | renewing
  /-- Its last event is past, or it was stopped: the `finally` block is next. -/
  | stopping
  /-- `release_sync_lock` has read its own id. -/
  | releasing
  | ended
deriving DecidableEq, Repr

structure Execution where
  number : ℕ
  task : ℕ
  stage : Stage
  /-- When the lease it was started on, or set last, runs out. -/
  leaseEnds : ℕ
  outrun : Bool
  strays : ℕ
deriving DecidableEq, Repr

namespace Execution

/-- It is between its start and its end. -/
def Live (self : Execution) : Prop := self.stage ≠ .ended

/-- It has read the lock as its own and is about to touch the key or delete it. -/
def Acting (self : Execution) : Prop := self.stage = .renewing ∨ self.stage = .releasing

instance (self : Execution) : Decidable self.Live := inferInstanceAs (Decidable (_ ≠ _))

instance (self : Execution) : Decidable self.Acting := inferInstanceAs (Decidable (_ ∨ _))

end Execution

/-- The lock, what the broker has, and who is at work. -/
structure SyncSite where
  now : ℕ
  /-- The key `SYNC_STATUS_KEY` of the shared cache. -/
  lock : Option (Lease ℕ)
  dispatches : Table Dispatch.task
  messages : List ℕ
  executions : Table Execution.number
  issued : ℕ
  /-- Somebody has touched or deleted a lock that another run held. -/
  trespassed : Bool

namespace SyncSite

/-- A site at rest. -/
def idle (now : ℕ) : SyncSite where
  now := now
  lock := none
  dispatches := .empty
  messages := []
  executions := .empty
  issued := 0
  trespassed := false

def holder (self : SyncSite) : Option ℕ := Lease.get self.lock self.now

/-- An execution's new state. -/
def withExecution (self : SyncSite) (execution : Execution) : SyncSite :=
  { self with executions := self.executions.upsert execution }

/-- A dispatch's new state. -/
def withDispatch (self : SyncSite) (dispatch : Dispatch) : SyncSite :=
  { self with dispatches := self.dispatches.upsert dispatch }

/-- `cache.add` of the lock under a new task id: whether it was free. -/
def acquire (self : SyncSite) : Bool × SyncSite :=
  let (gotLock, lock) := Lease.add self.lock self.now self.issued lockTimeout
  (gotLock, { self with lock := lock, issued := self.issued + 1 })

/-- `cache.delete` of the lock by a run. -/
def deleteLock (self : SyncSite) (owner : ℕ) : SyncSite :=
  { self with
    lock := Lease.delete
    trespassed := self.trespassed || Lease.foreign self.lock self.now owner }

/-! ## The steps -/

/-- `start_sync`, up to the token check: the lock is taken, if it is free. -/
def startSync (self : SyncSite) : SyncSite :=
  match self.acquire with
  | (true, after) => after.withDispatch ⟨self.issued, .dispatching⟩
  | (false, after) => after

/-- The command `start_xero_sync`: the lock is taken, if it is free, and the run begins. -/
def startInline (self : SyncSite) : SyncSite :=
  match self.acquire with
  | (true, after) => after.withExecution
      ⟨self.executions.freshKey, self.issued, .running, self.now + lockTimeout, false, 0⟩
  | (false, after) => after

/-- `xero_sync_task` on a message: it begins where the lock's value is its task id. -/
def deliver (self : SyncSite) (task : ℕ) : SyncSite :=
  match self.lock with
  | some lease =>
      if self.holder = some task then
        self.withExecution ⟨self.executions.freshKey, task, .running, lease.expires, false, 0⟩
      else self
  | none => self

/-- The read of `renew_sync_lock`, at a progress event. -/
def progress (self : SyncSite) (execution : Execution) : SyncSite :=
  if self.holder = some execution.task then
    self.withExecution { execution with stage := .renewing }
  else self.withExecution { execution with stage := .stopping, outrun := true }

/-- The touch of `renew_sync_lock`: the run goes on where there was a key to touch. -/
def renew (self : SyncSite) (execution : Execution) : SyncSite :=
  match Lease.touch self.lock self.now lockTimeout with
  | (true, lock) =>
      let lost := Lease.foreign self.lock self.now execution.task
      { self.withExecution
          { execution with
            stage := .running
            leaseEnds := if lost then execution.leaseEnds else self.now + lockTimeout
            outrun := execution.outrun || lost } with
        lock := lock
        trespassed := self.trespassed || lost }
  | (false, _) => self.withExecution { execution with stage := .stopping, outrun := true }

/-- The read of `release_sync_lock` by an execution. -/
def releaseReads (self : SyncSite) (execution : Execution) : SyncSite :=
  if self.holder = some execution.task then
    self.withExecution { execution with stage := .releasing }
  else self.withExecution { execution with stage := .ended }

/-- The delete of `release_sync_lock` by an execution. -/
def releaseDeletes (self : SyncSite) (execution : Execution) : SyncSite :=
  (self.withExecution { execution with stage := .ended }).deleteLock execution.task

/-- An execution writes something to Xero, or of Xero's. -/
def write (self : SyncSite) (execution : Execution) : SyncSite :=
  self.withExecution
    { execution with strays := execution.strays + if execution.outrun then 1 else 0 }

/-- The read of `release_sync_lock` by a dispatch that rolls back. -/
def undoReads (self : SyncSite) (dispatch : Dispatch) : SyncSite :=
  if self.holder = some dispatch.task then self.withDispatch { dispatch with stage := .releasing }
  else self.withDispatch { dispatch with stage := .ended }

/-- The delete of `release_sync_lock` by a dispatch that rolls back. -/
def undoDeletes (self : SyncSite) (dispatch : Dispatch) : SyncSite :=
  (self.withDispatch { dispatch with stage := .ended }).deleteLock dispatch.task

/-- The execution with this number, at this stage. -/
def executionAt (self : SyncSite) (number : ℕ) (stage : Stage) : Option Execution :=
  (self.executions.find? number).filter fun execution => execution.stage = stage

/-- The dispatch of this task, at this stage. -/
def dispatchAt (self : SyncSite) (task : ℕ) (stage : DispatchStage) : Option Dispatch :=
  (self.dispatches.find? task).filter fun dispatch => dispatch.stage = stage

end SyncSite

inductive SyncAct where
  | pass (seconds : ℕ)
  | startSync
  /-- `delay` has given the broker the message. -/
  | delay (task : ℕ)
  /-- No token, or the token check or `delay` raised; the broker may have the message all the same. -/
  | undo (task : ℕ) (sent : Bool)
  | undoReads (task : ℕ)
  | undoDeletes (task : ℕ)
  /-- The broker delivers a message, for the first time or again. -/
  | deliver (task : ℕ)
  | startInline
  | write (number : ℕ)
  | progress (number : ℕ)
  | renew (number : ℕ)
  /-- The run is through, or an exception ends it: its `finally` block is next. -/
  | finish (number : ℕ)
  | releaseReads (number : ℕ)
  | releaseDeletes (number : ℕ)
  /-- The process is killed, and nothing of it runs any more. -/
  | crash (number : ℕ)
deriving DecidableEq, Repr

/-- One step of the dispatches, the broker and the executions. -/
def syncLock : Machine SyncSite SyncAct := fun s act =>
  match act with
  | .pass seconds => some { s with now := s.now + seconds }
  | .startSync => some s.startSync
  | .delay task => (s.dispatchAt task .dispatching).map fun dispatch =>
      { s.withDispatch { dispatch with stage := .ended } with messages := task :: s.messages }
  | .undo task sent => (s.dispatchAt task .dispatching).map fun dispatch =>
      { s.withDispatch { dispatch with stage := .rollingBack } with
        messages := if sent then task :: s.messages else s.messages }
  | .undoReads task => (s.dispatchAt task .rollingBack).map s.undoReads
  | .undoDeletes task => (s.dispatchAt task .releasing).map s.undoDeletes
  | .deliver task => if task ∈ s.messages then some (s.deliver task) else none
  | .startInline => some s.startInline
  | .write number => (s.executionAt number .running).map s.write
  | .progress number => (s.executionAt number .running).map s.progress
  | .renew number => (s.executionAt number .renewing).map s.renew
  | .finish number => (s.executionAt number .running).map fun execution =>
      s.withExecution { execution with stage := .stopping }
  | .releaseReads number => (s.executionAt number .stopping).map s.releaseReads
  | .releaseDeletes number => (s.executionAt number .releasing).map s.releaseDeletes
  | .crash number => (s.executions.find? number).map fun execution =>
      s.withExecution { execution with stage := .ended }

/-! ## One sync at a time -/

/-- No two executions are between their start and their end on a lease that has not run out; one that
lost the lock wrote nothing after the progress event that found it; nobody touched or freed another
run's lock. -/
structure SyncSite.Safe (s : SyncSite) : Prop where
  alone : ∀ e ∈ s.executions.rows, ∀ e' ∈ s.executions.rows, e.Live → e'.Live →
    s.now < e.leaseEnds → s.now < e'.leaseEnds → e = e'
  silent : ∀ e ∈ s.executions.rows, e.strays = 0
  keepsOut : s.trespassed = false

instance (s : SyncSite) : Decidable s.Safe :=
  decidable_of_iff
    ((∀ e ∈ s.executions.rows, ∀ e' ∈ s.executions.rows, e.Live → e'.Live →
        s.now < e.leaseEnds → s.now < e'.leaseEnds → e = e') ∧
      (∀ e ∈ s.executions.rows, e.strays = 0) ∧ s.trespassed = false)
    ⟨fun ⟨halone, hsilent, hkeeps⟩ => ⟨halone, hsilent, hkeeps⟩,
      fun h => ⟨h.alone, h.silent, h.keepsOut⟩⟩

/-- A message is delivered to a run only while no execution of it is live and its dispatch is not
rolling back; the lock is taken only while nobody stands between reading it and touching or deleting
the key. -/
def Undisturbed (s : SyncSite) : SyncAct → Prop
  | .deliver task => s.holder = some task →
      (∀ e ∈ s.executions.rows, e.Live → e.task ≠ task) ∧
        ∀ d ∈ s.dispatches.rows, d.task = task → d.stage = .ended
  | .startSync | .startInline => s.holder = none →
      (∀ e ∈ s.executions.rows, ¬e.Acting) ∧ ∀ d ∈ s.dispatches.rows, d.stage ≠ .releasing
  | _ => True

instance (s : SyncSite) (act : SyncAct) : Decidable (Undisturbed s act) := by
  unfold Undisturbed
  split <;> infer_instance

end Docketworks.SyncLock
