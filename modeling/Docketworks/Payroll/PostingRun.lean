import Docketworks.Library.Machine
import Docketworks.Library.Process
import Docketworks.Payroll.Organisation

/-!
# A posting run: its claim, its document and its task

`apps/timesheet/services/payroll_runs.py` with its two callers: the request handler
`start_post_week_task` and the Celery task `post_payroll_week_task`.

* `RunCache` — what the parties share on one connection: the claim, the run document, what reached
  Xero and which messages the broker holds.
* `Call` — the calls a party makes, one atomic step each.
* `renewRunClaim`, `reclaimOrRefuse`, `releaseRunClaim`, `write` — the primitives, each a read and a
  write.
* `postPayrollWeekTask`, `startPostWeekTask` — the parties' programs.
* `postingSystem` — the interleavings: any party may take its next call, any call may raise, a worker may
  die, a message may be delivered again, and the claim and the document may expire between any two
  steps.

**Representation.**  One connection, so the two cache keys are two fields.  Lifetimes have no clock:
an entry may expire at any step, so renewing one changes nothing.  A call that raises has done
nothing; one that wrote to Xero and then raised answers so (`NextResult.wrote`).
-/

namespace Docketworks.Payroll

open Library

/-! ## The run document -/

/-- `PayrollRunStatus`. -/
inductive RunStatus where
  | running
  | succeeded
  | failed
deriving DecidableEq, Repr

/-- `PayrollPostRunOut`. -/
structure RunDocument where
  runId : ℕ
  weekStartDate : ℤ
  status : RunStatus
  total : ℕ
  completed : ℕ
  successful : ℕ
  failed : ℕ
  currentStaffName : Option String
  message : Option String
  results : List StaffWeekPostResult
deriving DecidableEq, Repr

/-- The document `running` opens a run with. -/
def RunDocument.opened (runId : ℕ) (weekStartDate : ℤ) (total : ℕ) : RunDocument where
  runId
  weekStartDate
  status := .running
  total
  completed := 0
  successful := 0
  failed := 0
  currentStaffName := none
  message := none
  results := []

def RunDocument.withResult (run : RunDocument) (result : StaffWeekPostResult)
    (completed successful failed : ℕ) : RunDocument :=
  { run with
    results := run.results ++ [result]
    completed
    successful
    failed
    currentStaffName := some result.staffName }

def RunDocument.finished (run : RunDocument) (status : RunStatus) (message : Option String) :
    RunDocument :=
  { run with status, message }

/-! ## What the parties share -/

/-- A message of the broker: the arguments of `post_payroll_week_task`. -/
structure TaskMessage where
  runId : ℕ
  staffIds : List ℕ
  weekStartDate : ℤ
deriving DecidableEq, Repr

/-- The accounting backend a deployment is configured with. -/
structure Backend where
  providerName : String
  supportsPayroll : Bool
deriving DecidableEq, Repr

def Backend.refusal (self : Backend) : String :=
  s!"The configured accounting backend ({self.providerName}) does not support payroll posting."

/-- What the provider's iterator does when it is asked for the next result: whether it wrote to Xero,
and the result it yields, if it is not exhausted or raises. -/
structure NextResult where
  wrote : Bool
  outcome : Except String (Option StaffWeekPostResult)
deriving DecidableEq

/-- The shared state of one connection. -/
structure RunCache where
  claim : Option ℕ
  document : Option RunDocument
  backend : Backend
  posted : List ℕ
  recorded : List ℕ
  sent : List TaskMessage
deriving DecidableEq

/-! ## Calls -/

/-- The calls a party makes. -/
inductive RunCall where
  /-- `_cache().get(claim_key)`. -/
  | getClaim
  /-- `_cache().touch(claim_key)`. -/
  | touchClaim
  /-- `_cache().add(claim_key, task_id)`. -/
  | addClaim
  /-- `_cache().delete(claim_key)`. -/
  | deleteClaim
  /-- `_cache().set(run_key, document)`. -/
  | setDocument (document : RunDocument)
  /-- `_publish`. -/
  | publish
  /-- `get_provider`. -/
  | getProvider
  /-- The provider's iterator is asked for the next result. -/
  | nextResult
  /-- `persist_app_error`. -/
  | persistAppError
  /-- `provider.sync_payroll_mirror`. -/
  | syncPayrollMirror
  /-- `refresh_payroll_after_settle_task.apply_async`. -/
  | refreshLater
  /-- The request's own checks, on a mirror it refreshes: the roster to post. -/
  | checkWeek
  /-- `post_payroll_week_task.delay`. -/
  | dispatch (message : TaskMessage)
deriving DecidableEq

def RunCall.Answer : RunCall → Type
  | .getClaim => Option ℕ
  | .addClaim => Bool
  | .getProvider => Backend
  | .nextResult => NextResult
  | .checkWeek => List ℕ
  | .touchClaim | .deleteClaim | .setDocument _ | .publish | .persistAppError
  | .syncPayrollMirror | .refreshLater | .dispatch _ => Unit

/-- What a task raises. -/
inductive RunError where
  /-- `PayrollRunClaimLostError`. -/
  | claimLost
  | raised (text : String)
deriving DecidableEq

/-- A program of a party. -/
abbrev RunTask (α : Type) : Type := Process RunCall RunCall.Answer RunError α

namespace RunTask

def getClaim : RunTask (Option ℕ) := Process.perform RunCall.getClaim
def touchClaim : RunTask Unit := Process.perform RunCall.touchClaim
def addClaim : RunTask Bool := Process.perform RunCall.addClaim
def deleteClaim : RunTask Unit := Process.perform RunCall.deleteClaim
def setDocument (document : RunDocument) : RunTask Unit := Process.perform (RunCall.setDocument document)
def publish : RunTask Unit := Process.perform RunCall.publish
def getProvider : RunTask Backend := Process.perform RunCall.getProvider
def askNext : RunTask NextResult := Process.perform RunCall.nextResult
def persistAppError : RunTask Unit := Process.perform RunCall.persistAppError
def syncPayrollMirror : RunTask Unit := Process.perform RunCall.syncPayrollMirror
def refreshLater : RunTask Unit := Process.perform RunCall.refreshLater
def checkWeek : RunTask (List ℕ) := Process.perform RunCall.checkWeek
def dispatch (message : TaskMessage) : RunTask Unit := Process.perform (RunCall.dispatch message)

end RunTask

open RunTask

/-! ## The primitives of `payroll_runs` -/

/-- `write`: store the document, then push it. -/
def write (run : RunDocument) : RunTask Unit := do
  setDocument run
  publish

/-- `running`: open a run's document and store it. -/
def running (runId : ℕ) (weekStartDate : ℤ) (total : ℕ) : RunTask RunDocument := do
  let run := RunDocument.opened runId weekStartDate total
  write run
  return run

/-- `acquire_run_claim`: claim the organisation, or name the run that holds it. -/
def acquireRunClaim : RunTask (Option String) := do
  if ← addClaim then
    return none
  match ← getClaim with
  | some holder => return some (toString holder)
  | none => return some "an expired run"

/-- `renew_run_claim`: extend this run's claim, refusing to continue if it is no longer ours. -/
def renewRunClaim (runId : ℕ) : RunTask Unit := do
  let holder ← getClaim
  if holder ≠ some runId then
    Process.raise .claimLost
  else
    touchClaim

/-- `reclaim_or_refuse`: re-secure this run's claim, taking over an expired one. -/
def reclaimOrRefuse (runId : ℕ) : RunTask Bool := do
  let holder ← getClaim
  if holder = some runId then
    touchClaim
    return true
  else
    addClaim

/-- `release_run_claim`: release the claim, but only if this run still owns it. -/
def releaseRunClaim (runId : ℕ) : RunTask Unit := do
  let holder ← getClaim
  if holder = some runId then
    deleteClaim

/-! ## The task -/

/-- `_close_run_if_owned`: write a terminal document only under a proven or re-taken claim. -/
def closeRunIfOwned (runId : ℕ) (buildDocument : RunTask RunDocument) : RunTask Unit := do
  if ← reclaimOrRefuse runId then
    write (← buildDocument)

/-- `_after_post_mirror_refresh`: a failure is persisted and goes no further. -/
def afterPostMirrorRefresh : RunTask Unit :=
  (do syncPayrollMirror; refreshLater).tryCatch fun _ => persistAppError

def neverStarted : String :=
  "This posting run was queued for too long and never started. Nothing was posted. Post again."

def lostMidRun : String :=
  "The posting run lost its claim mid-run; the results above are what completed. " ++
    "Use \"Check against Xero\" before posting again."

/-- What the body of the `try` leaves: the latest document and how it ended. -/
abbrev RunBody : Type := RunDocument × Except RunError Unit

/-- The next result of the provider's iterator; what it raises goes on. -/
def nextResult : RunTask (Option StaffWeekPostResult) := do
  match (← askNext).outcome with
  | .error text => Process.raise (.raised text)
  | .ok result => return result

/-- The posting loop: one round for each result, at most one for each person. -/
def postResults (run : RunDocument) : List ℕ → RunTask RunBody
  | [] => do
      match ← nextResult.attempt with
      | .error e => return (run, .error e)
      | .ok _ => return (run, .ok ())
  | _ :: staffIds => do
      match ← nextResult.attempt with
      | .error e => return (run, .error e)
      | .ok none => return (run, .ok ())
      | .ok (some result) =>
          match ← (renewRunClaim run.runId).attempt with
          | .error e => return (run, .error e)
          | .ok () =>
              let successful := if result.success then run.successful + 1 else run.successful
              let failed := if result.success then run.failed else run.failed + 1
              let run := run.withResult result (run.completed + 1) successful failed
              match ← (write run).attempt with
              | .error e => return (run, .error e)
              | .ok () => postResults run staffIds

/-- The success a batch ends in: recorded, then the mirror refreshed. -/
def recordSuccess (run : RunDocument) : RunTask Unit := do
  closeRunIfOwned run.runId (pure (run.finished .succeeded none))
  afterPostMirrorRefresh

/-- The body of the `try`. -/
def postWeek (run : RunDocument) (staffIds : List ℕ) : RunTask RunBody := do
  match ← getProvider.attempt with
  | .error e => return (run, .error e)
  | .ok provider =>
      if !provider.supportsPayroll then
        return (run, .error (.raised provider.refusal))
      match ← postResults run staffIds with
      | (run, .error e) => return (run, .error e)
      | (run, .ok ()) => return (run, ← (recordSuccess run).attempt)

/-- The `except` clauses. -/
def handleEnd : RunBody → RunTask Unit
  | (_, .ok ()) => pure ()
  | (run, .error .claimLost) => do
      persistAppError
      closeRunIfOwned run.runId (pure (run.finished .failed (some lostMidRun)))
      Process.raise .claimLost
  | (run, .error (.raised text)) => do
      persistAppError
      closeRunIfOwned run.runId (pure (run.finished .failed (some text)))
      Process.raise (.raised text)

/-- What a delivery does that finds the claim lost before it wrote anything. -/
def closeNeverStarted (message : TaskMessage) : RunTask Unit := do
  persistAppError
  closeRunIfOwned message.runId do
    let run ← running message.runId message.weekStartDate message.staffIds.length
    return run.finished .failed (some neverStarted)
  releaseRunClaim message.runId
  Process.raise .claimLost

/-- What a delivery does that holds the claim. -/
def postClaimed (message : TaskMessage) : RunTask Unit := do
  let run ← running message.runId message.weekStartDate message.staffIds.length
  (do handleEnd (← postWeek run message.staffIds)).ensuring (releaseRunClaim message.runId)

def postPayrollWeekTask (message : TaskMessage) : RunTask Unit := do
  match ← (renewRunClaim message.runId).attempt with
  | .error .claimLost => closeNeverStarted message
  | .error e => Process.raise e
  | .ok () => postClaimed message

/-! ## The request handler -/

/-- The opening document and the dispatch: the document, where it was written. -/
def openAndDispatch (runId : ℕ) (weekStartDate : ℤ) (staffIds : List ℕ) :
    RunTask (Option RunDocument × Except RunError Unit) := do
  match ← (running runId weekStartDate staffIds.length).attempt with
  | .error e => return (none, .error e)
  | .ok run => return (some run, ← (dispatch { runId, staffIds, weekStartDate }).attempt)

def RunError.text : RunError → String
  | .claimLost => ""
  | .raised text => text

/-- The failure of a dispatch: closed where it was opened, the claim released whatever happens. -/
def closeUndispatched (runId : ℕ) (run : Option RunDocument) (e : RunError) : RunTask Unit := do
  Process.ensuring
    (match run with
      | none => pure ()
      | some run =>
          write (run.finished .failed (some s!"Could not start the posting run: {e.text}")))
    (releaseRunClaim runId)
  Process.raise e

def startPostWeekTask (runId : ℕ) (weekStartDate : ℤ) : RunTask Unit := do
  match ← acquireRunClaim with
  | some holder =>
      Process.raise (.raised (s!"A payroll posting run ({holder}) is already in progress for this " ++
        "organisation. Nothing was posted. Wait for it to finish, then check " ++
        "what Xero holds before posting again."))
  | none =>
      match ← checkWeek.attempt with
      | .error e => do
          releaseRunClaim runId
          Process.raise e
      | .ok staffIds =>
          match ← openAndDispatch runId weekStartDate staffIds with
          | (_, .ok ()) => return ()
          | (run, .error e) => closeUndispatched runId run e

/-! ## The interleavings -/

/-- A party: the run it is for, whether it has made a call yet, and what it does next. -/
structure Party where
  runId : ℕ
  opened : Bool
  program : RunTask Unit

/-- The state of the whole: what is shared, the parties that ever started, the runs ever requested. -/
structure RunSystem where
  shared : RunCache
  parties : List Party
  requested : List ℕ

/-- What comes from outside the cache in one step: what the provider's iterator does and the roster the
request's checks derive. -/
structure Outside where
  next : NextResult := { wrote := false, outcome := .ok none }
  roster : List ℕ := []

/-- What a call of run `runId` does, and its answer. -/
def RunCache.answer (shared : RunCache) (runId : ℕ) (outside : Outside) :
    (call : RunCall) → RunCache × call.Answer
  | .getClaim => (shared, shared.claim)
  | .touchClaim => (shared, ())
  | .addClaim =>
      match shared.claim with
      | none => ({ shared with claim := some runId }, true)
      | some _ => (shared, false)
  | .deleteClaim => ({ shared with claim := none }, ())
  | .setDocument document =>
      ({ shared with
          document := some document
          recorded := if document.status = .succeeded then document.runId :: shared.recorded
            else shared.recorded }, ())
  | .publish => (shared, ())
  | .getProvider => (shared, shared.backend)
  | .nextResult =>
      (if outside.next.wrote then { shared with posted := runId :: shared.posted } else shared,
        outside.next)
  | .persistAppError => (shared, ())
  | .syncPayrollMirror => (shared, ())
  | .refreshLater => (shared, ())
  | .checkWeek => (shared, outside.roster)
  | .dispatch message => ({ shared with sent := message :: shared.sent }, ())

/-- The steps. -/
inductive RunAction where
  /-- The claim's time-to-live ends. -/
  | expireClaim
  /-- The document's time-to-live ends. -/
  | expireDocument
  /-- An operator asks for a week to be posted: a new run. -/
  | request (runId : ℕ) (weekStartDate : ℤ)
  /-- A worker takes a message of the broker, for the first time or again. -/
  | deliver (message : TaskMessage)
  | lose (party : ℕ)
  | proceed (party : ℕ) (outside : Outside)
  | fault (party : ℕ) (text : String)

/-- A party whose next call was answered. -/
def Party.resume (party : Party) (program : RunTask Unit) : Party :=
  { party with opened := true, program }

def postingSystem : Machine RunSystem RunAction := fun s a =>
  match a with
  | .expireClaim => some { s with shared := { s.shared with claim := none } }
  | .expireDocument => some { s with shared := { s.shared with document := none } }
  | .request runId weekStartDate =>
      if runId ∈ s.requested then none
      else
        some { s with
          parties := s.parties ++ [⟨runId, false, startPostWeekTask runId weekStartDate⟩]
          requested := runId :: s.requested }
  | .deliver message =>
      if message ∈ s.shared.sent then
        some { s with parties := s.parties ++ [⟨message.runId, false, postPayrollWeekTask message⟩] }
      else none
  | .lose i =>
      match s.parties[i]? with
      | none => none
      | some party =>
          some { s with parties := s.parties.set i (party.resume (.done (.ok ()))) }
  | .proceed i outside =>
      match s.parties[i]? with
      | none => none
      | some party =>
          match party.program with
          | .done _ => none
          | .call c next =>
              let (shared, answer) := s.shared.answer party.runId outside c
              some { s with shared, parties := s.parties.set i (party.resume (next (.ok answer))) }
  | .fault i text =>
      match s.parties[i]? with
      | none => none
      | some party =>
          match party.program with
          | .done _ => none
          | .call _ next =>
              some { s with parties := s.parties.set i (party.resume (next (.error (.raised text)))) }

/-- A connection on which nothing has been requested. -/
def RunSystem.fresh (backend : Backend) : RunSystem where
  shared :=
    { claim := none, document := none, backend, posted := [], recorded := [], sent := [] }
  parties := []
  requested := []

/-! ## What a step can be -/

variable {s s' : RunSystem}

lemma request_eq_some {runId : ℕ} {week : ℤ} (h : postingSystem s (.request runId week) = some s') :
    runId ∉ s.requested ∧
      s' = { s with
        parties := s.parties ++ [⟨runId, false, startPostWeekTask runId week⟩]
        requested := runId :: s.requested } := by
  simp only [postingSystem] at h
  split at h
  · cases h
  · exact ⟨‹_›, (Option.some.inj h).symm⟩

lemma deliver_eq_some {message : TaskMessage} (h : postingSystem s (.deliver message) = some s') :
    message ∈ s.shared.sent ∧
      s' = { s with
        parties := s.parties ++ [⟨message.runId, false, postPayrollWeekTask message⟩] } := by
  simp only [postingSystem] at h
  split at h
  · exact ⟨‹_›, (Option.some.inj h).symm⟩
  · cases h

lemma lose_eq_some {i : ℕ} (h : postingSystem s (.lose i) = some s') :
    ∃ party, s.parties[i]? = some party ∧
      s' = { s with parties := s.parties.set i (party.resume (.done (.ok ()))) } := by
  simp only [postingSystem] at h
  split at h
  · cases h
  · exact ⟨_, ‹_›, (Option.some.inj h).symm⟩

lemma proceed_eq_some {i : ℕ} {outside : Outside}
    (h : postingSystem s (.proceed i outside) = some s') :
    ∃ party c next, s.parties[i]? = some party ∧ party.program = .call c next ∧
      s' = { s with
        shared := (s.shared.answer party.runId outside c).1
        parties := s.parties.set i
          (party.resume (next (.ok (s.shared.answer party.runId outside c).2))) } := by
  simp only [postingSystem] at h
  split at h
  · cases h
  · rename_i party hparty
    split at h
    · cases h
    · exact ⟨party, _, _, hparty, ‹_›, (Option.some.inj h).symm⟩

lemma fault_eq_some {i : ℕ} {text : String} (h : postingSystem s (.fault i text) = some s') :
    ∃ party c next, s.parties[i]? = some party ∧ party.program = .call c next ∧
      s' = { s with
        parties := s.parties.set i (party.resume (next (.error (.raised text)))) } := by
  simp only [postingSystem] at h
  split at h
  · cases h
  · rename_i party hparty
    split at h
    · cases h
    · exact ⟨party, _, _, hparty, ‹_›, (Option.some.inj h).symm⟩

lemma mem_parties_set {parties : List Party} {i : ℕ} {party party' : Party}
    (h : party ∈ parties.set i party') :
    party = party' ∨ ∃ j, j ≠ i ∧ parties[j]? = some party := by
  obtain ⟨j, hj⟩ := List.mem_iff_getElem?.mp h
  by_cases hij : j = i
  · subst hij
    refine .inl ?_
    rw [List.getElem?_set_self'] at hj
    obtain ⟨_, _, rfl⟩ := Option.map_eq_some_iff.mp hj
    rfl
  · exact .inr ⟨j, hij, by rwa [List.getElem?_set_ne (Ne.symm hij)] at hj⟩

end Docketworks.Payroll
