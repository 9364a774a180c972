import Mathlib.Data.List.Infix
import Docketworks.Payroll.RunClaim

/-!
# The document of a posting run

What the run document says, against what the run did.

* `RunDocument.saysNothingPosted` — a terminal document whose text says that nothing was posted.
* `Truthful`, `KeepsSuccess` — such a document is of a run that posted nothing; a recorded success is not
  replaced by anything else of the same run.
* `DeliveredInTurn` — the steps on which the document can be relied on: one delivery of a run at a
  time, none that starts over what the run has posted or recorded, no text that says nothing was posted
  from a run that has posted, and nothing raised once success is recorded.
* `run_documents_truthful` — in a run whose steps all are, every document is truthful and keeps its
  success.
-/

namespace Docketworks.Payroll

open Library RunTask

/-! ## What a document says -/

def saysNothing (text : String) : Bool :=
  "othing was posted".toList <:+: text.toList

def RunDocument.saysNothingPosted (run : RunDocument) : Bool :=
  run.status ≠ .running && run.message.any saysNothing

/-- The stored document says that nothing was posted only if nothing was. -/
def Truthful (s : RunSystem) : Bool :=
  s.shared.document.all fun run => !run.saysNothingPosted || run.runId ∉ s.shared.posted

/-- A recorded success is not replaced by another document of the same run. -/
def KeepsSuccess (s s' : RunSystem) : Bool :=
  s.shared.document.all fun run => run.status ≠ .succeeded ||
    s'.shared.document.all fun run' => run'.runId ≠ run.runId || run'.status = .succeeded

/-- One person's week is posted, the worker dies, the claim expires and the message is delivered
again. -/
def redeliveredLate : List RunAction :=
  ([.request 1 0, .proceed 0 {}, .proceed 0 { roster := [7] }] : List RunAction) ++
    (List.replicate 3 (.proceed 0 {}) : List RunAction) ++
    ([.deliver ⟨1, [7], 0⟩] : List RunAction) ++ (List.replicate 5 (.proceed 1 {}) : List RunAction) ++
    ([.proceed 1 { next := ⟨true, .ok (some { staffId := 7, staffName := "Ana", success := true })⟩ },
      .lose 1, .expireClaim, .deliver ⟨1, [7], 0⟩] : List RunAction) ++
    (List.replicate 7 (.proceed 2 {}) : List RunAction)

/-- The week is posted and its success recorded, and the push of that document raises. -/
def publishedLate : List RunAction :=
  ([.request 1 0, .proceed 0 {}, .proceed 0 { roster := [7] }] : List RunAction) ++
    (List.replicate 3 (.proceed 0 {}) : List RunAction) ++
    ([.deliver ⟨1, [7], 0⟩] : List RunAction) ++ (List.replicate 5 (.proceed 1 {}) : List RunAction) ++
    ([.proceed 1 { next := ⟨true, .ok (some { staffId := 7, staffName := "Ana", success := true })⟩ }] :
      List RunAction) ++
    (List.replicate 8 (.proceed 1 {}) : List RunAction) ++
    ([.fault 1 "Connection refused.", .proceed 1 {}, .proceed 1 {}, .proceed 1 {}] : List RunAction)

/-- The worker of a delivery dies after one person was posted, its claim still stands, and the message is
delivered again and posts the week. -/
def redelivered : List RunAction :=
  ([.request 1 0, .proceed 0 {}, .proceed 0 { roster := [7] }] : List RunAction) ++
    (List.replicate 3 (.proceed 0 {}) : List RunAction) ++
    ([.deliver ⟨1, [7], 0⟩] : List RunAction) ++ (List.replicate 5 (.proceed 1 {}) : List RunAction) ++
    ([.proceed 1 { next := ⟨true, .ok (some { staffId := 7, staffName := "Ana", success := true })⟩ },
      .lose 1, .deliver ⟨1, [7], 0⟩] : List RunAction) ++
    (List.replicate 5 (.proceed 2 {}) : List RunAction) ++
    ([.proceed 2 { next := ⟨true, .ok (some { staffId := 7, staffName := "Ana", success := true })⟩ }] :
      List RunAction) ++
    (List.replicate 9 (.proceed 2 {}) : List RunAction)

/-- The redelivered run says that nothing was posted, and the run whose push raised replaces its success
by a failure. -/
theorem run_document_untruthful :
    ((postingSystem.run (RunSystem.fresh ⟨"Xero", true⟩) redeliveredLate).any fun s =>
        !Truthful s) = true ∧
      ((postingSystem.run (RunSystem.fresh ⟨"Xero", true⟩) publishedLate).any fun s =>
        (postingSystem s (.proceed 1 {})).any fun s' => !KeepsSuccess s s') = true := by
  decide +kernel

/-! ## What one party knows of its run -/

/-- What is so of a run, and whether the party has made a call yet. -/
structure RunFacts where
  opened : Bool
  posted : Bool
  recorded : Bool
  quiet : Bool

def RunFacts.stored (m : RunFacts) (run : RunDocument) : RunFacts :=
  { m with
    opened := true
    recorded := m.recorded || run.status = .succeeded
    quiet := run.saysNothingPosted }

/-- What a party may raise while these facts are so. -/
def RunFacts.raises (m : RunFacts) (c : RunCall) (text : String) : Prop :=
  (saysNothing text = true → m.posted = false) ∧
    (m.recorded = true → c ≠ .publish ∧ c ≠ .persistAppError)

/-- A party of run `runId` that stores only what is so, and posts only over a document that does not
say that nothing was posted. -/
def documentMonitor (runId : ℕ) : Monitor RunCall RunCall.Answer RunError RunFacts where
  allows m c :=
    match c with
    | .setDocument run => run.runId = runId ∧ (run.saysNothingPosted = true → m.posted = false) ∧
        (m.recorded = true → run.status = .succeeded)
    | .nextResult => m.quiet = false
    | .dispatch message => message.runId = runId
    | _ => True
  expects m c answer :=
    match c, answer with
    | .getClaim, .ok holder => m.opened = false →
        m.recorded = false ∧ (holds runId holder = true ∨ m.posted = false)
    | .getProvider, .ok provider => Backend.supportsPayroll provider = false →
        saysNothing (Backend.refusal provider) = true → m.posted = false
    | .nextResult, .ok next => ∀ text, next.outcome = .error text → saysNothing text = true →
        m.posted = false ∧ next.wrote = false
    | c, .error (.raised text) => m.raises c text
    | _, .error .claimLost => False
    | _, _ => True
  after m c answer :=
    match c, answer with
    | .setDocument run, .ok _ => m.stored run
    | .nextResult, .ok next => { m with opened := true, posted := m.posted || next.wrote }
    | _, _ => { m with opened := true }

section Programs

variable {r : ℕ} {m : RunFacts} {α : Type} {p : RunTask α} {Q : RunFacts → Except RunError α → Prop}

/-- Calls that change no fact. -/
def RunCall.plain : RunCall → Bool
  | .setDocument _ | .nextResult | .dispatch _ => false
  | _ => true

/-- The facts stay as they are, and a text that says nothing was posted is true. -/
def Kept (m m' : RunFacts) (result : Except RunError α) : Prop :=
  m' = m ∧ ∀ text, result = .error (.raised text) → saysNothing text = true → m.posted = false

/-- A call that changes nothing; the push and the record of an error do not raise once success is
recorded. -/
lemma plain_kept {c : RunCall} (hc : c.plain = true) (hm : m.opened = true) :
    Obeys (documentMonitor r) m (Process.perform c) fun m' result => Kept m m' result ∧
      (m.recorded = true → c = .publish ∨ c = .persistAppError → ∃ a, result = .ok a) ∧
      result ≠ .error .claimLost := by
  have hopened : { m with opened := true } = m := by rw [← hm]
  refine Obeys.perform (by cases c <;> first | exact trivial | cases hc) fun answer hexpects => ?_
  have hafter : (documentMonitor r).after m c answer = m := by
    cases c
    case setDocument => cases hc
    case nextResult => cases hc
    case dispatch => cases hc
    all_goals cases answer <;> exact hopened
  have hraises : ∀ text, answer = .error (.raised text) → m.raises c text := by
    rintro text rfl
    cases c <;> exact hexpects
  have hlost : answer ≠ .error .claimLost := by
    rintro rfl
    cases c <;> exact hexpects
  refine ⟨⟨hafter, fun text ht => (hraises text ht).1⟩, fun hrecorded hcalls => ?_, hlost⟩
  match answer with
  | .ok a => exact ⟨a, rfl⟩
  | .error .claimLost => exact absurd rfl hlost
  | .error (.raised text) =>
      obtain ⟨hpublish, hpersist⟩ := (hraises text rfl).2 hrecorded
      exact absurd hcalls (by rintro (h | h) <;> contradiction)

lemma plain_keeps {c : RunCall} (hc : c.plain = true) (hm : m.opened = true) :
    Obeys (documentMonitor r) m (Process.perform c) (Kept m) :=
  (plain_kept hc hm).imp fun _ _ h => h.1

lemma keeps_bind {β : Type} {p : RunTask α} {f : α → RunTask β}
    (hp : Obeys (documentMonitor r) m p (Kept m))
    (hf : ∀ a, Obeys (documentMonitor r) m (f a) (Kept m)) :
    Obeys (documentMonitor r) m (p >>= f) (Kept m) := by
  refine hp.bind (fun _ a h => ?_) fun _ _ h => ⟨h.1, fun text ht => h.2 text (by cases ht; rfl)⟩
  rw [h.1]
  exact hf a

lemma keeps_pure (a : α) : Obeys (documentMonitor r) m (pure a : RunTask α) (Kept m) :=
  Obeys.done ⟨rfl, fun _ => nofun⟩

lemma keeps_raise_claimLost :
    Obeys (documentMonitor r) m (Process.raise .claimLost : RunTask α) (Kept m) :=
  Obeys.done ⟨rfl, fun _ => nofun⟩

/-! ### The claim -/

lemma renewRunClaim_keeps (hm : m.opened = true) :
    Obeys (documentMonitor r) m (renewRunClaim r) (Kept m) := by
  refine keeps_bind (plain_keeps rfl hm) fun holder => ?_
  split
  · exact keeps_raise_claimLost
  · exact plain_keeps rfl hm

lemma reclaimOrRefuse_keeps (hm : m.opened = true) :
    Obeys (documentMonitor r) m (reclaimOrRefuse r) (Kept m) := by
  refine keeps_bind (plain_keeps rfl hm) fun holder => ?_
  split
  · exact keeps_bind (plain_keeps rfl hm) fun _ => keeps_pure true
  · exact plain_keeps rfl hm

lemma releaseRunClaim_keeps (hm : m.opened = true) :
    Obeys (documentMonitor r) m (releaseRunClaim r) (Kept m) := by
  refine keeps_bind (plain_keeps rfl hm) fun holder => ?_
  split
  · exact plain_keeps rfl hm
  · exact keeps_pure ()

/-! ### The document -/

/-- The document is one this party may store now. -/
def Storable (r : ℕ) (m : RunFacts) (run : RunDocument) : Prop :=
  run.runId = r ∧ (run.saysNothingPosted = true → m.posted = false) ∧
    (m.recorded = true → run.status = .succeeded)

/-- What writing a document leaves: it is stored, or it is not and the write raised.  A write that
records success does not raise. -/
def Written (m : RunFacts) (run : RunDocument) (m' : RunFacts) (result : Except RunError Unit) : Prop :=
  (m' = m.stored run ∨ m' = m ∧ ∃ e, result = .error e) ∧
    ∀ e, result = .error e → (m'.recorded = true → m.recorded = true) ∧
      ∀ text, e = .raised text → saysNothing text = true → m.posted = false

lemma Written.eq_stored {run : RunDocument} {m' : RunFacts} (h : Written m run m' (.ok ())) :
    m' = m.stored run := by
  rcases h.1 with h | ⟨-, e, he⟩
  · exact h
  · cases he

lemma write_written {run : RunDocument} (hm : m.opened = true) (hrun : Storable r m run) :
    Obeys (documentMonitor r) m (write run) (Written m run) := by
  have hopened : { m with opened := true } = m := by rw [← hm]
  refine Obeys.bind (Q := fun m' result => (∀ a, result = .ok a → m' = m.stored run) ∧
    ∀ e, result = .error e → m' = m ∧ ∀ text, e = .raised text → m.raises (.setDocument run) text)
    ?_ ?_ ?_
  · refine Obeys.perform hrun fun answer hexpects => ?_
    match answer with
    | .ok a => exact ⟨fun _ _ => rfl, fun _ => nofun⟩
    | .error .claimLost => exact absurd hexpects id
    | .error (.raised text) =>
        refine ⟨fun _ => nofun, fun e he => ⟨hopened, ?_⟩⟩
        cases he
        rintro text' ⟨⟩
        exact hexpects
  · intro m' a h
    rw [h.1 a rfl]
    refine (plain_kept rfl rfl).imp fun m'' result hkept => ⟨.inl hkept.1.1, ?_⟩
    rintro e rfl
    refine ⟨fun hrecorded => ?_, ?_⟩
    · rw [hkept.1.1] at hrecorded
      obtain ⟨a, ha⟩ := hkept.2.1 hrecorded (.inl rfl)
      cases ha
    · rintro text rfl
      exact hkept.1.2 text rfl
  · intro m' e h
    obtain ⟨rfl, htext⟩ := h.2 e rfl
    refine ⟨.inr ⟨rfl, e, rfl⟩, fun e' he' => ⟨id, ?_⟩⟩
    cases he'
    exact fun text he => (htext text he).1

lemma RunDocument.not_saysNothingPosted_of_running {run : RunDocument} (h : run.status = .running) :
    run.saysNothingPosted = false := by
  simp [RunDocument.saysNothingPosted, h]

lemma storable_running {run : RunDocument} (hr : run.runId = r) (h : run.status = .running)
    (hm : m.recorded = false) : Storable r m run :=
  ⟨hr, fun hq => absurd hq (by simp [RunDocument.not_saysNothingPosted_of_running h]),
    fun hrecorded => absurd hrecorded (by simp [hm])⟩

/-- What an exception may be after which the run is closed as failed: success is not recorded, and a
text that says nothing was posted is true. -/
def Excused (m : RunFacts) (e : RunError) : Prop :=
  m.recorded = false ∧ ∀ text, e = .raised text → saysNothing text = true → m.posted = false

lemma storable_failed {run : RunDocument} {text : String} (hr : run.runId = r)
    (hm : Excused m (.raised text)) : Storable r m (run.finished .failed (some text)) :=
  ⟨hr, fun hq => hm.2 text rfl (by simpa [RunDocument.saysNothingPosted, RunDocument.finished] using hq),
    fun hrecorded => absurd hrecorded (by simp [hm.1])⟩

lemma storable_succeeded {run : RunDocument} (hr : run.runId = r) :
    Storable r m (run.finished .succeeded none) :=
  ⟨hr, fun hq => absurd hq (by simp [RunDocument.saysNothingPosted, RunDocument.finished]),
    fun _ => rfl⟩

/-- What closing a run leaves. -/
def Closed (m m' : RunFacts) (result : Except RunError Unit) : Prop :=
  m'.opened = true ∧ m'.posted = m.posted ∧
    ∀ e, result = .error e → (m'.recorded = true → m.recorded = true) ∧
      ∀ text, e = .raised text → saysNothing text = true → m.posted = false

lemma Written.closed {run : RunDocument} {m' : RunFacts} {result : Except RunError Unit}
    (hm : m.opened = true) (h : Written m run m' result) : Closed m m' result := by
  refine ⟨?_, ?_, h.2⟩
  · rcases h.1 with rfl | ⟨rfl, -⟩
    · rfl
    · exact hm
  · rcases h.1 with rfl | ⟨rfl, -⟩ <;> rfl

lemma closeRunIfOwned_closed {run : RunDocument} (hm : m.opened = true) (hrun : Storable r m run) :
    Obeys (documentMonitor r) m (closeRunIfOwned r (pure run)) (Closed m) := by
  refine (reclaimOrRefuse_keeps hm).bind ?_ ?_
  · rintro _ owned ⟨rfl, -⟩
    cases owned with
    | false => exact Obeys.done ⟨hm, rfl, fun _ => nofun⟩
    | true => exact (write_written hm hrun).imp fun _ _ h => h.closed hm
  · rintro _ e ⟨rfl, htext⟩
    refine ⟨hm, rfl, fun e' he' => ⟨id, ?_⟩⟩
    cases he'
    rintro text rfl
    exact htext text rfl

/-! ### The task -/

lemma afterPostMirrorRefresh_excused (hm : m.opened = true) :
    Obeys (documentMonitor r) m afterPostMirrorRefresh fun m' result => m'.opened = true ∧
      ∀ e, result = .error e → Excused m' e := by
  unfold afterPostMirrorRefresh
  refine Obeys.tryCatch (Q := Kept m) ?_ ?_ ?_
  · exact keeps_bind (plain_keeps rfl hm) fun _ => plain_keeps rfl hm
  · rintro _ _ ⟨rfl, -⟩
    exact ⟨hm, fun _ => nofun⟩
  · rintro _ _ ⟨rfl, -⟩
    refine (plain_kept rfl hm).imp ?_
    rintro _ result ⟨⟨rfl, htext⟩, hcalls, -⟩
    refine ⟨hm, ?_⟩
    rintro e rfl
    refine ⟨?_, fun text he => htext text (congrArg _ he)⟩
    by_contra hrecorded
    obtain ⟨a, ha⟩ := hcalls (by simpa using hrecorded) (.inr rfl)
    cases ha

lemma recordSuccess_excused {run : RunDocument} (hr : run.runId = r) (hm : m.opened = true)
    (hrecorded : m.recorded = false) :
    Obeys (documentMonitor r) m (recordSuccess run) fun m' result => m'.opened = true ∧
      ∀ e, result = .error e → Excused m' e := by
  subst hr
  refine (closeRunIfOwned_closed hm (storable_succeeded rfl)).bind ?_ ?_
  · exact fun m' _ h => afterPostMirrorRefresh_excused h.1
  · rintro m' e ⟨hopened, hposted, herror⟩
    refine ⟨hopened, fun e' he' => ?_⟩
    cases he'
    obtain ⟨hkeeps, htext⟩ := herror e rfl
    refine ⟨?_, fun text he hanswer => hposted ▸ htext text he hanswer⟩
    by_contra h
    simp [hrecorded] at hkeeps
    simp [hkeeps] at h

/-- What the loop and the body of the `try` leave: the latest document, and an exception that excuses a
failure. -/
def BodyEnds (r : ℕ) (m : RunFacts) (body : RunBody) : Prop :=
  m.opened = true ∧ body.1.runId = r ∧ (∀ e, body.2 = .error e → Excused m e)

lemma nextResult_excused (hquiet : m.quiet = false) :
    Obeys (documentMonitor r) m nextResult fun m' result =>
      (m'.opened = true ∧ m'.recorded = m.recorded ∧ m'.quiet = false) ∧
        ∀ text, result = .error (.raised text) → saysNothing text = true → m'.posted = false := by
  refine Obeys.bind (Q := fun m' result => (m'.opened = true ∧ m'.recorded = m.recorded ∧
      m'.quiet = false) ∧
    (∀ next, result = .ok next → ∀ text, next.outcome = .error text → saysNothing text = true →
      m'.posted = false) ∧
    ∀ text, result = .error (.raised text) → saysNothing text = true → m'.posted = false) ?_ ?_ ?_
  · refine Obeys.perform hquiet fun answer hexpects => ?_
    match answer with
    | .ok next =>
        refine ⟨⟨rfl, rfl, hquiet⟩, ?_, fun _ => nofun⟩
        rintro _ ⟨⟩ text houtcome hanswer
        obtain ⟨hposted, hwrote⟩ := hexpects text houtcome hanswer
        simp [documentMonitor, hposted, hwrote]
    | .error .claimLost => exact absurd hexpects id
    | .error (.raised text) =>
        refine ⟨⟨rfl, rfl, hquiet⟩, fun _ => nofun, ?_⟩
        rintro _ ⟨⟩ hanswer
        exact hexpects.1 hanswer
  · rintro m' next ⟨hfacts, hnext, -⟩
    cases houtcome : next.outcome with
    | ok result => exact Obeys.done ⟨hfacts, fun _ => nofun⟩
    | error text =>
        refine Obeys.done ⟨hfacts, ?_⟩
        rintro _ ⟨⟩ hanswer
        exact hnext next rfl text houtcome hanswer
  · rintro m' e ⟨hfacts, -, herror⟩
    refine ⟨hfacts, fun text he => herror text ?_⟩
    cases he
    rfl

lemma getProvider_expected (hm : m.opened = true) :
    Obeys (documentMonitor r) m getProvider fun m' result => Kept m m' result ∧
      ∀ provider, result = .ok provider → provider.supportsPayroll = false →
        saysNothing provider.refusal = true → m.posted = false := by
  have hopened : { m with opened := true } = m := by rw [← hm]
  refine Obeys.perform trivial fun answer hexpects => ?_
  match answer with
  | .ok provider =>
      refine ⟨⟨hopened, fun _ => nofun⟩, ?_⟩
      rintro _ ⟨⟩
      exact hexpects
  | .error .claimLost => exact absurd hexpects id
  | .error (.raised text) =>
      refine ⟨⟨hopened, ?_⟩, fun _ => nofun⟩
      rintro _ ⟨⟩
      exact hexpects.1

/-- One round posts over a document that does not say that nothing was posted, and stores one that is
running. -/
lemma postResults_ends {run : RunDocument} (hr : run.runId = r) (hrunning : run.status = .running)
    (staffIds : List ℕ) (hrecorded : m.recorded = false) (hquiet : m.quiet = false) :
    Obeys (documentMonitor r) m (postResults run staffIds) fun m' result =>
      ∃ body, result = .ok body ∧ BodyEnds r m' body ∧ m'.recorded = false := by
  induction staffIds generalizing run m with
  | nil =>
      refine (nextResult_excused hquiet).attempt_bind ?_
      rintro m' (e | next) ⟨⟨hopened, hrec, -⟩, htext⟩
      · refine ⟨_, rfl, ⟨hopened, hr, ?_⟩, hrec.trans hrecorded⟩
        rintro e' ⟨⟩
        exact ⟨hrec.trans hrecorded, fun text he => htext text (by rw [he])⟩
      · exact ⟨_, rfl, ⟨hopened, hr, fun _ => nofun⟩, hrec.trans hrecorded⟩
  | cons staffId staffIds ih =>
      refine (nextResult_excused hquiet).attempt_bind ?_
      rintro m' (e | _ | result) ⟨⟨hopened, hrec, hquiet'⟩, htext⟩
      · refine ⟨_, rfl, ⟨hopened, hr, ?_⟩, hrec.trans hrecorded⟩
        rintro e' ⟨⟩
        exact ⟨hrec.trans hrecorded, fun text he => htext text (by rw [he])⟩
      · exact ⟨_, rfl, ⟨hopened, hr, fun _ => nofun⟩, hrec.trans hrecorded⟩
      · have hrec' : m'.recorded = false := hrec.trans hrecorded
        rw [hr]
        refine (renewRunClaim_keeps hopened).attempt_bind ?_
        rintro _ (e | _) ⟨rfl, herror⟩
        · refine ⟨_, rfl, ⟨hopened, hr, ?_⟩, hrec'⟩
          rintro e' ⟨⟩
          exact ⟨hrec', fun text he => herror text (by rw [he])⟩
        · simp only
          generalize hnext : run.withResult result (run.completed + 1)
            (if result.success then run.successful + 1 else run.successful)
            (if result.success then run.failed else run.failed + 1) = run'
          have hr' : run'.runId = r := by rw [← hnext]; exact hr
          have hrunning' : run'.status = .running := by rw [← hnext]; exact hrunning
          refine (write_written hopened (storable_running hr' hrunning' hrec')).attempt_bind ?_
          rintro m'' (e | _) hwritten
          · have hclosed := hwritten.closed hopened
            obtain ⟨hkeeps, htext'⟩ := hclosed.2.2 e rfl
            have hrec'' : m''.recorded = false := by
              by_contra h
              exact absurd (hkeeps (by simpa using h)) (by simp [hrec'])
            refine ⟨_, rfl, ⟨hclosed.1, hr', ?_⟩, hrec''⟩
            rintro e' ⟨⟩
            exact ⟨hrec'', fun text he hanswer => hclosed.2.1 ▸ htext' text he hanswer⟩
          · have hm'' := hwritten.eq_stored
            rw [hm'']
            refine ih hr' hrunning' ?_ ?_
            · simp [RunFacts.stored, hrec', hrunning']
            · exact RunDocument.not_saysNothingPosted_of_running hrunning'

lemma postWeek_ends {run : RunDocument} (hr : run.runId = r) (hrunning : run.status = .running)
    (staffIds : List ℕ) (hm : m.opened = true) (hrecorded : m.recorded = false)
    (hquiet : m.quiet = false) :
    Obeys (documentMonitor r) m (postWeek run staffIds) fun m' result =>
      ∃ body, result = .ok body ∧ BodyEnds r m' body := by
  refine (getProvider_expected hm).attempt_bind ?_
  rintro _ (e | provider) ⟨⟨rfl, htext⟩, hrefusal⟩
  · refine ⟨_, rfl, hm, hr, ?_⟩
    rintro e' ⟨⟩
    exact ⟨hrecorded, fun text he => htext text (by rw [he])⟩
  · by_cases hp : provider.supportsPayroll
    · simp only [hp, Bool.not_true, Bool.false_eq_true, if_false]
      refine (postResults_ends hr hrunning staffIds hrecorded hquiet).bind ?_ ?_
      · rintro m' _ ⟨⟨run', e | _⟩, ⟨⟩, hbody, hrec⟩
        · exact ⟨_, rfl, hbody⟩
        · refine (recordSuccess_excused hbody.2.1 hbody.1 hrec).attempt_bind ?_
          rintro m'' ended ⟨hopened, hexcused⟩
          exact ⟨_, rfl, hopened, hbody.2.1, hexcused⟩
      · rintro _ _ ⟨_, ⟨⟩, -⟩
    · simp only [hp, Bool.not_false, if_true]
      refine ⟨_, rfl, hm, hr, ?_⟩
      rintro e' ⟨⟩
      refine ⟨hrecorded, ?_⟩
      rintro text ⟨⟩ hanswer
      exact hrefusal provider rfl (by simpa using hp) hanswer

lemma handleEnd_opened {body : RunBody} (h : BodyEnds r m body) :
    Obeys (documentMonitor r) m (handleEnd body) fun m' _ => m'.opened = true := by
  obtain ⟨hopened, rfl, hexcused⟩ := h
  rcases body with ⟨run, (_ | text) | _⟩
  · refine (plain_keeps rfl hopened).bind ?_ ?_
    · rintro m' _ ⟨rfl, -⟩
      have hlost : Excused m' (.raised lostMidRun) :=
        ⟨(hexcused _ rfl).1, by
          rintro _ ⟨⟩ hanswer
          exact absurd hanswer (by decide +kernel)⟩
      exact (closeRunIfOwned_closed hopened (storable_failed rfl hlost)).bind (fun _ _ h => h.1)
        fun _ _ h => h.1
    · rintro _ _ ⟨rfl, -⟩
      exact hopened
  · refine (plain_keeps rfl hopened).bind ?_ ?_
    · rintro _ _ ⟨rfl, -⟩
      exact (closeRunIfOwned_closed hopened (storable_failed rfl (hexcused _ rfl))).bind
        (fun _ _ h => h.1) fun _ _ h => h.1
    · rintro _ _ ⟨rfl, -⟩
      exact hopened
  · exact hopened

lemma running_written (hm : m.opened = true) (hrecorded : m.recorded = false) {week : ℤ}
    {total : ℕ} :
    Obeys (documentMonitor r) m (running r week total) fun m' result =>
      m'.opened = true ∧ m'.recorded = false ∧ m'.posted = m.posted ∧
        ∀ run, result = .ok run → m'.quiet = false ∧ run = RunDocument.opened r week total := by
  have hstorable : Storable r m (RunDocument.opened r week total) := storable_running rfl rfl hrecorded
  have hstored : (m.stored (RunDocument.opened r week total)).recorded = false := by
    simp [RunFacts.stored, hrecorded, RunDocument.opened]
  refine (write_written hm hstorable).bind ?_ ?_
  · intro m' _ hwritten
    rw [hwritten.eq_stored]
    refine ⟨rfl, hstored, rfl, ?_⟩
    rintro run ⟨⟩
    exact ⟨@RunDocument.not_saysNothingPosted_of_running (.opened r week total) rfl, rfl⟩
  · intro m' e hwritten
    rcases hwritten.1 with rfl | ⟨rfl, -⟩
    · exact ⟨rfl, hstored, rfl, fun _ => nofun⟩
    · exact ⟨hm, hrecorded, rfl, fun _ => nofun⟩

lemma closeNeverStarted_stores (message : TaskMessage) (hm : m.opened = true)
    (hrecorded : m.recorded = false) (hposted : m.posted = false) :
    Obeys (documentMonitor message.runId) m (closeNeverStarted message) fun _ _ => True := by
  refine (plain_keeps rfl hm).bind ?_ fun _ _ _ => trivial
  rintro _ _ ⟨rfl, -⟩
  refine Obeys.bind (Q := fun m' _ => m'.opened = true) ?_ ?_ fun _ _ _ => trivial
  · refine (reclaimOrRefuse_keeps hm).bind ?_ fun _ _ h => h.1 ▸ hm
    rintro _ owned ⟨rfl, -⟩
    cases owned with
    | false => exact hm
    | true =>
        refine Obeys.bind (Q := fun m' result => m'.opened = true ∧ ∀ run, result = .ok run →
          Storable message.runId m' run) ?_ ?_ fun _ _ h => h.1
        · refine (running_written hm hrecorded).bind ?_ fun _ _ h => ⟨h.1, fun _ => nofun⟩
          rintro m' run ⟨hopened, hrec, hposted', hrun⟩
          refine Obeys.done ⟨hopened, ?_⟩
          rintro _ ⟨⟩
          rw [(hrun run rfl).2]
          exact storable_failed rfl ⟨hrec, fun _ _ _ => hposted'.trans hposted⟩
        · rintro m' run ⟨hopened, hstorable⟩
          exact (write_written hopened (hstorable run rfl)).imp fun _ _ h => (h.closed hopened).1
  · intro m' _ hopened
    exact (releaseRunClaim_keeps hopened).bind (fun _ _ _ => trivial) fun _ _ _ => trivial

lemma postClaimed_stores (message : TaskMessage) (hm : m.opened = true)
    (hrecorded : m.recorded = false) :
    Obeys (documentMonitor message.runId) m (postClaimed message) fun _ _ => True := by
  refine (running_written hm hrecorded).bind ?_ fun _ _ _ => trivial
  rintro m' run ⟨hopened, hrec, -, hrun⟩
  obtain ⟨hquiet, rfl⟩ := hrun run rfl
  refine Obeys.ensuring (Q := fun m' _ => m'.opened = true) ?_
    fun _ _ h => (releaseRunClaim_keeps h).imp fun _ _ _ => trivial
  refine (@postWeek_ends _ _ (.opened message.runId message.weekStartDate message.staffIds.length)
    rfl rfl message.staffIds hopened hrec hquiet).bind ?_ ?_
  · rintro m'' body ⟨_, ⟨⟩, hbody⟩
    exact handleEnd_opened hbody
  · rintro _ _ ⟨_, ⟨⟩, -⟩

/-! ### The first call -/

/-- A delivery that reads the claim for the first time does so before it has recorded success, and finds
the claim its own unless nothing was posted. -/
lemma getClaim_first (hm : m.opened = false) :
    Obeys (documentMonitor r) m getClaim fun m' result =>
      m' = { m with opened := true } ∧ result ≠ .error .claimLost ∧ ∀ holder, result = .ok holder →
        m.recorded = false ∧ (holder = some r ∨ m.posted = false) := by
  refine Obeys.perform trivial fun answer hexpects => ?_
  rcases answer with (_ | text) | holder
  · exact absurd hexpects id
  · exact ⟨rfl, by rintro ⟨⟩, by rintro _ ⟨⟩⟩
  · refine ⟨rfl, by rintro ⟨⟩, ?_⟩
    rintro _ ⟨⟩
    obtain ⟨hrecorded, h⟩ := hexpects hm
    exact ⟨hrecorded, by simpa [holds] using h⟩

lemma renewRunClaim_first (hm : m.opened = false) :
    Obeys (documentMonitor r) m (renewRunClaim r) fun m' result =>
      m' = { m with opened := true } ∧ (result = .ok () → m.recorded = false) ∧
        (result = .error .claimLost → m.recorded = false ∧ m.posted = false) := by
  refine (getClaim_first hm).bind ?_ ?_
  · rintro _ holder ⟨rfl, -, hholder⟩
    obtain ⟨hrecorded, hclaim⟩ := hholder holder rfl
    by_cases h : holder = some r
    · simp only [h, ne_eq, not_true_eq_false, if_false]
      refine (plain_kept rfl rfl).imp ?_
      rintro _ result ⟨⟨rfl, -⟩, -, hlost⟩
      exact ⟨rfl, fun _ => hrecorded, fun h => absurd h hlost⟩
    · rw [if_pos h]
      exact ⟨rfl, nofun, fun _ => ⟨hrecorded, hclaim.resolve_left h⟩⟩
  · rintro _ e ⟨rfl, hlost, -⟩
    exact ⟨rfl, nofun, fun h => absurd (by cases h; rfl) hlost⟩

/-- **The task stores what is so.** -/
theorem postPayrollWeekTask_stores (message : TaskMessage) (hm : m.opened = false) :
    Obeys (documentMonitor message.runId) m (postPayrollWeekTask message) fun _ _ => True := by
  refine (renewRunClaim_first hm).attempt_bind ?_
  rintro _ ((_ | text) | _) ⟨rfl, hok, hlost⟩
  · obtain ⟨hrecorded, hposted⟩ := hlost rfl
    exact closeNeverStarted_stores message rfl hrecorded hposted
  · trivial
  · exact postClaimed_stores message rfl (hok rfl)

/-! ### The request -/

/-- A run that has done nothing. -/
def Blank (m : RunFacts) : Prop := m.opened = true ∧ m.recorded = false ∧ m.posted = false

lemma plain_blank {c : RunCall} (hc : c.plain = true) (hm : m.recorded = false ∧ m.posted = false) :
    Obeys (documentMonitor r) m (Process.perform c) fun m' _ => Blank m' := by
  refine Obeys.perform (by cases c <;> first | exact trivial | cases hc) fun answer _ => ?_
  cases c
  case setDocument => cases hc
  case nextResult => cases hc
  case dispatch => cases hc
  all_goals cases answer <;> exact ⟨rfl, hm⟩

lemma dispatch_blank {message : TaskMessage} (hm : Blank m) (hr : message.runId = r) :
    Obeys (documentMonitor r) m (dispatch message) fun m' _ => Blank m' :=
  Obeys.perform hr fun answer _ => by cases answer <;> exact ⟨rfl, hm.2⟩

lemma releaseRunClaim_blank (hm : Blank m) :
    Obeys (documentMonitor r) m (releaseRunClaim r) fun m' _ => Blank m' :=
  (releaseRunClaim_keeps hm.1).imp fun _ _ h => h.1 ▸ hm

lemma write_blank {run : RunDocument} (hm : Blank m) (hr : run.runId = r)
    (hstatus : run.status ≠ .succeeded) :
    Obeys (documentMonitor r) m (write run) fun m' _ => Blank m' := by
  have hstorable : Storable r m run :=
    ⟨hr, fun _ => hm.2.2, fun h => absurd h (by simp [hm.2.1])⟩
  refine (write_written hm.1 hstorable).imp fun m' _ h => ?_
  rcases h.1 with rfl | ⟨rfl, -⟩
  · exact ⟨rfl, by simp [RunFacts.stored, hm.2.1, hstatus], hm.2.2⟩
  · exact hm

lemma acquireRunClaim_blank (hm : m.recorded = false ∧ m.posted = false) :
    Obeys (documentMonitor r) m acquireRunClaim fun m' _ => Blank m' := by
  refine (plain_blank rfl hm).bind ?_ fun _ _ h => h
  rintro m' (_ | _) h
  · refine (plain_blank rfl h.2).bind ?_ fun _ _ h => h
    rintro _ (_ | holder) h <;> exact h
  · exact h

lemma closeUndispatched_obeys {run : Option RunDocument} (hm : Blank m)
    (hr : ∀ run', run = some run' → run'.runId = r) (e : RunError) :
    Obeys (documentMonitor r) m (closeUndispatched r run e) fun _ _ => True := by
  refine Obeys.bind (Q := fun _ _ => True) ?_ (fun _ _ _ => trivial) fun _ _ _ => trivial
  refine Obeys.ensuring (Q := fun m' _ => Blank m') ?_
    fun _ _ h => (releaseRunClaim_blank h).imp fun _ _ _ => trivial
  cases run with
  | none => exact hm
  | some run => exact write_blank hm (hr run rfl) (by simp [RunDocument.finished])

/-- **The request handler stores what is so**, of a run that has done nothing. -/
theorem startPostWeekTask_stores {week : ℤ} (hm : m.recorded = false ∧ m.posted = false) :
    Obeys (documentMonitor r) m (startPostWeekTask r week) fun _ _ => True := by
  refine (acquireRunClaim_blank hm).bind ?_ fun _ _ _ => trivial
  rintro m' (_ | holder) h
  · refine (plain_blank rfl h.2).attempt_bind ?_
    rintro m' (e | staffIds) h
    · exact (releaseRunClaim_blank h).bind (fun _ _ _ => trivial) fun _ _ _ => trivial
    · refine Obeys.bind (Q := fun m' result => Blank m' ∧ ∀ opened, result = .ok opened →
        ∀ run', opened.1 = some run' → run'.runId = r) ?_ ?_ fun _ _ _ => trivial
      · refine Obeys.attempt_bind (Q := fun m' result => Blank m' ∧ ∀ run, result = .ok run →
          run.runId = r) ?_ ?_
        · refine (write_blank h rfl (by simp [RunDocument.opened])).bind ?_ fun _ _ h => ⟨h, fun _ => nofun⟩
          rintro m' _ h
          refine ⟨h, ?_⟩
          rintro run ⟨⟩
          rfl
        · rintro m' (e | run) ⟨h, hr⟩
          · refine ⟨h, ?_⟩
            rintro _ ⟨⟩ run' ⟨⟩
          · refine (dispatch_blank h rfl).attempt_bind ?_
            rintro m' ended h
            refine ⟨h, ?_⟩
            rintro _ ⟨⟩ run' ⟨⟩
            exact hr run rfl
      · rintro m' ⟨run, e | _⟩ ⟨h, hr⟩
        · exact closeUndispatched_obeys h (hr _ rfl) e
        · trivial
  · trivial

end Programs

/-! ## The parties together -/

/-- What is so of the run of a party. -/
def RunSystem.facts (s : RunSystem) (party : Party) : RunFacts where
  opened := party.opened
  posted := party.runId ∈ s.shared.posted
  recorded := party.runId ∈ s.shared.recorded
  quiet := s.shared.document.any fun run => run.runId = party.runId && run.saysNothingPosted

/-- One delivery of a run at a time; a delivery that first reads the claim does so before success is
recorded, and finds the claim its own unless nothing was posted; a text that says nothing was posted
comes from a run that posted nothing; once success is recorded, neither the push nor the record of an
error raises. -/
def DeliveredInTurn (s : RunSystem) : RunAction → Bool
  | .deliver message => s.parties.all fun party =>
      party.runId ≠ message.runId || party.program.Finished
  | .proceed i outside => (s.parties[i]?).all fun party =>
      let posted := party.runId ∈ s.shared.posted
      match party.nextCall with
      | some .getClaim => party.opened ||
          (party.runId ∉ s.shared.recorded && (s.shared.claim = some party.runId || !posted))
      | some .getProvider => s.shared.backend.supportsPayroll ||
          !saysNothing s.shared.backend.refusal || !posted
      | some .nextResult =>
          match outside.next.outcome with
          | .ok _ => true
          | .error text => !saysNothing text || (!posted && !outside.next.wrote)
      | _ => true
  | .fault i text => (s.parties[i]?).all fun party =>
      (!saysNothing text || party.runId ∉ s.shared.posted) &&
        (party.runId ∉ s.shared.recorded ||
          (party.nextCall ≠ some .publish && party.nextCall ≠ some .persistAppError))
  | _ => true

/-- No two parties of one run are under way. -/
def Alone (parties : List Party) : Prop :=
  ∀ (i j : ℕ) (party other : Party), parties[i]? = some party → parties[j]? = some other →
    i ≠ j → party.runId = other.runId → party.program.Finished = true ∨ other.program.Finished = true

/-- What holds in every state of such a run. -/
structure InTurn (s : RunSystem) : Prop where
  stores : ∀ party ∈ s.parties,
    Obeys (documentMonitor party.runId) (s.facts party) party.program fun _ _ => True
  alone : Alone s.parties
  truthful : Truthful s = true
  recorded : ∀ run, s.shared.document = some run → run.status = .succeeded →
    run.runId ∈ s.shared.recorded
  posted_requested : ∀ runId ∈ s.shared.posted, runId ∈ s.requested
  recorded_requested : ∀ runId ∈ s.shared.recorded, runId ∈ s.requested
  party_requested : ∀ party ∈ s.parties, party.runId ∈ s.requested
  sent_requested : ∀ message ∈ s.shared.sent, message.runId ∈ s.requested

variable {s s' : RunSystem} {a : RunAction}

lemma stores_mono {runId : ℕ} {m m' : RunFacts} {program : RunTask Unit}
    (hm : m'.opened = m.opened ∧ m'.posted = m.posted ∧ m'.recorded = m.recorded ∧
      (m'.quiet = true → m.quiet = true))
    (h : Obeys (documentMonitor runId) m program fun _ _ => True) :
    Obeys (documentMonitor runId) m' program fun _ _ => True := by
  refine @Obeys.mono _ _ _ _ _ _ _ _ _ _ (fun m m' => m'.opened = m.opened ∧ m'.posted = m.posted ∧
    m'.recorded = m.recorded ∧ (m'.quiet = true → m.quiet = true)) ?_ ?_ ?_ ?_ hm h
  · rintro ⟨o, p, r, q⟩ ⟨_, _, _, q'⟩ c ⟨rfl, rfl, rfl, hq⟩ hc
    cases c
    case nextResult =>
      cases q' with
      | false => rfl
      | true => exact absurd (hq rfl) (Bool.eq_false_iff.mp hc)
    all_goals exact hc
  · rintro ⟨o, p, r, q⟩ ⟨_, _, _, q'⟩ c answer ⟨rfl, rfl, rfl, -⟩ hexpects
    cases c <;> rcases answer with (_ | _) | _ <;> exact hexpects
  · rintro ⟨o, p, r, q⟩ ⟨_, _, _, q'⟩ c answer ⟨rfl, rfl, rfl, hq⟩
    cases c <;> cases answer <;> first | exact ⟨rfl, rfl, rfl, hq⟩ | exact ⟨rfl, rfl, rfl, id⟩
  · exact fun _ _ _ _ _ => trivial

lemma answer_addClaim (shared : RunCache) (runId : ℕ) (outside : Outside) :
    ∃ claim, (shared.answer runId outside .addClaim).1 = { shared with claim } := by
  cases hclaim : shared.claim with
  | none => exact ⟨some runId, by simp [RunCache.answer, hclaim]⟩
  | some holder =>
      refine ⟨some holder, ?_⟩
      simp only [RunCache.answer, hclaim]
      rw [← hclaim]

lemma facts_of_answer {party : Party} {outside : Outside} {c : RunCall} {program : RunTask Unit}
    {parties : List Party} (hallows : (documentMonitor party.runId).allows (s.facts party) c) :
    RunSystem.facts ⟨(s.shared.answer party.runId outside c).1, parties, s.requested⟩
        (party.resume program) =
      (documentMonitor party.runId).after (s.facts party) c
        (.ok (s.shared.answer party.runId outside c).2) := by
  cases c
  case setDocument run =>
    have hrun : run.runId = party.runId := hallows.1
    by_cases hstatus : run.status = .succeeded
    · simp [RunSystem.facts, Party.resume, RunCache.answer, documentMonitor, RunFacts.stored, hstatus, hrun]
    · simp [RunSystem.facts, Party.resume, RunCache.answer, documentMonitor, RunFacts.stored, hstatus, hrun]
  case nextResult =>
    cases hwrote : outside.next.wrote with
    | true =>
        simp only [RunSystem.facts, Party.resume, RunCache.answer, documentMonitor, hwrote, if_true,
          List.mem_cons_self, decide_true, Bool.or_true]
        rfl
    | false =>
        simp only [RunSystem.facts, Party.resume, RunCache.answer, documentMonitor, hwrote,
          Bool.false_eq_true, if_false, Bool.or_false]
        rfl
  case addClaim =>
    obtain ⟨claim, hclaim⟩ := answer_addClaim s.shared party.runId outside
    rw [hclaim]
    rfl
  all_goals rfl

lemma facts_of_other {party other : Party} {outside : Outside} {c : RunCall}
    {parties : List Party} (hallows : (documentMonitor party.runId).allows (s.facts party) c)
    (hne : party.runId ≠ other.runId) :
    let m' := RunSystem.facts ⟨(s.shared.answer party.runId outside c).1, parties, s.requested⟩ other
    m'.opened = (s.facts other).opened ∧ m'.posted = (s.facts other).posted ∧
      m'.recorded = (s.facts other).recorded ∧
      (m'.quiet = true → (s.facts other).quiet = true) := by
  cases c
  case setDocument run =>
    have hrun : run.runId = party.runId := hallows.1
    refine ⟨rfl, rfl, ?_, ?_⟩
    · by_cases hstatus : run.status = .succeeded
      · simp [RunSystem.facts, RunCache.answer, hstatus, hrun, Ne.symm hne]
      · simp [RunSystem.facts, RunCache.answer, hstatus]
    · intro h
      simp [RunSystem.facts, RunCache.answer, hrun, hne] at h
  case nextResult =>
    by_cases hwrote : outside.next.wrote = true
    · simp [RunSystem.facts, RunCache.answer, hwrote, Ne.symm hne]
    · simp [RunSystem.facts, RunCache.answer, hwrote]
  case addClaim =>
    obtain ⟨claim, hclaim⟩ := answer_addClaim s.shared party.runId outside
    rw [hclaim]
    exact ⟨rfl, rfl, rfl, id⟩
  all_goals exact ⟨rfl, rfl, rfl, id⟩

lemma expects_of_deliveredInTurn {i : ℕ} {outside : Outside} {party : Party} {c : RunCall}
    {next : Except RunError c.Answer → RunTask Unit} (hparty : s.parties[i]? = some party)
    (hprogram : party.program = .call c next) (h : DeliveredInTurn s (.proceed i outside) = true) :
    (documentMonitor party.runId).expects (s.facts party) c
      (.ok (s.shared.answer party.runId outside c).2) := by
  have hnext : party.nextCall = some c := by simp [Party.nextCall, hprogram]
  simp only [DeliveredInTurn, hparty, Option.all_some, hnext] at h
  cases c
  case getClaim =>
    intro hopened
    have hopened' : party.opened = false := hopened
    have hfirst : party.runId ∉ s.shared.recorded ∧
        (s.shared.claim = some party.runId ∨ party.runId ∉ s.shared.posted) := by
      simpa [hopened'] using h
    refine ⟨by simpa [RunSystem.facts] using hfirst.1, ?_⟩
    rcases hfirst.2 with hclaim | hposted
    · exact .inl (show holds party.runId s.shared.claim = true by simp [holds, hclaim])
    · exact .inr (by simpa [RunSystem.facts] using hposted)
  case getProvider =>
    intro hsupports hanswer
    have hsupports' : s.shared.backend.supportsPayroll = false := hsupports
    have hanswer' : saysNothing s.shared.backend.refusal = true := hanswer
    simpa [hsupports', hanswer', RunSystem.facts] using h
  case nextResult =>
    intro text houtcome hanswer
    have houtcome' : outside.next.outcome = .error text := houtcome
    simpa [houtcome', hanswer, RunSystem.facts, RunCache.answer] using h
  all_goals trivial

lemma raises_of_deliveredInTurn {i : ℕ} {text : String} {party : Party} {c : RunCall}
    {next : Except RunError c.Answer → RunTask Unit} (hparty : s.parties[i]? = some party)
    (hprogram : party.program = .call c next) (h : DeliveredInTurn s (.fault i text) = true) :
    (documentMonitor party.runId).expects (s.facts party) c (.error (.raised text)) := by
  have hnext : party.nextCall = some c := by simp [Party.nextCall, hprogram]
  simp only [DeliveredInTurn, hparty, Option.all_some, hnext, Bool.and_eq_true] at h
  have hraises : (s.facts party).raises c text := by
    refine ⟨fun hanswer => ?_, fun hrecorded => ?_⟩
    · simpa [hanswer, RunSystem.facts] using h.1
    · have hrecorded' : party.runId ∈ s.shared.recorded := by simpa [RunSystem.facts] using hrecorded
      simpa [hrecorded'] using h.2
  cases c <;> exact hraises

lemma getElem?_concat_eq_some {parties : List Party} {party other : Party} {i : ℕ}
    (h : (parties ++ [party])[i]? = some other) :
    parties[i]? = some other ∨ i = parties.length ∧ other = party := by
  rcases Nat.lt_trichotomy i parties.length with hi | hi | hi
  · exact .inl (by rwa [List.getElem?_append_left hi] at h)
  · subst hi
    simp only [List.getElem?_concat_length, Option.some.injEq] at h
    exact .inr ⟨rfl, h.symm⟩
  · rw [List.getElem?_eq_none (by simpa using Nat.succ_le_of_lt hi)] at h
    cases h

lemma Alone.append {parties : List Party} {party : Party} (h : Alone parties)
    (hparty : ∀ other ∈ parties, other.runId = party.runId → other.program.Finished = true) :
    Alone (parties ++ [party]) := by
  intro i j p q hp hq hij hrun
  rcases getElem?_concat_eq_some hp with hp' | ⟨hi, rfl⟩
  · rcases getElem?_concat_eq_some hq with hq' | ⟨-, rfl⟩
    · exact h i j p q hp' hq' hij hrun
    · exact .inl (hparty p (List.mem_of_getElem? hp') hrun)
  · rcases getElem?_concat_eq_some hq with hq' | ⟨hj, rfl⟩
    · exact .inr (hparty q (List.mem_of_getElem? hq') hrun.symm)
    · exact absurd (hi.trans hj.symm) hij

lemma getElem?_set_eq_some {parties : List Party} {party other : Party} {i j : ℕ}
    (h : (parties.set i party)[j]? = some other) :
    j = i ∧ other = party ∨ j ≠ i ∧ parties[j]? = some other := by
  by_cases hij : j = i
  · subst hij
    rw [List.getElem?_set_self'] at h
    obtain ⟨_, _, rfl⟩ := Option.map_eq_some_iff.mp h
    exact .inl ⟨rfl, rfl⟩
  · exact .inr ⟨hij, by rwa [List.getElem?_set_ne (Ne.symm hij)] at h⟩

lemma Alone.set {parties : List Party} {i : ℕ} {party : Party} {program : RunTask Unit}
    (h : Alone parties) (hparty : parties[i]? = some party)
    (hfinished : party.program.Finished = true → program.Finished = true) :
    Alone (parties.set i (party.resume program)) := by
  intro j k p q hp hq hjk hrun
  rcases getElem?_set_eq_some hp with ⟨hj, rfl⟩ | ⟨-, hp'⟩
  · rcases getElem?_set_eq_some hq with ⟨hk, rfl⟩ | ⟨hk, hq'⟩
    · exact absurd (hj.trans hk.symm) hjk
    · exact (h i k party q hparty hq' (Ne.symm hk) hrun).imp_left hfinished
  · rcases getElem?_set_eq_some hq with ⟨hk, rfl⟩ | ⟨-, hq'⟩
    · exact (h j i p party hp' hparty (hk ▸ hjk) hrun).imp_right hfinished
    · exact h j k p q hp' hq' hjk hrun

lemma shared_of_answer {party : Party} (h : InTurn s) (hmem : party ∈ s.parties) (outside : Outside)
    {c : RunCall} (hallows : (documentMonitor party.runId).allows (s.facts party) c) :
    let shared := (s.shared.answer party.runId outside c).1
    Truthful { s with shared } = true ∧
      (∀ run, shared.document = some run → run.status = .succeeded → run.runId ∈ shared.recorded) ∧
      (∀ runId ∈ shared.posted, runId ∈ s.requested) ∧
      (∀ runId ∈ shared.recorded, runId ∈ s.requested) ∧
      ∀ message ∈ shared.sent, message.runId ∈ s.requested := by
  have hrequested := h.party_requested party hmem
  cases c
  case setDocument run =>
    obtain ⟨hrun, hposted, -⟩ := hallows
    refine ⟨?_, ?_, h.posted_requested, ?_, h.sent_requested⟩
    · by_cases hanswer : run.saysNothingPosted = true
      · have hnone : run.runId ∉ s.shared.posted := by
          simpa [RunSystem.facts, hrun] using hposted hanswer
        simp [Truthful, RunCache.answer, hnone]
      · simp [Truthful, RunCache.answer, hanswer]
    · rintro _ ⟨⟩ hstatus
      simp [RunCache.answer, hstatus]
    · intro runId hmem
      by_cases hstatus : run.status = .succeeded
      · simp only [RunCache.answer, hstatus, if_true, List.mem_cons] at hmem
        rcases hmem with rfl | hmem
        · exact hrun ▸ hrequested
        · exact h.recorded_requested runId hmem
      · simp only [RunCache.answer, hstatus, if_false] at hmem
        exact h.recorded_requested runId hmem
  case nextResult =>
    cases hwrote : outside.next.wrote with
    | false =>
        simp only [RunCache.answer, hwrote, Bool.false_eq_true, if_false]
        exact ⟨h.truthful, h.recorded, h.posted_requested, h.recorded_requested, h.sent_requested⟩
    | true =>
        simp only [RunCache.answer, hwrote, if_true]
        refine ⟨?_, h.recorded, ?_, h.recorded_requested, h.sent_requested⟩
        · -- what is posted is not of the run a document says nothing of
          have hquiet : (s.facts party).quiet = false := hallows
          have htruthful := h.truthful
          cases hdocument : s.shared.document with
          | none => simp [Truthful]
          | some run =>
              by_cases hanswer : run.saysNothingPosted = true
              · have hother : run.runId ≠ party.runId := by
                  simpa [RunSystem.facts, hdocument, hanswer] using hquiet
                have hposted : run.runId ∉ s.shared.posted := by
                  simpa [Truthful, hdocument, hanswer] using htruthful
                simp [Truthful, hother, hposted]
              · simp [Truthful, hanswer]
        · intro runId hmem
          rcases List.mem_cons.mp hmem with rfl | hmem
          · exact hrequested
          · exact h.posted_requested runId hmem
  case addClaim =>
    obtain ⟨claim, hclaim⟩ := answer_addClaim s.shared party.runId outside
    rw [hclaim]
    exact ⟨h.truthful, h.recorded, h.posted_requested, h.recorded_requested, h.sent_requested⟩
  case dispatch message =>
    refine ⟨h.truthful, h.recorded, h.posted_requested, h.recorded_requested, ?_⟩
    intro message' hmem
    rcases List.mem_cons.mp hmem with rfl | hmem
    · exact (show message'.runId = party.runId from hallows) ▸ hrequested
    · exact h.sent_requested message' hmem
  all_goals
    exact ⟨h.truthful, h.recorded, h.posted_requested, h.recorded_requested, h.sent_requested⟩

lemma InTurn.append {party : Party} {requested : List ℕ} (h : InTurn s)
    (hstores : Obeys (documentMonitor party.runId) (s.facts party) party.program fun _ _ => True)
    (halone : ∀ other ∈ s.parties, other.runId = party.runId → other.program.Finished = true)
    (hsub : s.requested ⊆ requested) (hrequested : party.runId ∈ requested) :
    InTurn { s with parties := s.parties ++ [party], requested } where
  stores p hp := by
    rcases List.mem_append.mp hp with hp | hp
    · exact h.stores p hp
    · rw [List.mem_singleton.mp hp]
      exact hstores
  alone := h.alone.append halone
  truthful := h.truthful
  recorded := h.recorded
  posted_requested runId hmem := hsub (h.posted_requested runId hmem)
  recorded_requested runId hmem := hsub (h.recorded_requested runId hmem)
  party_requested p hp := by
    rcases List.mem_append.mp hp with hp | hp
    · exact hsub (h.party_requested p hp)
    · rw [List.mem_singleton.mp hp]
      exact hrequested
  sent_requested message hmem := hsub (h.sent_requested message hmem)

lemma InTurn.resume {i : ℕ} {party : Party} {program : RunTask Unit} (h : InTurn s)
    (hparty : s.parties[i]? = some party)
    (hstores : Obeys (documentMonitor party.runId) { s.facts party with opened := true } program
      fun _ _ => True)
    (hfinished : party.program.Finished = true → program.Finished = true) :
    InTurn { s with parties := s.parties.set i (party.resume program) } where
  stores p hp := by
    rcases mem_parties_set hp with rfl | ⟨j, -, hj⟩
    · exact hstores
    · exact h.stores p (List.mem_of_getElem? hj)
  alone := h.alone.set hparty hfinished
  truthful := h.truthful
  recorded := h.recorded
  posted_requested := h.posted_requested
  recorded_requested := h.recorded_requested
  party_requested p hp := by
    rcases mem_parties_set hp with rfl | ⟨j, -, hj⟩
    · exact h.party_requested party (List.mem_of_getElem? hparty)
    · exact h.party_requested p (List.mem_of_getElem? hj)
  sent_requested := h.sent_requested

/-- **What one step preserves.** -/
theorem inTurn_step (h : InTurn s) (hturn : DeliveredInTurn s a = true)
    (hstep : postingSystem s a = some s') : InTurn s' := by
  cases a with
  | expireClaim =>
      obtain rfl := Option.some.inj hstep
      exact { h with }
  | expireDocument =>
      obtain rfl := Option.some.inj hstep
      exact { h with
        stores := fun party hp =>
          stores_mono (m := s.facts party) ⟨rfl, rfl, rfl, nofun⟩ (h.stores party hp)
        truthful := rfl
        recorded := nofun }
  | request runId week =>
      obtain ⟨hnew, rfl⟩ := request_eq_some hstep
      refine @InTurn.append _ ⟨runId, false, _⟩ _ h (startPostWeekTask_stores ⟨?_, ?_⟩)
        (fun other hother hrun => absurd (h.party_requested other hother) (by rwa [hrun]))
        (List.subset_cons_self _ _) List.mem_cons_self
      · exact decide_eq_false fun hmem => hnew (h.recorded_requested runId hmem)
      · exact decide_eq_false fun hmem => hnew (h.posted_requested runId hmem)
  | deliver message =>
      obtain ⟨hsent, rfl⟩ := deliver_eq_some hstep
      refine @InTurn.append _ ⟨message.runId, false, _⟩ _ h (postPayrollWeekTask_stores message rfl)
        (fun other hother hrun => ?_) (List.Subset.refl _) (h.sent_requested message hsent)
      simpa [hrun] using List.all_eq_true.mp hturn other hother
  | lose i =>
      obtain ⟨acting, hacting, rfl⟩ := lose_eq_some hstep
      exact h.resume hacting trivial fun _ => rfl
  | fault i text =>
      obtain ⟨acting, c, next, hacting, hprogram, rfl⟩ := fault_eq_some hstep
      have hobeys := h.stores acting (List.mem_of_getElem? hacting)
      rw [hprogram] at hobeys
      have hafter := hobeys.2 (.error (.raised text)) (raises_of_deliveredInTurn hacting hprogram hturn)
      refine h.resume hacting ?_ fun hfinished => by simp [hprogram, Process.Finished] at hfinished
      cases c <;> exact hafter
  | proceed i outside =>
      obtain ⟨acting, c, next, hacting, hprogram, rfl⟩ := proceed_eq_some hstep
      have hmem := List.mem_of_getElem? hacting
      have hobeys := h.stores acting hmem
      rw [hprogram] at hobeys
      have hexpects := expects_of_deliveredInTurn hacting hprogram hturn
      have hshared := shared_of_answer h hmem outside hobeys.1
      exact
        { stores := fun party hp => by
            rcases mem_parties_set hp with rfl | ⟨j, hij, hj⟩
            · rw [facts_of_answer hobeys.1]
              exact hobeys.2 _ hexpects
            · by_cases hrun : acting.runId = party.runId
              · -- the others of the run have ended
                have hfinished : party.program.Finished = true :=
                  (h.alone i j acting party hacting hj (Ne.symm hij) hrun).resolve_left
                    (by simp [hprogram, Process.Finished])
                cases hparty : party.program with
                | done result => trivial
                | call c' next' => simp [hparty, Process.Finished] at hfinished
              · exact stores_mono (facts_of_other hobeys.1 hrun) (h.stores party (List.mem_of_getElem? hj))
          alone := h.alone.set hacting fun hfinished => by simp [hprogram, Process.Finished] at hfinished
          truthful := hshared.1
          recorded := hshared.2.1
          posted_requested := hshared.2.2.1
          recorded_requested := hshared.2.2.2.1
          party_requested := fun party hp => by
            rcases mem_parties_set hp with rfl | ⟨j, -, hj⟩
            · exact h.party_requested acting hmem
            · exact h.party_requested party (List.mem_of_getElem? hj)
          sent_requested := hshared.2.2.2.2 }

lemma keepsSuccess_of_eq (h : s'.shared.document = s.shared.document) : KeepsSuccess s s' = true := by
  unfold KeepsSuccess
  rw [h]
  cases s.shared.document with
  | none => rfl
  | some run => by_cases hstatus : run.status = .succeeded <;> simp [hstatus]

/-- **A recorded success stays.** -/
lemma InTurn.keepsSuccess (h : InTurn s) (hstep : postingSystem s a = some s') :
    KeepsSuccess s s' = true := by
  cases a with
  | expireClaim =>
      obtain rfl := Option.some.inj hstep
      exact keepsSuccess_of_eq rfl
  | expireDocument =>
      obtain rfl := Option.some.inj hstep
      simp [KeepsSuccess]
  | request runId week =>
      obtain ⟨-, rfl⟩ := request_eq_some hstep
      exact keepsSuccess_of_eq rfl
  | deliver message =>
      obtain ⟨-, rfl⟩ := deliver_eq_some hstep
      exact keepsSuccess_of_eq rfl
  | lose i =>
      obtain ⟨_, -, rfl⟩ := lose_eq_some hstep
      exact keepsSuccess_of_eq rfl
  | fault i text =>
      obtain ⟨_, _, _, -, -, rfl⟩ := fault_eq_some hstep
      exact keepsSuccess_of_eq rfl
  | proceed i outside =>
      obtain ⟨acting, c, next, hacting, hprogram, rfl⟩ := proceed_eq_some hstep
      have hobeys := h.stores acting (List.mem_of_getElem? hacting)
      rw [hprogram] at hobeys
      cases c
      case setDocument run =>
        obtain ⟨hrun, -, hsucceeded⟩ := hobeys.1
        cases hdocument : s.shared.document with
        | none => simp [KeepsSuccess, hdocument]
        | some run' =>
            by_cases hstatus : run'.status = .succeeded
            · have hrecorded := h.recorded run' hdocument hstatus
              by_cases hsame : run.runId = run'.runId
              · have : run.status = .succeeded :=
                  hsucceeded (by simpa [RunSystem.facts, ← hrun, hsame] using hrecorded)
                simp [KeepsSuccess, hdocument, RunCache.answer, this]
              · simp [KeepsSuccess, hdocument, RunCache.answer, hsame]
            · simp [KeepsSuccess, hdocument, hstatus]
      case addClaim =>
        obtain ⟨claim, hclaim⟩ := answer_addClaim s.shared acting.runId outside
        exact keepsSuccess_of_eq (by rw [hclaim])
      case nextResult =>
        refine keepsSuccess_of_eq ?_
        simp only [RunCache.answer]
        split <;> rfl
      all_goals exact keepsSuccess_of_eq rfl

lemma inTurn_fresh (backend : Backend) : InTurn (RunSystem.fresh backend) where
  stores _ hp := absurd hp List.not_mem_nil
  alone _ _ _ _ hp := by simp [RunSystem.fresh] at hp
  truthful := rfl
  recorded _ := nofun
  posted_requested _ hmem := absurd hmem List.not_mem_nil
  recorded_requested _ hmem := absurd hmem List.not_mem_nil
  party_requested _ hp := absurd hp List.not_mem_nil
  sent_requested _ hmem := absurd hmem List.not_mem_nil

/-- **The run document tells the truth.**  In every run whose steps are all in turn, a stored document
says that nothing was posted only of a run that posted nothing, and no step replaces a recorded success
by another document of its run. -/
theorem run_documents_truthful (backend : Backend) (as : List RunAction)
    (hmeet : postingSystem.AllMeet (fun s a => DeliveredInTurn s a = true) (RunSystem.fresh backend) as)
    (hrun : postingSystem.run (RunSystem.fresh backend) as = some s) :
    Truthful s = true ∧ ∀ a s', postingSystem s a = some s' → KeepsSuccess s s' = true := by
  have hinv : InTurn s :=
    Machine.run_keeps_of_meet (fun _ _ _ h hC hs => inTurn_step h hC hs) (inTurn_fresh backend) hmeet hrun
  exact ⟨hinv.truthful, fun _ _ => hinv.keepsSuccess⟩

/-- A week is posted after its first worker died on the way, and a second one is refused. -/
theorem run_documents_truthful_of_redelivery :
    ∃ s, postingSystem.run (RunSystem.fresh ⟨"Xero", true⟩) redelivered = some s ∧
      Truthful s = true ∧ ∀ a s', postingSystem s a = some s' → KeepsSuccess s s' = true := by
  obtain ⟨s, hs⟩ := Option.isSome_iff_exists.mp (show
    (postingSystem.run (RunSystem.fresh ⟨"Xero", true⟩) redelivered).isSome = true by decide +kernel)
  exact ⟨s, hs, run_documents_truthful ⟨"Xero", true⟩ redelivered (by decide +kernel) hs⟩

end Docketworks.Payroll
