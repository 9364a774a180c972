import Docketworks.Payroll.PostingRun

/-!
# The claim of a posting run

What a run may do only while it holds the claim: extend it, release it, and write the connection's
document.  Each of these follows a read of the claim, and nothing holds the claim in between.

* `Trespasses` — a step of one run that extends or releases the claim of another, or writes the
  document while another holds the claim.
* `claimMonitor` — a party that reads the claim before whatever it does under it.
* `Party.AsksFirst` — the party does nothing under the claim before it has asked for it again.
* `ClaimStands` — a step that ends a claim finds no party of its run between its read and its write.
* `claim_exclusive_of_run` — in a run whose steps all do, no step trespasses.
-/

namespace Docketworks.Payroll

open Library RunTask

/-! ## Trespass -/

def Party.nextCall (party : Party) : Option RunCall :=
  match party.program with
  | .done _ => none
  | .call c _ => some c

def RunCall.underClaim : RunCall → Bool
  | .touchClaim | .deleteClaim | .setDocument _ => true
  | _ => false

/-- The step makes such a call for one run while another holds the claim. -/
def Trespasses (s : RunSystem) : RunAction → Bool
  | .proceed i _ =>
      (s.parties[i]?).any fun party =>
        party.nextCall.any RunCall.underClaim && s.shared.claim.any (· ≠ party.runId)
  | _ => false

/-- A run is at the last call of its release when its claim expires and a second run takes the
calendar. -/
def releasedLate : List RunAction :=
  [.request 1 0, .proceed 0 {}, .fault 0 "Xero is not connected.", .proceed 0 {}, .expireClaim,
    .request 2 0, .proceed 1 {}]

/-- The delete takes the second run's claim away. -/
theorem claim_not_exclusive :
    ((postingSystem.run (RunSystem.fresh ⟨"Xero", true⟩) releasedLate).any fun s =>
      Trespasses s (.proceed 0 {})) = true := by
  decide +kernel

/-! ## Asking before acting -/

/-- The answer of `get` is this run. -/
def holds (runId : ℕ) (holder : Option ℕ) : Bool := holder = some runId

/-- What a party knows of the claim: whether it is its own, as far as it was told. -/
def claimMonitor (runId : ℕ) : Monitor RunCall RunCall.Answer RunError Bool where
  allows proved c := c.underClaim → proved = true
  expects _ _ _ := True
  after proved c answer :=
    match c, answer with
    | .getClaim, .ok holder => holds runId holder
    | .addClaim, .ok taken => taken
    | .deleteClaim, .ok _ => false
    | _, _ => proved

/-- The party does nothing under the claim before it has asked for it again. -/
def Party.AsksFirst (party : Party) : Prop :=
  Obeys (claimMonitor party.runId) false party.program fun _ _ => True

section Programs

variable {r : ℕ} {proved : Bool} {α : Type} {p : RunTask α} {Q : Bool → Except RunError α → Prop}

lemma claimMonitor_mono (hQ : ∀ result, Q false result → Q true result)
    (h : Obeys (claimMonitor r) false p Q) : Obeys (claimMonitor r) proved p Q := by
  cases proved with
  | false => exact h
  | true =>
      refine @Obeys.mono _ _ _ _ _ _ _ _ _ _ (fun m m' => m = true → m' = true) ?_ ?_ ?_ ?_ (fun _ => rfl) h
      · exact fun m m' c hle h hc => hle (h hc)
      · exact fun _ _ _ _ _ _ => trivial
      · intro m m' c answer hle
        cases c <;> cases answer <;> first | exact id | exact hle
      · intro m m' result hle hm
        cases m <;> cases m'
        · exact hm
        · exact hQ result hm
        · exact absurd (hle rfl) (by decide)
        · exact hm

lemma getClaim_proves : Obeys (claimMonitor r) proved getClaim
    fun proved result => ∀ holder, result = .ok holder → proved = holds r holder := by
  refine Obeys.perform (by simp [claimMonitor, RunCall.underClaim]) fun answer _ => ?_
  rintro holder rfl
  rfl

lemma addClaim_proves : Obeys (claimMonitor r) proved addClaim
    fun proved result => ∀ taken, result = .ok taken → proved = taken := by
  refine Obeys.perform (by simp [claimMonitor, RunCall.underClaim]) fun answer _ => ?_
  rintro taken rfl
  rfl

lemma underClaim_obeys {c : RunCall} :
    Obeys (claimMonitor r) true (Process.perform c) fun _ _ => True :=
  Obeys.perform (fun _ => rfl) fun _ _ => trivial

lemma free_obeys {c : RunCall} (hc : c.underClaim = false) :
    Obeys (claimMonitor r) proved (Process.perform c) fun _ _ => True :=
  Obeys.perform (fun h => absurd h (by simp [hc])) fun _ _ => trivial

/-- **A renewed claim is this run's.** -/
lemma renewRunClaim_proves : Obeys (claimMonitor r) proved (renewRunClaim r)
    fun proved result => result = .ok () → proved = true := by
  unfold renewRunClaim
  refine getClaim_proves.bind ?_ ?_
  · intro proved holder h
    by_cases hr : holder = some r
    · have hp : proved = true := by simpa [holds, hr] using h holder rfl
      simp only [hr, hp, ne_eq, not_true_eq_false, if_false]
      exact Obeys.perform (fun _ => rfl) fun answer _ _ => by cases answer <;> rfl
    · rw [if_pos hr]
      exact Obeys.done nofun
  · exact fun _ _ _ => nofun

/-- **A re-secured claim is this run's.** -/
lemma reclaimOrRefuse_proves : Obeys (claimMonitor r) proved (reclaimOrRefuse r)
    fun proved result => result = .ok true → proved = true := by
  unfold reclaimOrRefuse
  refine getClaim_proves.bind ?_ ?_
  · intro proved holder h
    by_cases hr : holder = some r
    · have hp : proved = true := by simpa [holds, hr] using h holder rfl
      rw [if_pos hr, hp]
      refine Obeys.bind (Q := fun proved _ => proved = true) ?_ ?_ ?_
      · exact Obeys.perform (fun _ => rfl) fun answer _ => by cases answer <;> rfl
      · exact fun proved _ hp _ => hp
      · exact fun _ _ _ => nofun
    · rw [if_neg hr]
      exact addClaim_proves.imp fun proved result h hresult => h true hresult
  · exact fun _ _ _ => nofun

lemma releaseRunClaim_obeys : Obeys (claimMonitor r) proved (releaseRunClaim r) fun _ _ => True := by
  unfold releaseRunClaim
  refine getClaim_proves.bind ?_ fun _ _ _ => trivial
  intro proved holder h
  by_cases hr : holder = some r
  · have hp : proved = true := by simpa [holds, hr] using h holder rfl
    rw [if_pos hr, hp]
    exact underClaim_obeys
  · rw [if_neg hr]
    trivial

lemma write_obeys {run : RunDocument} :
    Obeys (claimMonitor r) true (write run) fun proved _ => proved = true := by
  unfold write
  refine Obeys.bind (Q := fun proved _ => proved = true) ?_ ?_ fun _ _ h => h
  · exact Obeys.perform (fun _ => rfl) fun answer _ => by cases answer <;> rfl
  · rintro _ _ rfl
    exact Obeys.perform (fun _ => rfl) fun answer _ => by cases answer <;> rfl

lemma running_obeys {week : ℤ} {total : ℕ} :
    Obeys (claimMonitor r) true (running r week total) fun proved _ => proved = true :=
  write_obeys.bind (fun _ _ h => h) fun _ _ h => h

lemma closeRunIfOwned_obeys {buildDocument : RunTask RunDocument}
    (h : Obeys (claimMonitor r) true buildDocument fun proved _ => proved = true) :
    Obeys (claimMonitor r) proved (closeRunIfOwned r buildDocument) fun _ _ => True := by
  unfold closeRunIfOwned
  refine reclaimOrRefuse_proves.bind ?_ fun _ _ _ => trivial
  intro proved owned hp
  cases owned with
  | false => trivial
  | true =>
      rw [hp rfl]
      refine h.bind ?_ fun _ _ _ => trivial
      rintro _ run rfl
      exact write_obeys.imp fun _ _ _ => trivial

lemma afterPostMirrorRefresh_obeys :
    Obeys (claimMonitor r) proved afterPostMirrorRefresh fun _ _ => True := by
  unfold afterPostMirrorRefresh
  refine Obeys.tryCatch (Q := fun _ _ => True) ?_ (fun _ _ _ => trivial) fun _ _ _ => ?_
  · exact (free_obeys rfl).bind (fun _ _ _ => free_obeys rfl) fun _ _ _ => trivial
  · exact free_obeys rfl

lemma nextResult_obeys : Obeys (claimMonitor r) proved nextResult fun _ _ => True := by
  refine Obeys.bind (Q := fun _ _ => True) (free_obeys rfl) ?_ fun _ _ _ => trivial
  intro _ next _
  cases next.outcome <;> trivial

lemma postResults_obeys (run : RunDocument) (hr : run.runId = r) (staffIds : List ℕ) :
    Obeys (claimMonitor r) proved (postResults run staffIds)
      fun _ result => ∀ body, result = .ok body → body.1.runId = r := by
  induction staffIds generalizing run proved with
  | nil =>
      refine nextResult_obeys.attempt_bind ?_
      rintro _ (e | result) _ body ⟨⟩ <;> exact hr
  | cons staffId staffIds ih =>
      refine nextResult_obeys.attempt_bind ?_
      rintro _ (e | _ | result) _
      · rintro body ⟨⟩
        exact hr
      · rintro body ⟨⟩
        exact hr
      · rw [hr]
        refine renewRunClaim_proves.attempt_bind ?_
        rintro proved (e | _) hp
        · rintro body ⟨⟩
          exact hr
        · rw [hp rfl]
          refine write_obeys.attempt_bind ?_
          rintro _ (e | _) _
          · rintro body ⟨⟩
            exact hr
          · exact ih _ hr

lemma recordSuccess_obeys {run : RunDocument} (hr : run.runId = r) :
    Obeys (claimMonitor r) proved (recordSuccess run) fun _ _ => True := by
  subst hr
  exact (closeRunIfOwned_obeys (Obeys.done rfl)).bind (fun _ _ _ => afterPostMirrorRefresh_obeys)
    fun _ _ _ => trivial

lemma postWeek_obeys {run : RunDocument} (hr : run.runId = r) (staffIds : List ℕ) :
    Obeys (claimMonitor r) proved (postWeek run staffIds)
      fun _ result => ∀ body, result = .ok body → body.1.runId = r := by
  refine (free_obeys rfl).attempt_bind ?_
  rintro _ (e | provider) _
  · rintro body ⟨⟩
    exact hr
  · by_cases hp : provider.supportsPayroll
    · simp only [hp, Bool.not_true, Bool.false_eq_true, if_false]
      refine (postResults_obeys run hr staffIds).bind ?_ fun _ _ _ _ => nofun
      rintro _ ⟨run', e | _⟩ h
      · rintro body ⟨⟩
        exact h _ rfl
      · have hr' : run'.runId = r := h _ rfl
        refine (recordSuccess_obeys hr').attempt_bind ?_
        rintro _ ended _ body ⟨⟩
        exact hr'
    · simp only [hp, Bool.not_false, if_true]
      rintro body ⟨⟩
      exact hr

lemma handleEnd_obeys {body : RunBody} (hr : body.1.runId = r) :
    Obeys (claimMonitor r) proved (handleEnd body) fun _ _ => True := by
  subst hr
  rcases body with ⟨run, (_ | text) | _⟩
  · refine (free_obeys rfl).bind (fun _ _ _ => ?_) fun _ _ _ => trivial
    exact (closeRunIfOwned_obeys (Obeys.done rfl)).bind (fun _ _ _ => trivial) fun _ _ _ => trivial
  · refine (free_obeys rfl).bind (fun _ _ _ => ?_) fun _ _ _ => trivial
    exact (closeRunIfOwned_obeys (Obeys.done rfl)).bind (fun _ _ _ => trivial) fun _ _ _ => trivial
  · trivial

lemma closeNeverStarted_obeys (message : TaskMessage) :
    Obeys (claimMonitor message.runId) proved (closeNeverStarted message) fun _ _ => True := by
  refine (free_obeys rfl).bind (fun _ _ _ => ?_) fun _ _ _ => trivial
  refine (closeRunIfOwned_obeys ?_).bind (fun _ _ _ => ?_) fun _ _ _ => trivial
  · exact running_obeys.bind (fun _ _ h => h) fun _ _ h => h
  · exact releaseRunClaim_obeys.bind (fun _ _ _ => trivial) fun _ _ _ => trivial

lemma postClaimed_obeys (message : TaskMessage) :
    Obeys (claimMonitor message.runId) true (postClaimed message) fun _ _ => True := by
  refine Obeys.bind (Q := fun _ result => ∀ run, result = .ok run → run.runId = message.runId)
    ?_ ?_ fun _ _ _ => trivial
  · refine write_obeys.bind (fun _ _ _ => ?_) fun _ _ _ _ => nofun
    rintro run ⟨⟩
    rfl
  · intro proved run hrun
    refine Obeys.ensuring (Q := fun _ _ => True) ?_ fun _ _ _ => releaseRunClaim_obeys
    refine (postWeek_obeys (hrun run rfl) message.staffIds).bind ?_ fun _ _ _ => trivial
    exact fun _ body h => handleEnd_obeys (h body rfl)

/-- **The task asks before it acts.** -/
theorem postPayrollWeekTask_asks (message : TaskMessage) :
    Obeys (claimMonitor message.runId) false (postPayrollWeekTask message) fun _ _ => True := by
  refine renewRunClaim_proves.attempt_bind ?_
  rintro proved ((_ | text) | _) hp
  · exact closeNeverStarted_obeys message
  · trivial
  · rw [hp rfl]
    exact postClaimed_obeys message

/-- **The request handler asks before it acts.** -/
theorem startPostWeekTask_asks (runId : ℕ) (week : ℤ) :
    Obeys (claimMonitor runId) false (startPostWeekTask runId week) fun _ _ => True := by
  refine Obeys.bind (Q := fun proved result => result = .ok none → proved = true) ?_ ?_
    fun _ _ _ => trivial
  · refine addClaim_proves.bind ?_ fun _ _ _ => nofun
    rintro proved (_ | _) h
    · refine Obeys.bind (Q := fun _ _ => True) (free_obeys rfl) ?_ fun _ _ _ => nofun
      rintro _ (_ | holder) _ <;> exact nofun
    · exact fun _ => h true rfl
  · rintro proved (_ | holder) hp
    · rw [hp rfl]
      refine Obeys.attempt_bind (Q := fun proved _ => proved = true) ?_ ?_
      · exact Obeys.perform (by simp [claimMonitor, RunCall.underClaim])
          fun answer _ => by cases answer <;> rfl
      · rintro _ (e | staffIds) rfl
        · exact releaseRunClaim_obeys.bind (fun _ _ _ => trivial) fun _ _ _ => trivial
        · refine Obeys.bind (Q := fun proved _ => proved = true) ?_ ?_ fun _ _ _ => trivial
          · refine running_obeys.attempt_bind ?_
            rintro _ (e | run) rfl
            · rfl
            · refine Obeys.attempt_bind (Q := fun proved _ => proved = true) ?_ fun _ _ h => h
              exact Obeys.perform (fun _ => rfl) fun answer _ => by cases answer <;> rfl
          · rintro _ ⟨run, e | _⟩ rfl
            · refine Obeys.bind (Q := fun _ _ => True) ?_ (fun _ _ _ => trivial) fun _ _ _ => trivial
              refine Obeys.ensuring (Q := fun _ _ => True) ?_ fun _ _ _ => releaseRunClaim_obeys
              cases run with
              | none => trivial
              | some run => exact write_obeys.imp fun _ _ _ => trivial
            · trivial
    · trivial

end Programs

/-! ## The parties together -/

/-- A step that ends a claim finds no party of its run between its read of the claim and what it does
under it, the one that releases it apart. -/
def ClaimStands (s : RunSystem) : RunAction → Prop
  | .expireClaim => ∀ party ∈ s.parties, s.shared.claim = some party.runId → party.AsksFirst
  | .proceed i _ => ∀ party, s.parties[i]? = some party → party.nextCall = some .deleteClaim →
      ∀ j other, j ≠ i → s.parties[j]? = some other → s.shared.claim = some other.runId →
        other.AsksFirst
  | _ => True

/-- Every party does what it does under the claim only while its run holds it. -/
def EachUnderClaim (s : RunSystem) : Prop :=
  ∀ party ∈ s.parties,
    Obeys (claimMonitor party.runId) (holds party.runId s.shared.claim) party.program fun _ _ => True

variable {s s' : RunSystem} {a : RunAction}

lemma Party.AsksFirst.obeys {party : Party} (h : party.AsksFirst) (claim : Option ℕ) :
    Obeys (claimMonitor party.runId) (holds party.runId claim) party.program fun _ _ => True :=
  claimMonitor_mono (fun _ _ => trivial) h

lemma EachUnderClaim.asksFirst (h : EachUnderClaim s) {party : Party} (hp : party ∈ s.parties)
    (hclaim : s.shared.claim ≠ some party.runId) : party.AsksFirst := by
  have hobeys := h party hp
  rwa [show holds party.runId s.shared.claim = false by simpa [holds] using hclaim] at hobeys

lemma told_of_answer (shared : RunCache) (runId : ℕ) (outside : Outside) (c : RunCall)
    {proved : Bool} (hproved : proved = holds runId shared.claim) :
    (claimMonitor runId).after proved c (.ok (shared.answer runId outside c).2) = true →
      holds runId (shared.answer runId outside c).1.claim = true := by
  subst hproved
  cases c
  case addClaim =>
    intro h
    cases hclaim : shared.claim with
    | none => simp [RunCache.answer, hclaim, holds]
    | some holder => simp [claimMonitor, RunCache.answer, hclaim] at h
  case nextResult =>
    intro h
    simp only [RunCache.answer]
    split <;> exact h
  case deleteClaim => exact fun h => absurd h (by simp [claimMonitor])
  all_goals exact id

/-- The claim after a call of a party is the one before, unless the party took a free claim or deleted
the one there was. -/
lemma claim_of_answer (shared : RunCache) (runId : ℕ) (outside : Outside) (c : RunCall) :
    (shared.answer runId outside c).1.claim = shared.claim ∨
      (shared.claim = none ∧ (shared.answer runId outside c).1.claim = some runId) ∨
      (c = .deleteClaim ∧ (shared.answer runId outside c).1.claim = none) := by
  cases c
  case addClaim =>
    cases hclaim : shared.claim with
    | none => exact .inr (.inl ⟨rfl, by simp [RunCache.answer, hclaim]⟩)
    | some holder => exact .inl (by simp [RunCache.answer, hclaim])
  case deleteClaim => exact .inr (.inr ⟨rfl, rfl⟩)
  case nextResult =>
    refine .inl ?_
    simp only [RunCache.answer]
    split <;> rfl
  all_goals exact .inl rfl

lemma EachUnderClaim.append {party : Party} (h : EachUnderClaim s) (hparty : party.AsksFirst)
    (requested : List ℕ) :
    EachUnderClaim { s with parties := s.parties ++ [party], requested } := by
  intro p hp
  rcases List.mem_append.mp hp with hp | hp
  · exact h p hp
  · rw [List.mem_singleton.mp hp]
    exact hparty.obeys s.shared.claim

/-- **What one step preserves.** -/
theorem eachUnderClaim_step (h : EachUnderClaim s) (hstands : ClaimStands s a)
    (hstep : postingSystem s a = some s') : EachUnderClaim s' := by
  cases a with
  | expireClaim =>
      obtain rfl := Option.some.inj hstep
      intro party hp
      refine Party.AsksFirst.obeys ?_ none
      by_cases hclaim : s.shared.claim = some party.runId
      · exact hstands party hp hclaim
      · exact h.asksFirst hp hclaim
  | expireDocument =>
      obtain rfl := Option.some.inj hstep
      exact h
  | request runId week =>
      obtain ⟨-, rfl⟩ := request_eq_some hstep
      exact @EachUnderClaim.append _ ⟨runId, false, _⟩ h (startPostWeekTask_asks runId week) _
  | deliver message =>
      obtain ⟨-, rfl⟩ := deliver_eq_some hstep
      exact @EachUnderClaim.append _ ⟨message.runId, false, _⟩ h (postPayrollWeekTask_asks message) _
  | lose i =>
      obtain ⟨acting, hacting, rfl⟩ := lose_eq_some hstep
      intro party hp
      rcases mem_parties_set hp with rfl | ⟨j, -, hj⟩
      · exact Obeys.done trivial
      · exact h party (List.mem_of_getElem? hj)
  | fault i text =>
      obtain ⟨acting, c, next, hacting, hprogram, rfl⟩ := fault_eq_some hstep
      intro party hp
      rcases mem_parties_set hp with rfl | ⟨j, -, hj⟩
      · have hobeys := h acting (List.mem_of_getElem? hacting)
        rw [hprogram] at hobeys
        have hafter := hobeys.2 (.error (.raised text)) trivial
        cases c <;> exact hafter
      · exact h party (List.mem_of_getElem? hj)
  | proceed i outside =>
      obtain ⟨acting, c, next, hacting, hprogram, rfl⟩ := proceed_eq_some hstep
      intro party hp
      rcases mem_parties_set hp with rfl | ⟨j, hij, hj⟩
      · -- the party that moved knows no more than what is so
        have hobeys := h acting (List.mem_of_getElem? hacting)
        rw [hprogram] at hobeys
        have hafter := hobeys.2 (.ok (s.shared.answer acting.runId outside c).2) trivial
        have htold := told_of_answer s.shared acting.runId outside c rfl
        generalize (claimMonitor acting.runId).after (holds acting.runId s.shared.claim) c
          (.ok (s.shared.answer acting.runId outside c).2) = told at hafter htold
        cases told with
        | false => exact claimMonitor_mono (fun _ _ => trivial) hafter
        | true =>
            show Obeys (claimMonitor acting.runId) (holds acting.runId _) _ _
            rw [htold rfl]
            exact hafter
      · -- the claim of another party's run is gone only where that party asks first
        have hmem := List.mem_of_getElem? hj
        by_cases hclaim : s.shared.claim = some party.runId
        · rcases claim_of_answer s.shared acting.runId outside c with hsame | ⟨hnone, -⟩ | ⟨rfl, -⟩
          · have hobeys := h party hmem
            rwa [← hsame] at hobeys
          · rw [hnone] at hclaim
            cases hclaim
          · have hasks : party.AsksFirst :=
              hstands acting hacting (by simp [Party.nextCall, hprogram]) j party hij hj hclaim
            exact hasks.obeys _
        · exact (h.asksFirst hmem hclaim).obeys _

/-- **A party that keeps to the claim does not trespass.** -/
lemma EachUnderClaim.not_trespasses (h : EachUnderClaim s) (a : RunAction) :
    Trespasses s a = false := by
  cases a
  case proceed i outside =>
    cases hparty : s.parties[i]? with
    | none => simp [Trespasses, hparty]
    | some party =>
        cases hprogram : party.program with
        | done result => simp [Trespasses, hparty, Party.nextCall, hprogram]
        | call c next =>
            by_cases hc : c.underClaim = true
            · have hobeys := h party (List.mem_of_getElem? hparty)
              rw [hprogram] at hobeys
              have hclaim : s.shared.claim = some party.runId := by simpa [holds] using hobeys.1 hc
              simp [Trespasses, hparty, hclaim]
            · simp [Trespasses, hparty, Party.nextCall, hprogram, hc]
  all_goals rfl

/-- **The claim is exclusive.**  In every run in which a claim expires, or is released by one party of
its run, only while no other party of that run stands between its read of the claim and what it does
on the strength of it, no run extends or releases a claim another holds, or writes the document while
another holds it. -/
theorem claim_exclusive_of_run (backend : Backend) (as : List RunAction)
    (hmeet : postingSystem.AllMeet ClaimStands (RunSystem.fresh backend) as)
    (hrun : postingSystem.run (RunSystem.fresh backend) as = some s) (a : RunAction) :
    Trespasses s a = false := by
  have hinv : EachUnderClaim s :=
    Machine.run_keeps_of_meet (I := EachUnderClaim) (fun _ _ _ h hC hs => eachUnderClaim_step h hC hs)
      (fun party hp => absurd hp List.not_mem_nil) hmeet hrun
  exact hinv.not_trespasses a

/-! ### A run of three requests -/

/-- A step that ends a claim finds every other party of its run ended: a test of `ClaimStands`. -/
def allEnded (s : RunSystem) : RunAction → Bool
  | .expireClaim => s.parties.all fun party =>
      s.shared.claim ≠ some party.runId || party.program.Finished
  | .proceed i _ =>
      (s.parties[i]?).all fun party => party.nextCall ≠ some .deleteClaim ||
        (List.range s.parties.length).all fun j => j = i || (s.parties[j]?).all fun other =>
          s.shared.claim ≠ some other.runId || other.program.Finished
  | _ => true

lemma Party.asksFirst_of_finished {party : Party} (h : party.program.Finished = true) :
    party.AsksFirst := by
  unfold Party.AsksFirst
  cases hprogram : party.program with
  | done result => trivial
  | call c next => simp [Process.Finished, hprogram] at h

lemma claimStands_of_allEnded (h : allEnded s a = true) : ClaimStands s a := by
  cases a
  case expireClaim =>
    intro party hp hclaim
    refine Party.asksFirst_of_finished ?_
    simpa [hclaim] using List.all_eq_true.mp h party hp
  case proceed i outside =>
    intro party hparty hdelete j other hij hj hclaim
    refine Party.asksFirst_of_finished ?_
    have hlt : j < s.parties.length := (List.getElem?_eq_some_iff.mp hj).1
    simp only [allEnded, hparty, Option.all_some, hdelete, ne_eq, not_true_eq_false, decide_false,
      Bool.false_or, List.all_eq_true, List.mem_range] at h
    simpa [hij, hj, hclaim] using h j hlt
  all_goals trivial

/-- A week is posted and its claim released; the worker of a second request dies and its claim
expires; a third one takes the calendar. -/
def threeRequests : List RunAction :=
  ([.request 1 0, .proceed 0 {}, .proceed 0 { roster := [7] }] : List RunAction) ++
    (List.replicate 3 (.proceed 0 {}) : List RunAction) ++
    ([.deliver ⟨1, [7], 0⟩] : List RunAction) ++ (List.replicate 5 (.proceed 1 {}) : List RunAction) ++
    ([.proceed 1 { next := ⟨true, .ok (some { staffId := 7, staffName := "Ana", success := true })⟩ }] :
      List RunAction) ++
    (List.replicate 13 (.proceed 1 {}) : List RunAction) ++
    ([.request 2 0, .proceed 2 {}, .lose 2, .expireClaim, .request 3 0, .proceed 3 {}] : List RunAction)

theorem claim_exclusive_of_threeRequests :
    ∃ s, postingSystem.run (RunSystem.fresh ⟨"Xero", true⟩) threeRequests = some s ∧
      ∀ a, Trespasses s a = false := by
  obtain ⟨s, hs⟩ := Option.isSome_iff_exists.mp (show
    (postingSystem.run (RunSystem.fresh ⟨"Xero", true⟩) threeRequests).isSome = true by
      decide +kernel)
  have hmeet : postingSystem.AllMeet (fun s a => allEnded s a = true)
      (RunSystem.fresh ⟨"Xero", true⟩) threeRequests := by decide +kernel
  exact ⟨s, hs, claim_exclusive_of_run ⟨"Xero", true⟩ threeRequests
    (hmeet.imp fun _ _ => claimStands_of_allEnded) hs⟩

end Docketworks.Payroll
