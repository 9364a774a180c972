import Docketworks.Xero.SyncLock

/-!
# One sync at a time

Every run of `Docketworks.Xero.SyncLock`.

* `Sound` — what holds between the steps: a live execution whose lease runs holds the lock.
* `Sound.moved`, `Sound.taken`, `Sound.freed`, `Sound.touched` — what the steps do to it.
* `one_sync_at_a_time` — then no two executions are live on a running lease, and nobody touches
  another run's lock, as long as no live run's message is delivered again and no lease runs out
  between two statements.
* `redelivered_run_runs_twice` — the message of a live run, delivered again, starts it a second time.
-/

namespace Docketworks.SyncLock

open Library

/-- What holds between the steps. -/
structure Sound (s : SyncSite) : Prop where
  leased : ∀ e ∈ s.executions.rows, e.Live → s.now < e.leaseEnds →
    ∃ lease, s.lock = some lease ∧ lease.owner = e.task ∧ e.leaseEnds ≤ lease.expires
  apart : ∀ e ∈ s.executions.rows, ∀ e' ∈ s.executions.rows, e.Live → e'.Live → e.task = e'.task →
    e = e'
  acting : ∀ e ∈ s.executions.rows, e.Acting → ∀ owner, s.holder = some owner → owner = e.task
  releasing : ∀ d ∈ s.dispatches.rows, d.stage = .releasing → ∀ owner, s.holder = some owner →
    owner = d.task
  waiting : ∀ d ∈ s.dispatches.rows, d.stage ≠ .ended → ∀ e ∈ s.executions.rows, e.Live →
    e.task ≠ d.task
  issued : (∀ e ∈ s.executions.rows, e.task < s.issued) ∧ ∀ d ∈ s.dispatches.rows, d.task < s.issued
  lock : ∀ lease ∈ s.lock, lease.owner < s.issued
  stopped : ∀ e ∈ s.executions.rows, e.outrun = true → e.stage ≠ .running ∧ e.stage ≠ .renewing
  silent : ∀ e ∈ s.executions.rows, e.strays = 0
  keepsOut : s.trespassed = false

section Keeps

variable {s s' : SyncSite} {e e' : Execution} {d : Dispatch} {task number : ℕ}

/-! ## What is read -/

lemma executionAt_eq_some {stage : Stage} (h : s.executionAt number stage = some e) :
    e ∈ s.executions.rows ∧ e.stage = stage := by
  obtain ⟨hfind, hstage⟩ := Option.filter_eq_some_iff.mp h
  exact ⟨Table.mem_of_find? hfind, of_decide_eq_true hstage⟩

lemma dispatchAt_eq_some {stage : DispatchStage} (h : s.dispatchAt task stage = some d) :
    d ∈ s.dispatches.rows ∧ d.stage = stage := by
  obtain ⟨hfind, hstage⟩ := Option.filter_eq_some_iff.mp h
  exact ⟨Table.mem_of_find? hfind, of_decide_eq_true hstage⟩

/-- **A live execution whose lease runs holds the lock.** -/
lemma Sound.holder (h : Sound s) (he : e ∈ s.executions.rows) (hlive : e.Live)
    (hlease : s.now < e.leaseEnds) : s.holder = some e.task := by
  obtain ⟨lease, hlock, howner, hends⟩ := h.leased e he hlive hlease
  exact Lease.get_eq_some_iff.mpr ⟨lease, hlock, howner, hlease.trans_le hends⟩

lemma Sound.safe (h : Sound s) : s.Safe := by
  refine ⟨fun e he e' he' hlive hlive' hlease hlease' => ?_, h.silent, h.keepsOut⟩
  have hsame : some e.task = some e'.task :=
    (h.holder he hlive hlease).symm.trans (h.holder he' hlive' hlease')
  exact h.apart e he e' he' hlive hlive' (Option.some.inj hsame)

lemma Sound.outrun_eq_false (h : Sound s) (he : e ∈ s.executions.rows)
    (hstage : e.stage = .running ∨ e.stage = .renewing) : e.outrun = false := by
  by_contra hout
  obtain ⟨hrunning, hrenewing⟩ := h.stopped e he (by simpa using hout)
  exact hstage.elim hrunning hrenewing

lemma live_of_stage {stage : Stage} (hstage : e.stage = stage) (hne : stage ≠ .ended) : e.Live := by
  unfold Execution.Live
  rwa [hstage]

/-! ## What the steps do -/

lemma Sound.passed (h : Sound s) (seconds : ℕ) : Sound { s with now := s.now + seconds } := by
  have hholder : ∀ owner, SyncSite.holder { s with now := s.now + seconds } = some owner →
      s.holder = some owner := fun owner howner =>
    Lease.get_of_le (Nat.le_add_right s.now seconds) howner
  exact
    { leased := fun e he hlive hlease => h.leased e he hlive (by
        have hlater : s.now + seconds < e.leaseEnds := hlease
        omega)
      apart := h.apart
      acting := fun e he hacting owner howner => h.acting e he hacting owner (hholder owner howner)
      releasing := fun d hd hstage owner howner => h.releasing d hd hstage owner (hholder owner howner)
      waiting := h.waiting
      issued := h.issued
      lock := h.lock
      stopped := h.stopped
      silent := h.silent
      keepsOut := h.keepsOut }

/-- **An execution goes on** under the same task and on the same lease. -/
lemma Sound.moved (h : Sound s) (he : e ∈ s.executions.rows) (hnumber : e'.number = e.number)
    (htask : e'.task = e.task) (hlease : e'.leaseEnds = e.leaseEnds) (hlive : e'.Live → e.Live)
    (hacting : e'.Acting → s.holder = some e.task)
    (hstopped : e'.outrun = true → e'.stage ≠ .running ∧ e'.stage ≠ .renewing)
    (hsilent : e'.strays = 0) : Sound (s.withExecution e') := by
  have hold : ∀ {x : Execution}, x ∈ (s.withExecution e').executions.rows →
      x = e' ∨ (x ∈ s.executions.rows ∧ x.number ≠ e.number) := by
    intro x hx
    rcases Table.mem_upsert.mp hx with rfl | ⟨hx, hne⟩
    · exact .inl rfl
    · exact .inr ⟨hx, hnumber ▸ hne⟩
  refine
    { leased := fun x hx hxlive hxlease => ?_, apart := fun x hx y hy hxlive hylive hsame => ?_
      acting := fun x hx hxacting owner howner => ?_, releasing := h.releasing
      waiting := fun d hd hstage x hx hxlive => ?_, issued := ⟨fun x hx => ?_, h.issued.2⟩, lock := h.lock
      stopped := fun x hx => ?_, silent := fun x hx => ?_, keepsOut := h.keepsOut }
  · rcases hold hx with rfl | ⟨hx, -⟩
    · rw [htask, hlease]
      exact h.leased e he (hlive hxlive) (hlease ▸ hxlease)
    · exact h.leased x hx hxlive hxlease
  · rcases hold hx with rfl | ⟨hxold, hxne⟩ <;> rcases hold hy with rfl | ⟨hyold, hyne⟩
    · rfl
    · have heq := h.apart e he y hyold (hlive hxlive) hylive (htask.symm.trans hsame)
      exact absurd (congrArg Execution.number heq.symm) hyne
    · have heq := h.apart x hxold e he hxlive (hlive hylive) (hsame.trans htask)
      exact absurd (congrArg Execution.number heq) hxne
    · exact h.apart x hxold y hyold hxlive hylive hsame
  · rcases hold hx with rfl | ⟨hx, -⟩
    · rw [htask]
      exact Option.some.inj (howner.symm.trans (hacting hxacting))
    · exact h.acting x hx hxacting owner howner
  · rcases hold hx with rfl | ⟨hx, -⟩
    · rw [htask]
      exact h.waiting d hd hstage e he (hlive hxlive)
    · exact h.waiting d hd hstage x hx hxlive
  · rcases hold hx with rfl | ⟨hx, -⟩
    · rw [htask]
      exact h.issued.1 e he
    · exact h.issued.1 x hx
  · rcases hold hx with rfl | ⟨hx, -⟩
    · exact hstopped
    · exact h.stopped x hx
  · rcases hold hx with rfl | ⟨hx, -⟩
    · exact hsilent
    · exact h.silent x hx

lemma Sound.dispatched (h : Sound s) (hd : d ∈ s.dispatches.rows) {stage : DispatchStage}
    (hactive : d.stage ≠ .ended) (hreleasing : stage = .releasing → s.holder = some d.task) :
    Sound (s.withDispatch { d with stage := stage }) := by
  have hold : ∀ {x : Dispatch}, x ∈ (s.withDispatch { d with stage := stage }).dispatches.rows →
      x = { d with stage := stage } ∨ x ∈ s.dispatches.rows :=
    fun hx => Table.eq_or_mem_of_mem_upsert hx
  refine
    { leased := h.leased, apart := h.apart, acting := h.acting
      releasing := fun x hx hstage owner howner => ?_, waiting := fun x hx hstage => ?_
      issued := ⟨h.issued.1, fun x hx => ?_⟩, lock := h.lock, stopped := h.stopped, silent := h.silent
      keepsOut := h.keepsOut }
  · rcases hold hx with rfl | hx
    · exact Option.some.inj (howner.symm.trans (hreleasing hstage))
    · exact h.releasing x hx hstage owner howner
  · rcases hold hx with rfl | hx
    · exact h.waiting d hd hactive
    · exact h.waiting x hx hstage
  · rcases hold hx with rfl | hx
    · exact h.issued.2 d hd
    · exact h.issued.2 x hx

/-- **The lock is freed** by a run that no live execution is of. -/
lemma Sound.freed (h : Sound s) (howner : ∀ owner, s.holder = some owner → owner = task)
    (hnone : ∀ e ∈ s.executions.rows, e.Live → e.task ≠ task) : Sound (s.deleteLock task) := by
  have hfree : ∀ owner, (s.deleteLock task).holder ≠ some owner := fun owner howner => by cases howner
  have hforeign : Lease.foreign s.lock s.now task = false := Lease.foreign_eq_false_iff.mpr howner
  refine
    { leased := fun e he hlive hlease => ?_, apart := h.apart
      acting := fun e he _ owner held => absurd held (hfree owner)
      releasing := fun d hd _ owner held => absurd held (hfree owner)
      waiting := h.waiting, issued := h.issued, lock := fun _ hnone => by cases hnone
      stopped := h.stopped, silent := h.silent, keepsOut := ?_ }
  · exact absurd (howner _ (h.holder he hlive hlease)) (hnone e he hlive)
  · show (s.trespassed || Lease.foreign s.lock s.now task) = false
    rw [h.keepsOut, hforeign]
    rfl

/-- **An execution begins** under the task that holds the lock, which no live execution is of. -/
lemma Sound.begun (h : Sound s) {lease : Lease ℕ} (hlock : s.lock = some lease)
    (howner : lease.owner = task) (hissued : task < s.issued)
    (hnone : ∀ e ∈ s.executions.rows, e.Live → e.task ≠ task)
    (hended : ∀ d ∈ s.dispatches.rows, d.task = task → d.stage = .ended) :
    Sound (s.withExecution
      ⟨s.executions.freshKey, task, .running, lease.expires, false, 0⟩) := by
  have hold : ∀ {x : Execution}, x ∈ (s.withExecution
      ⟨s.executions.freshKey, task, .running, lease.expires, false, 0⟩).executions.rows →
      x = ⟨s.executions.freshKey, task, .running, lease.expires, false, 0⟩ ∨
        x ∈ s.executions.rows := fun hx => Table.eq_or_mem_of_mem_upsert hx
  refine
    { leased := fun x hx hlive hlease => ?_, apart := fun x hx y hy hxlive hylive hsame => ?_
      acting := fun x hx hacting => ?_, releasing := h.releasing
      waiting := fun d hd hstage x hx hlive => ?_, issued := ⟨fun x hx => ?_, h.issued.2⟩, lock := h.lock
      stopped := fun x hx => ?_, silent := fun x hx => ?_, keepsOut := h.keepsOut }
  · rcases hold hx with rfl | hxold
    · exact ⟨lease, hlock, howner, le_rfl⟩
    · exact h.leased x hxold hlive hlease
  · rcases hold hx with rfl | hxold <;> rcases hold hy with rfl | hyold
    · rfl
    · exact absurd hsame.symm (hnone y hyold hylive)
    · exact absurd hsame (hnone x hxold hxlive)
    · exact h.apart x hxold y hyold hxlive hylive hsame
  · rcases hold hx with rfl | hxold
    · rcases hacting with hacting | hacting <;> cases hacting
    · exact h.acting x hxold hacting
  · rcases hold hx with rfl | hxold
    · rintro rfl
      exact hstage (hended d hd rfl)
    · exact h.waiting d hd hstage x hxold hlive
  · rcases hold hx with rfl | hxold
    · exact hissued
    · exact h.issued.1 x hxold
  · rcases hold hx with rfl | hxold
    · intro hout
      cases hout
    · exact h.stopped x hxold
  · rcases hold hx with rfl | hxold
    · rfl
    · exact h.silent x hxold

lemma Sound.issues (h : Sound s) : Sound { s with issued := s.issued + 1 } :=
  { leased := h.leased, apart := h.apart, acting := h.acting, releasing := h.releasing
    waiting := h.waiting
    issued := ⟨fun e he => Nat.lt_succ_of_lt (h.issued.1 e he),
      fun d hd => Nat.lt_succ_of_lt (h.issued.2 d hd)⟩
    lock := fun lease hlease => Nat.lt_succ_of_lt (h.lock lease hlease)
    stopped := h.stopped, silent := h.silent, keepsOut := h.keepsOut }

/-- **The free lock is taken** while nobody stands before the key: no lease runs then. -/
lemma Sound.taken (h : Sound s) (hfree : s.holder = none)
    (hacting : ∀ e ∈ s.executions.rows, ¬e.Acting)
    (hreleasing : ∀ d ∈ s.dispatches.rows, d.stage ≠ .releasing) :
    Sound { s with lock := some ⟨s.issued, s.now + lockTimeout⟩, issued := s.issued + 1 } := by
  have hsound := h.issues
  refine
    { leased := fun e he hlive hlease => ?_, apart := h.apart
      acting := fun e he hact => absurd hact (hacting e he)
      releasing := fun d hd hstage => absurd hstage (hreleasing d hd), waiting := h.waiting
      issued := hsound.issued, lock := fun lease hlease => ?_, stopped := h.stopped
      silent := h.silent, keepsOut := h.keepsOut }
  · have hheld := h.holder he hlive hlease
    rw [hfree] at hheld
    cases hheld
  · rw [← Option.some.inj hlease]
    exact Nat.lt_succ_self s.issued

/-- **The lock is touched** by the run that holds it. -/
lemma Sound.touched (h : Sound s) (he : e ∈ s.executions.rows) (hstage : e.stage = .renewing)
    (hheld : s.holder = some e.task) :
    Sound { s.withExecution { e with stage := .running, leaseEnds := s.now + lockTimeout } with
      lock := some ⟨e.task, s.now + lockTimeout⟩ } := by
  have hlive : e.Live := live_of_stage hstage (by decide)
  have hout : e.outrun = false := h.outrun_eq_false he (.inr hstage)
  have hold : ∀ {x : Execution}, x ∈ (s.withExecution
      { e with stage := .running, leaseEnds := s.now + lockTimeout }).executions.rows →
      x = { e with stage := .running, leaseEnds := s.now + lockTimeout } ∨
        (x ∈ s.executions.rows ∧ x.number ≠ e.number) := Table.mem_upsert.mp
  have hsame : ∀ x ∈ s.executions.rows, x.Live → x.task = e.task → x.number = e.number :=
    fun x hx hxlive htask => congrArg Execution.number (h.apart x hx e he hxlive hlive htask)
  have hholder : ∀ owner, Lease.get (some ⟨e.task, s.now + lockTimeout⟩) s.now = some owner →
      owner = e.task := fun owner howner => Lease.eq_of_get_set howner
  refine
    { leased := fun x hx hxlive hlease => ?_, apart := fun x hx y hy hxlive hylive htask => ?_
      acting := fun x hx hacting owner howner => ?_
      releasing := fun d hd hreleasing owner howner => ?_
      waiting := fun d hd hactive x hx hxlive => ?_, issued := ⟨fun x hx => ?_, h.issued.2⟩
      lock := fun lease hlease => Option.some.inj hlease ▸ h.issued.1 e he
      stopped := fun x hx => ?_, silent := fun x hx => ?_, keepsOut := h.keepsOut }
  · rcases hold hx with rfl | ⟨hxold, hne⟩
    · exact ⟨_, rfl, rfl, le_rfl⟩
    · have hxheld := h.holder hxold hxlive hlease
      exact absurd (hsame x hxold hxlive (Option.some.inj (hxheld.symm.trans hheld))) hne
  · rcases hold hx with rfl | ⟨hxold, hxne⟩ <;> rcases hold hy with rfl | ⟨hyold, hyne⟩
    · rfl
    · exact absurd (hsame y hyold hylive htask.symm) hyne
    · exact absurd (hsame x hxold hxlive htask) hxne
    · exact h.apart x hxold y hyold hxlive hylive htask
  · rcases hold hx with rfl | ⟨hxold, -⟩
    · exact hholder owner howner
    · have hxtask := h.acting x hxold hacting e.task hheld
      rw [hholder owner howner, hxtask]
  · have hdtask := h.releasing d hd hreleasing e.task hheld
    rw [hholder owner howner, hdtask]
  · rcases hold hx with rfl | ⟨hxold, -⟩
    · exact h.waiting d hd hactive e he hlive
    · exact h.waiting d hd hactive x hxold hxlive
  · rcases hold hx with rfl | ⟨hxold, -⟩
    · exact h.issued.1 e he
    · exact h.issued.1 x hxold
  · rcases hold hx with rfl | ⟨hxold, -⟩
    · intro hout'
      exact absurd (hout'.symm.trans hout) (by decide)
    · exact h.stopped x hxold
  · rcases hold hx with rfl | ⟨hxold, -⟩
    · exact h.silent e he
    · exact h.silent x hxold

lemma Sound.attempted (h : Sound s) (htask : task < s.issued)
    (hnone : ∀ e ∈ s.executions.rows, e.task ≠ task) :
    Sound (s.withDispatch ⟨task, .dispatching⟩) := by
  have hold : ∀ {x : Dispatch}, x ∈ (s.withDispatch ⟨task, .dispatching⟩).dispatches.rows →
      x = ⟨task, .dispatching⟩ ∨ x ∈ s.dispatches.rows := fun hx => Table.eq_or_mem_of_mem_upsert hx
  refine
    { leased := h.leased, apart := h.apart, acting := h.acting
      releasing := fun x hx hstage => ?_, waiting := fun x hx hstage => ?_
      issued := ⟨h.issued.1, fun x hx => ?_⟩, lock := h.lock, stopped := h.stopped, silent := h.silent
      keepsOut := h.keepsOut }
  · rcases hold hx with rfl | hxold
    · cases hstage
    · exact h.releasing x hxold hstage
  · rcases hold hx with rfl | hxold
    · exact fun e he _ => hnone e he
    · exact h.waiting x hxold hstage
  · rcases hold hx with rfl | hxold
    · exact htask
    · exact h.issued.2 x hxold

lemma acquire_of_free (hfree : s.holder = none) : s.acquire =
    (true, { s with lock := some ⟨s.issued, s.now + lockTimeout⟩, issued := s.issued + 1 }) := by
  unfold SyncSite.acquire
  rw [Lease.add_of_free hfree]

lemma acquire_of_held {owner : ℕ} (hheld : s.holder = some owner) :
    s.acquire = (false, { s with issued := s.issued + 1 }) := by
  unfold SyncSite.acquire
  rw [Lease.add_of_held hheld]

/-! ## Every step keeps it -/

lemma Sound.startSync (h : Sound s) (hmeets : Undisturbed s .startSync) : Sound s.startSync := by
  unfold SyncSite.startSync
  rcases hholder : s.holder with _ | owner
  · obtain ⟨hacting, hreleasing⟩ := hmeets hholder
    rw [acquire_of_free hholder]
    exact (h.taken hholder hacting hreleasing).attempted (Nat.lt_succ_self s.issued)
      fun e he => (h.issued.1 e he).ne
  · rw [acquire_of_held hholder]
    exact h.issues

lemma Sound.startInline (h : Sound s) (hmeets : Undisturbed s .startInline) :
    Sound s.startInline := by
  unfold SyncSite.startInline
  rcases hholder : s.holder with _ | owner
  · obtain ⟨hacting, hreleasing⟩ := hmeets hholder
    rw [acquire_of_free hholder]
    refine (h.taken hholder hacting hreleasing).begun rfl rfl (Nat.lt_succ_self s.issued)
      (fun e he _ => (h.issued.1 e he).ne) fun d hd htask => ?_
    exact absurd htask (h.issued.2 d hd).ne
  · rw [acquire_of_held hholder]
    exact h.issues

lemma Sound.deliver (h : Sound s) (hmeets : Undisturbed s (.deliver task)) :
    Sound (s.deliver task) := by
  unfold SyncSite.deliver
  split
  · rename_i lease hlock
    split
    · rename_i hholder
      obtain ⟨hnone, hended⟩ := hmeets hholder
      obtain ⟨lease', hlock', howner, -⟩ := Lease.get_eq_some_iff.mp hholder
      obtain rfl : lease = lease' := Option.some.inj (hlock.symm.trans hlock')
      exact h.begun hlock howner (howner ▸ h.lock lease hlock) hnone hended
    · exact h
  · exact h

lemma Sound.stops (h : Sound s) (he : e ∈ s.executions.rows) {stage : Stage} (outrun : Bool)
    (hstage : stage = .stopping ∨ stage = .ended) (hlive : e.Live ∨ stage = .ended) :
    Sound (s.withExecution { e with stage := stage, outrun := outrun }) := by
  refine h.moved he rfl rfl rfl (fun hnot => ?_) (fun hact => ?_) (fun _ => ?_) (h.silent e he)
  · exact hlive.resolve_right hnot
  · rcases hstage with rfl | rfl <;> rcases hact with hact | hact <;> cases hact
  · rcases hstage with rfl | rfl <;> exact ⟨by simp, by simp⟩

lemma Sound.progress (h : Sound s) (he : e ∈ s.executions.rows) (hstage : e.stage = .running) :
    Sound (s.progress e) := by
  have hlive : e.Live := live_of_stage hstage (by decide)
  unfold SyncSite.progress
  split
  · rename_i hholder
    have hkept := h.outrun_eq_false he (.inl hstage)
    refine h.moved he rfl rfl rfl (fun _ => hlive) (fun _ => hholder) (fun hout => ?_) (h.silent e he)
    exact absurd (hout.symm.trans hkept) (by decide)
  · exact h.stops he true (.inl rfl) (.inl hlive)

lemma Sound.renew (h : Sound s) (he : e ∈ s.executions.rows) (hstage : e.stage = .renewing) :
    Sound (s.renew e) := by
  have hlive : e.Live := live_of_stage hstage (by decide)
  unfold SyncSite.renew
  rcases hholder : s.holder with _ | owner
  · rw [Lease.touch_of_free hholder]
    exact h.stops he true (.inl rfl) (.inl hlive)
  · obtain rfl : owner = e.task := h.acting e he (.inl hstage) owner hholder
    have hforeign : Lease.foreign s.lock s.now e.task = false :=
      Lease.foreign_eq_false_iff.mpr (h.acting e he (.inl hstage))
    rw [Lease.touch_of_held hholder]
    simp only [hforeign, Bool.or_false, Bool.false_eq_true, if_false]
    exact h.touched he hstage hholder

lemma Sound.write (h : Sound s) (he : e ∈ s.executions.rows) (hstage : e.stage = .running) :
    Sound (s.write e) := by
  have hlive : e.Live := live_of_stage hstage (by decide)
  have hout := h.outrun_eq_false he (.inl hstage)
  refine h.moved he rfl rfl rfl (fun _ => hlive) (fun hact => ?_) (fun hout' => ?_) ?_
  · rcases hact with hact | hact <;> exact absurd (hact.symm.trans hstage) (by decide)
  · exact absurd (hout'.symm.trans hout) (by decide)
  · show (e.strays + if e.outrun then 1 else 0) = 0
    rw [hout, h.silent e he]
    rfl

lemma Sound.releaseReads (h : Sound s) (he : e ∈ s.executions.rows) (hstage : e.stage = .stopping) :
    Sound (s.releaseReads e) := by
  have hlive : e.Live := live_of_stage hstage (by decide)
  unfold SyncSite.releaseReads
  split
  · rename_i hholder
    exact h.moved he rfl rfl rfl (fun _ => hlive) (fun _ => hholder)
      (fun _ => ⟨by simp, by simp⟩) (h.silent e he)
  · exact h.stops he e.outrun (.inr rfl) (.inr rfl)

lemma Sound.releaseDeletes (h : Sound s) (he : e ∈ s.executions.rows)
    (hstage : e.stage = .releasing) : Sound (s.releaseDeletes e) := by
  have hlive : e.Live := live_of_stage hstage (by decide)
  have hended := h.stops he e.outrun (.inr rfl) (.inr rfl)
  refine hended.freed (h.acting e he (.inr hstage)) fun x hx hxlive htask => ?_
  -- the other live executions are of other tasks
  rcases Table.mem_upsert.mp hx with rfl | ⟨hxold, hne⟩
  · exact hxlive rfl
  · obtain rfl := h.apart x hxold e he hxlive hlive htask
    exact hne rfl

lemma Sound.undoReads (h : Sound s) (hd : d ∈ s.dispatches.rows) (hstage : d.stage = .rollingBack) :
    Sound (s.undoReads d) := by
  have hactive : d.stage ≠ .ended := hstage ▸ by decide
  unfold SyncSite.undoReads
  split
  · rename_i hholder
    exact h.dispatched hd hactive fun _ => hholder
  · exact h.dispatched hd hactive fun hnot => by cases hnot

lemma Sound.undoDeletes (h : Sound s) (hd : d ∈ s.dispatches.rows) (hstage : d.stage = .releasing) :
    Sound (s.undoDeletes d) := by
  have hactive : d.stage ≠ .ended := hstage ▸ by decide
  have hended : Sound (s.withDispatch { d with stage := .ended }) :=
    h.dispatched hd hactive fun hnot => by cases hnot
  exact hended.freed (h.releasing d hd hstage) (h.waiting d hd hactive)

lemma Sound.posted (h : Sound s) (messages : List ℕ) : Sound { s with messages := messages } :=
  { leased := h.leased, apart := h.apart, acting := h.acting, releasing := h.releasing
    waiting := h.waiting, issued := h.issued, lock := h.lock, stopped := h.stopped
    silent := h.silent, keepsOut := h.keepsOut }

/-- **Every step keeps it.** -/
lemma Sound.step {act : SyncAct} (h : Sound s) (hmeets : Undisturbed s act)
    (hstep : syncLock s act = some s') : Sound s' := by
  cases act with
  | pass seconds =>
      obtain rfl := Option.some.inj hstep
      exact h.passed seconds
  | startSync =>
      obtain rfl := Option.some.inj hstep
      exact h.startSync hmeets
  | delay task | undo task sent =>
      obtain ⟨d, hd, rfl⟩ := Option.map_eq_some_iff.mp hstep
      obtain ⟨hd, hstage⟩ := dispatchAt_eq_some hd
      exact (h.dispatched hd (hstage ▸ by decide) fun hnot => by cases hnot).posted _
  | undoReads task =>
      obtain ⟨d, hd, rfl⟩ := Option.map_eq_some_iff.mp hstep
      obtain ⟨hd, hstage⟩ := dispatchAt_eq_some hd
      exact h.undoReads hd hstage
  | undoDeletes task =>
      obtain ⟨d, hd, rfl⟩ := Option.map_eq_some_iff.mp hstep
      obtain ⟨hd, hstage⟩ := dispatchAt_eq_some hd
      exact h.undoDeletes hd hstage
  | deliver task =>
      simp only [syncLock, Option.ite_none_right_eq_some] at hstep
      obtain ⟨-, hstep⟩ := hstep
      obtain rfl := Option.some.inj hstep
      exact h.deliver hmeets
  | startInline =>
      obtain rfl := Option.some.inj hstep
      exact h.startInline hmeets
  | write number =>
      obtain ⟨e, he, rfl⟩ := Option.map_eq_some_iff.mp hstep
      obtain ⟨he, hstage⟩ := executionAt_eq_some he
      exact h.write he hstage
  | progress number =>
      obtain ⟨e, he, rfl⟩ := Option.map_eq_some_iff.mp hstep
      obtain ⟨he, hstage⟩ := executionAt_eq_some he
      exact h.progress he hstage
  | renew number =>
      obtain ⟨e, he, rfl⟩ := Option.map_eq_some_iff.mp hstep
      obtain ⟨he, hstage⟩ := executionAt_eq_some he
      exact h.renew he hstage
  | finish number =>
      obtain ⟨e, he, rfl⟩ := Option.map_eq_some_iff.mp hstep
      obtain ⟨he, hstage⟩ := executionAt_eq_some he
      exact h.stops he e.outrun (.inl rfl) (.inl (live_of_stage hstage (by decide)))
  | releaseReads number =>
      obtain ⟨e, he, rfl⟩ := Option.map_eq_some_iff.mp hstep
      obtain ⟨he, hstage⟩ := executionAt_eq_some he
      exact h.releaseReads he hstage
  | releaseDeletes number =>
      obtain ⟨e, he, rfl⟩ := Option.map_eq_some_iff.mp hstep
      obtain ⟨he, hstage⟩ := executionAt_eq_some he
      exact h.releaseDeletes he hstage
  | crash number =>
      obtain ⟨e, he, rfl⟩ := Option.map_eq_some_iff.mp hstep
      exact h.stops (Table.mem_of_find? he) e.outrun (.inr rfl) (.inr rfl)

lemma sound_idle (now : ℕ) : Sound (.idle now) where
  leased _ he := absurd he List.not_mem_nil
  apart _ he := absurd he List.not_mem_nil
  acting _ he := absurd he List.not_mem_nil
  releasing _ hd := absurd hd List.not_mem_nil
  waiting _ hd := absurd hd List.not_mem_nil
  issued := ⟨fun _ he => absurd he List.not_mem_nil, fun _ hd => absurd hd List.not_mem_nil⟩
  lock _ hlease := by cases hlease
  stopped _ he := absurd he List.not_mem_nil
  silent _ he := absurd he List.not_mem_nil
  keepsOut := rfl

end Keeps

/-! ## Every run -/

/-- **One sync at a time**, in every run in which no message is delivered to a run that is live and no
lease runs out between two statements of one call. -/
theorem one_sync_at_a_time {now : ℕ} {acts : List SyncAct} {s : SyncSite}
    (hmeet : syncLock.AllMeet Undisturbed (.idle now) acts)
    (hrun : syncLock.run (.idle now) acts = some s) : s.Safe :=
  (Machine.run_keeps_of_meet (fun _ _ _ h hmeets hstep => Sound.step h hmeets hstep)
    (sound_idle now) hmeet hrun).safe

/-- A run that renews its lease, a second one that waits for it, and a third after them. -/
def runAfterRun : List SyncAct :=
  [.startSync, .delay 0, .deliver 0, .write 1, .startSync, .progress 1, .pass 60, .renew 1, .write 1,
    .finish 1, .releaseReads 1, .releaseDeletes 1, .deliver 0, .startInline, .write 2]

/-- A run renews its lease and frees the lock for the next. -/
theorem one_sync_at_a_time_run_after_run : ∃ s, syncLock.run (.idle 0) runAfterRun = some s ∧ s.Safe := by
  obtain ⟨s, hrun⟩ := Option.isSome_iff_exists.mp
    (by decide +kernel : (syncLock.run (.idle 0) runAfterRun).isSome = true)
  exact ⟨s, hrun, one_sync_at_a_time (by decide +kernel) hrun⟩

/-- **A live run runs twice** where the broker delivers its message again: the lock holds its own task
id. -/
theorem redelivered_run_runs_twice :
    ¬∀ acts s, syncLock.run (.idle 0) acts = some s → s.Safe := by
  intro h
  obtain ⟨s, hrun, hsafe⟩ := (Option.any_eq_true _ _).mp
    (by decide +kernel : ((syncLock.run (.idle 0) [.startSync, .delay 0, .deliver 0, .write 1,
      .deliver 0, .write 2]).any fun s => decide ¬s.Safe) = true)
  exact of_decide_eq_true hsafe (h _ s hrun)

end Docketworks.SyncLock
