import Docketworks.Frontend.DraftRows

/-!
# Runs of draft rows

What holds of a grid's draft rows however calls, answers and updaters take their turns.

* `Kept` — the invariant: a row sent and not failed since has its guard up, or its removal waits, or it is
  gone.
* `kept_withPhantom`, `kept_dropRow`, `kept_startSend` — what the updaters do to it.
* `draft_rows_sound` — in a run in order, every state is `Sound`.
* `draft_sent_twice` — a commit applied before the removal of the row sends it again; an entry row that is
  stored leaves none.
-/

namespace Docketworks.Frontend

open Library

namespace DraftRows

variable {D : Type} {options : Options D} {grid grid' : Grid D} {localId other : ℕ}

/-! ## The invariant -/

/-- The guard of the row is up, or its removal waits, or it is gone. -/
def Guarded (grid : Grid D) (localId : ℕ) : Prop :=
  localId ∈ grid.persisting ∨ .settled localId ∈ grid.queue ∨
    ∀ entry ∈ grid.drafts, entry.localId ≠ localId

/-- What every turn keeps. -/
structure Kept (options : Options D) (grid : Grid D) : Prop where
  endsEmpty : EndsEmpty options grid.drafts
  sentOnce : SentOnce grid.log
  listed : ∀ localId < grid.nextId, (∃ entry ∈ grid.drafts, entry.localId = localId) ∨
    .created localId ∈ grid.log ∨ .removed localId ∈ grid.log
  guarded : ∀ localId, sendable localId grid.log = false → Guarded grid localId
  unique : (grid.drafts.map DraftEntry.localId).Nodup
  known : ∀ entry ∈ grid.drafts, entry.localId < grid.nextId
  unsent : ∀ localId, grid.nextId ≤ localId → sendable localId grid.log = true
  settled : ∀ localId, .settled localId ∈ grid.queue → .created localId ∈ grid.log
  removed : ∀ localId, .remove localId ∈ grid.queue → .removed localId ∈ grid.log

lemma kept_opened : Kept options (opened options) where
  endsEmpty := ⟨[], _, rfl, options.emptyDraft_isEmpty⟩
  sentOnce := trivial
  listed localId h := .inl ⟨_, List.mem_singleton_self _, (Nat.lt_one_iff.mp h).symm⟩
  guarded _ h := by cases h
  unique := List.nodup_singleton _
  known entry h := by
    obtain rfl := List.mem_singleton.mp h
    exact Nat.one_pos
  unsent _ _ := rfl
  settled _ h := absurd h List.not_mem_nil
  removed _ h := absurd h List.not_mem_nil

/-! ## Rows changed -/

lemma map_localId_patched (drafts : List (DraftEntry D)) (patch : D → D) :
    (patched drafts localId patch).map DraftEntry.localId = drafts.map DraftEntry.localId := by
  unfold patched
  rw [List.map_map]
  refine List.map_congr_left fun entry _ => ?_
  simp only [Function.comp_apply]
  split <;> rfl

lemma exists_localId_iff {drafts drafts' : List (DraftEntry D)}
    (h : drafts'.map DraftEntry.localId = drafts.map DraftEntry.localId) :
    (∃ entry ∈ drafts', entry.localId = other) ↔ ∃ entry ∈ drafts, entry.localId = other := by
  rw [← List.mem_map, h, List.mem_map]

lemma Kept.withDrafts (h : Kept options grid) {drafts : List (DraftEntry D)}
    (hids : drafts.map DraftEntry.localId = grid.drafts.map DraftEntry.localId)
    (hends : EndsEmpty options drafts) : Kept options { grid with drafts } where
  endsEmpty := hends
  sentOnce := h.sentOnce
  listed localId hlt := (h.listed localId hlt).imp_left (exists_localId_iff hids).mpr
  guarded localId hsent := (h.guarded localId hsent).imp_right <| .imp_right fun hgone entry hentry heq => by
    obtain ⟨row, hrow, hid⟩ := (exists_localId_iff hids).mp ⟨entry, hentry, heq⟩
    exact hgone row hrow hid
  unique := hids ▸ h.unique
  known entry hentry := by
    obtain ⟨row, hrow, hid⟩ := (exists_localId_iff hids).mp ⟨entry, hentry, rfl⟩
    exact hid ▸ h.known row hrow
  unsent := h.unsent
  settled := h.settled
  removed := h.removed

lemma kept_withPhantom {drafts : List (DraftEntry D)} (h : Kept options grid)
    (hunique : (drafts.map DraftEntry.localId).Nodup)
    (hsub : ∀ entry ∈ drafts, ∃ row ∈ grid.drafts, row.localId = entry.localId)
    (hlisted : ∀ localId < grid.nextId, (∃ entry ∈ drafts, entry.localId = localId) ∨
      .created localId ∈ grid.log ∨ .removed localId ∈ grid.log) :
    Kept options (withPhantom options grid drafts) := by
  have hknown : ∀ entry ∈ drafts, entry.localId < grid.nextId := fun entry hentry => by
    obtain ⟨row, hrow, hid⟩ := hsub entry hentry
    exact hid ▸ h.known row hrow
  have hrows : ∀ entry ∈ (withPhantom options grid drafts).drafts,
      entry ∈ drafts ∨ entry.localId = grid.nextId := fun entry hentry => by
    rcases List.mem_append.mp hentry with hentry | hentry
    · exact .inl hentry
    · obtain rfl := List.mem_singleton.mp hentry
      exact .inr rfl
  refine ⟨⟨drafts, _, rfl, options.emptyDraft_isEmpty⟩, h.sentOnce, fun localId hlt => ?_,
    fun localId hsent => ?_, ?_, fun entry hentry => ?_, fun localId hle => h.unsent localId ?_,
    h.settled, h.removed⟩
  · rcases Nat.lt_succ_iff_lt_or_eq.mp hlt with hlt | rfl
    · exact (hlisted localId hlt).imp_left fun ⟨entry, hentry, hid⟩ =>
        ⟨entry, List.mem_append_left _ hentry, hid⟩
    · exact .inl ⟨_, List.mem_append_right _ (List.mem_singleton_self _), rfl⟩
  · refine (h.guarded localId hsent).imp_right <| .imp_right fun hgone entry hentry heq => ?_
    rcases hrows entry hentry with hentry | hfresh
    · obtain ⟨row, hrow, hid⟩ := hsub entry hentry
      exact hgone row hrow (hid.trans heq)
    · -- nothing was sent for a fresh row
      have hunsent := h.unsent localId (Nat.le_of_eq (hfresh.symm.trans heq))
      exact absurd (hunsent.symm.trans hsent) (by decide)
  · show ((drafts ++ [_]).map DraftEntry.localId).Nodup
    rw [List.map_append, List.nodup_append]
    refine ⟨hunique, List.nodup_singleton _, fun id hid id' hid' heq => ?_⟩
    obtain ⟨entry, hentry, rfl⟩ := List.mem_map.mp hid
    obtain rfl := List.mem_singleton.mp hid'
    exact Nat.ne_of_lt (hknown entry hentry) heq
  · rcases hrows entry hentry with hentry | hfresh
    · exact Nat.lt_succ_of_lt (hknown entry hentry)
    · exact hfresh ▸ Nat.lt_succ_self _
  · exact Nat.le_of_succ_le hle

lemma filter_ne_of_last {before : List (DraftEntry D)} {last : DraftEntry D}
    (hunique : ((before ++ [last]).map DraftEntry.localId).Nodup) :
    (before ++ [last]).filter (fun entry => entry.localId ≠ last.localId) = before := by
  rw [List.map_append, List.nodup_append] at hunique
  rw [List.filter_append, List.filter_eq_self.mpr]
  · simp
  · exact fun entry hentry => decide_eq_true (hunique.2.2 _ (List.mem_map_of_mem hentry) _
      (List.mem_singleton_self _))

lemma endsEmpty_filter (hends : EndsEmpty options grid.drafts)
    (hunique : (grid.drafts.map DraftEntry.localId).Nodup)
    (hleaves : LeavesEntryRow options grid.drafts localId)
    (hsome : (grid.drafts.filter fun entry => entry.localId ≠ localId) ≠ []) :
    EndsEmpty options (grid.drafts.filter fun entry => entry.localId ≠ localId) := by
  obtain ⟨before, last, hdrafts, hempty⟩ := hends
  by_cases hlast : last.localId = localId
  · subst hlast
    rw [hdrafts] at hunique hsome ⊢
    rw [filter_ne_of_last hunique] at hsome ⊢
    exact (hleaves before last hdrafts rfl).resolve_left hsome
  · rw [hdrafts, List.filter_append]
    exact ⟨before.filter fun entry => entry.localId ≠ localId, last, by simp [hlast], hempty⟩

/-- **A row dropped** that was created or removed. -/
lemma kept_dropRow (h : Kept options grid) (hleaves : LeavesEntryRow options grid.drafts localId)
    (hgone : .created localId ∈ grid.log ∨ .removed localId ∈ grid.log) :
    Kept options (dropRow options grid localId) := by
  have hlisted : ∀ other < grid.nextId,
      (∃ entry ∈ grid.drafts.filter fun entry => entry.localId ≠ localId, entry.localId = other) ∨
        .created other ∈ grid.log ∨ .removed other ∈ grid.log := by
    intro other hlt
    by_cases hother : other = localId
    · exact .inr (hother ▸ hgone)
    · refine (h.listed other hlt).imp_left fun ⟨entry, hentry, hid⟩ => ⟨entry, ?_, hid⟩
      exact List.mem_filter.mpr ⟨hentry, decide_eq_true (hid ▸ hother)⟩
  unfold dropRow
  simp only
  split
  · next hnone =>
    rw [List.isEmpty_iff.mp hnone] at hlisted
    exact kept_withPhantom h List.nodup_nil (fun _ hentry => absurd hentry List.not_mem_nil) hlisted
  · next hsome =>
    have hunique : ((grid.drafts.filter fun entry => entry.localId ≠ localId).map
        DraftEntry.localId).Nodup := h.unique.sublist (List.filter_sublist.map _)
    refine ⟨endsEmpty_filter h.endsEmpty h.unique hleaves fun hnil => hsome (List.isEmpty_iff.mpr hnil),
      h.sentOnce, hlisted, fun other hsent => ?_, hunique,
      fun entry hentry => h.known entry (List.mem_filter.mp hentry).1, h.unsent, h.settled, h.removed⟩
    exact (h.guarded other hsent).imp_right <| .imp_right fun hgone entry hentry =>
      hgone entry (List.mem_filter.mp hentry).1

/-- **A send that starts** for a listed row whose guard is down, with no removal of it waiting. -/
lemma kept_startSend (h : Kept options grid) {external : Bool}
    (hlisted : ∃ entry ∈ grid.drafts, entry.localId = localId) (hdown : localId ∉ grid.persisting)
    (hwaits : .settled localId ∉ grid.queue) : Kept options (startSend grid ⟨localId, external⟩) := by
  obtain ⟨entry, hentry, hid⟩ := hlisted
  have hsendable : sendable localId grid.log = true := by
    by_contra hsent
    rcases h.guarded localId (Bool.not_eq_true _ ▸ hsent) with hup | hqueued | hgone
    · exact hdown hup
    · exact hwaits hqueued
    · exact hgone entry hentry hid
  refine ⟨h.endsEmpty, ⟨hsendable, h.sentOnce⟩, fun other hlt => ?_, fun other hsent => ?_, h.unique, h.known,
    fun other hle => ?_, fun other hqueued => .tail _ (h.settled other hqueued),
    fun other hqueued => .tail _ (h.removed other hqueued)⟩
  · exact (h.listed other hlt).imp_right (.imp (.tail _) (.tail _))
  · by_cases hother : localId = other
    · exact .inl (hother ▸ List.mem_cons_self)
    · refine (h.guarded other ?_).imp_left (.tail _)
      simpa [startSend, sendable, hother] using hsent
  · have hne : localId ≠ other := hid ▸ Nat.ne_of_lt (Nat.lt_of_lt_of_le (h.known entry hentry) hle)
    simpa [startSend, sendable, hne] using h.unsent other hle

/-! ## The queue and the guard -/

lemma Kept.enqueue (h : Kept options grid) {updater : Updater D}
    (hsettled : ∀ localId, updater = .settled localId → .created localId ∈ grid.log)
    (hremoved : ∀ localId, updater = .remove localId → .removed localId ∈ grid.log) :
    Kept options { grid with queue := grid.queue ++ [updater] } where
  endsEmpty := h.endsEmpty
  sentOnce := h.sentOnce
  listed := h.listed
  guarded localId hsent := (h.guarded localId hsent).imp_right (.imp_left (List.mem_append_left _))
  unique := h.unique
  known := h.known
  unsent := h.unsent
  settled localId hqueued := (List.mem_append.mp hqueued).elim (h.settled localId) fun hlast =>
    hsettled localId (List.mem_singleton.mp hlast).symm
  removed localId hqueued := (List.mem_append.mp hqueued).elim (h.removed localId) fun hlast =>
    hremoved localId (List.mem_singleton.mp hlast).symm

lemma Kept.dequeue (h : Kept options grid) {updater : Updater D} {queue : List (Updater D)}
    (hqueue : grid.queue = updater :: queue)
    (hgone : ∀ localId, updater = .settled localId → sendable localId grid.log = false →
      ∀ entry ∈ grid.drafts, entry.localId ≠ localId) : Kept options { grid with queue } where
  endsEmpty := h.endsEmpty
  sentOnce := h.sentOnce
  listed := h.listed
  guarded localId hsent := by
    rcases h.guarded localId hsent with hup | hqueued | hout
    · exact .inl hup
    · rw [hqueue] at hqueued
      rcases List.mem_cons.mp hqueued with hhead | htail
      · exact .inr (.inr (hgone localId hhead.symm hsent))
      · exact .inr (.inl htail)
    · exact .inr (.inr hout)
  unique := h.unique
  known := h.known
  unsent := h.unsent
  settled localId hqueued := h.settled localId (hqueue ▸ List.mem_cons_of_mem _ hqueued)
  removed localId hqueued := h.removed localId (hqueue ▸ List.mem_cons_of_mem _ hqueued)

lemma Kept.lower (h : Kept options grid)
    (hgone : sendable localId grid.log = false → ∀ entry ∈ grid.drafts, entry.localId ≠ localId) :
    Kept options { grid with persisting := grid.persisting.filter (· ≠ localId) } where
  endsEmpty := h.endsEmpty
  sentOnce := h.sentOnce
  listed := h.listed
  guarded other hsent := by
    by_cases hother : other = localId
    · exact .inr (.inr (hother ▸ hgone (hother ▸ hsent)))
    · exact (h.guarded other hsent).imp_left fun hup =>
        List.mem_filter.mpr ⟨hup, decide_eq_true hother⟩
  unique := h.unique
  known := h.known
  unsent := h.unsent
  settled := h.settled
  removed := h.removed

lemma Kept.congr (h : Kept options grid) (timers : List ℕ) (inFlight : List Send) :
    Kept options { grid with timers, inFlight } :=
  ⟨h.endsEmpty, h.sentOnce, h.listed, h.guarded, h.unique, h.known, h.unsent, h.settled, h.removed⟩

lemma Kept.logRemoved (h : Kept options grid) (localId : ℕ) :
    Kept options { grid with log := .removed localId :: grid.log } where
  endsEmpty := h.endsEmpty
  sentOnce := h.sentOnce
  listed other hlt := (h.listed other hlt).imp_right (.imp (.tail _) (.tail _))
  guarded := h.guarded
  unique := h.unique
  known := h.known
  unsent := h.unsent
  settled other hqueued := .tail _ (h.settled other hqueued)
  removed other hqueued := .tail _ (h.removed other hqueued)

/-- **An answer**: the row waits to be removed, or may be sent again. -/
lemma kept_settle (h : Kept options grid) (outcome : Outcome) :
    Kept options (settle grid localId outcome) := by
  have hother : ∀ {other : ℕ}, other ≠ localId → Guarded grid other →
      other ∈ grid.persisting.filter (· ≠ localId) ∨ .settled other ∈ grid.queue ∨
        ∀ entry ∈ grid.drafts, entry.localId ≠ other := fun hne hguarded =>
    hguarded.imp_left fun hup => List.mem_filter.mpr ⟨hup, decide_eq_true hne⟩
  have hlog : ∀ event : Event, ∀ other < grid.nextId, (∃ entry ∈ grid.drafts, entry.localId = other) ∨
      .created other ∈ event :: grid.log ∨ .removed other ∈ event :: grid.log := fun event other hlt =>
    (h.listed other hlt).imp_right (.imp (.tail _) (.tail _))
  cases outcome with
  | created =>
      refine ⟨h.endsEmpty, h.sentOnce, hlog _, fun other hsent => ?_, h.unique, h.known, h.unsent,
        fun other hqueued => ?_, fun other hqueued => ?_⟩
      · by_cases hself : other = localId
        · exact .inr (.inl (hself ▸ List.mem_append_right _ (List.mem_singleton_self _)))
        · exact (hother hself (h.guarded other hsent)).imp_right (.imp_left (List.mem_append_left _))
      · rcases List.mem_append.mp hqueued with hqueued | hlast
        · exact .tail _ (h.settled other hqueued)
        · obtain rfl := Updater.settled.inj (List.mem_singleton.mp hlast)
          exact .head _
      · rcases List.mem_append.mp hqueued with hqueued | hlast
        · exact .tail _ (h.removed other hqueued)
        · cases List.mem_singleton.mp hlast
  | failed | cancelled =>
      refine ⟨h.endsEmpty, h.sentOnce, hlog _, fun other hsent => ?_, h.unique, h.known, fun other hle => ?_,
        fun other hqueued => .tail _ (h.settled other hqueued),
        fun other hqueued => .tail _ (h.removed other hqueued)⟩
      · obtain ⟨hne, hsent⟩ : ¬localId = other ∧ sendable other grid.log = false := by
          simpa [settle, sendable] using hsent
        exact hother (Ne.symm hne) (h.guarded other hsent)
      · simp [settle, sendable, h.unsent other hle]

/-! ## The turns -/

lemma not_mem_dropRow (hlt : localId < grid.nextId) :
    ∀ entry ∈ (dropRow options grid localId).drafts, entry.localId ≠ localId := by
  intro entry hentry
  unfold dropRow at hentry
  simp only at hentry
  split at hentry
  · obtain rfl := List.mem_singleton.mp hentry
    exact (Nat.ne_of_lt hlt).symm
  · exact of_decide_eq_true (List.mem_filter.mp hentry).2

lemma kept_applyUpdate (h : Kept options grid) (patch : D → D) :
    Kept options (applyUpdater options grid (.update localId patch)) := by
  have hids := @map_localId_patched _ localId grid.drafts patch
  unfold applyUpdater
  simp only
  split
  · refine kept_withPhantom h (hids ▸ h.unique) (fun entry hentry => ?_)
      fun other hlt => (h.listed other hlt).imp_left (exists_localId_iff hids).mpr
    exact (exists_localId_iff hids).mp ⟨entry, hentry, rfl⟩
  · next hends =>
    refine h.withDrafts hids ?_
    obtain ⟨before, last, hdrafts, -⟩ := h.endsEmpty
    obtain ⟨before', last', hnext⟩ : ∃ before' last', patched grid.drafts localId patch = before' ++ [last'] := by
      rw [hdrafts]
      unfold patched
      exact ⟨_, _, by rw [List.map_append, List.map_singleton]⟩
    rw [hnext] at hends ⊢
    exact ⟨before', last', rfl, by simpa using hends⟩

lemma kept_persistDraftIfReady (h : Kept options grid)
    (horder : ¬(.settled localId ∈ grid.queue ∧
      ∃ entry ∈ grid.drafts, entry.localId = localId ∧ options.isReady entry.draft = true)) :
    Kept options (persistDraftIfReady options grid localId) := by
  unfold persistDraftIfReady
  split
  · exact h
  next entry hfind =>
    split
    · next hready =>
      simp only [Bool.and_eq_true, decide_eq_true_eq] at hready
      have hentry := List.mem_of_find?_eq_some hfind
      have hid : entry.localId = localId := by simpa using List.find?_some hfind
      exact kept_startSend h ⟨entry, hentry, hid⟩ hready.2 fun hqueued =>
        horder ⟨hqueued, entry, hentry, hid, hready.1⟩
    · exact h

lemma dropRow_with (queue : List (Updater D)) (persisting : List ℕ) :
    dropRow options { grid with queue, persisting } localId =
      { dropRow options grid localId with queue, persisting } := by
  unfold dropRow
  simp only
  split <;> rfl

lemma dropRow_log : (dropRow options grid localId).log = grid.log ∧
    (dropRow options grid localId).queue = grid.queue ∧
    (dropRow options grid localId).persisting = grid.persisting := by
  unfold dropRow
  simp only
  split <;> exact ⟨rfl, rfl, rfl⟩

/-- **A row settled as created** is dropped, and its guard with it. -/
lemma kept_applySettled {queue : List (Updater D)} (h : Kept options grid)
    (hqueue : grid.queue = .settled localId :: queue)
    (hleaves : LeavesEntryRow options grid.drafts localId) :
    Kept options (applyUpdater options { grid with queue } (.settled localId)) := by
  obtain ⟨hlog, hsame, hguards⟩ := @dropRow_log _ options grid localId
  have hdropped := kept_dropRow h hleaves (.inl (h.settled localId (hqueue ▸ List.mem_cons_self)))
  have hgone : sendable localId (dropRow options grid localId).log = false →
      ∀ entry ∈ (dropRow options grid localId).drafts, entry.localId ≠ localId := fun hsent => by
    refine not_mem_dropRow (Nat.lt_of_not_le fun hle => ?_)
    rw [hlog, h.unsent localId hle] at hsent
    cases hsent
  have hdequeued := hdropped.dequeue (hsame.trans hqueue) fun other heq hsent => by
    obtain rfl := Updater.settled.inj heq
    exact hgone hsent
  have hlowered := @Kept.lower _ _ _ localId hdequeued hgone
  rw [hguards] at hlowered
  have happlied : applyUpdater options { grid with queue } (.settled localId) =
      { dropRow options grid localId with
        queue, persisting := grid.persisting.filter (· ≠ localId) } :=
    @dropRow_with _ _ grid _ queue (grid.persisting.filter (· ≠ localId))
  rw [happlied]
  exact hlowered

/-- **The next updater**, in order. -/
lemma kept_applyNext (h : Kept options grid) (horder : InOrder options grid (.applyNext : Step D))
    (hstep : step options grid .applyNext = some grid') : Kept options grid' := by
  rcases hqueue : grid.queue with _ | ⟨updater, queue⟩
  · simp only [step, hqueue] at hstep
    cases hstep
  simp only [step, hqueue] at hstep
  simp only [InOrder, hqueue] at horder
  obtain rfl := Option.some.inj hstep
  cases updater with
  | update localId patch => exact kept_applyUpdate (h.dequeue hqueue fun _ heq => by cases heq) patch
  | commit localId => exact kept_persistDraftIfReady (h.dequeue hqueue fun _ heq => by cases heq) horder
  | settled localId => exact kept_applySettled h hqueue horder
  | remove localId =>
      refine kept_dropRow (h.dequeue hqueue fun _ heq => by cases heq) horder (.inr ?_)
      exact h.removed localId (hqueue ▸ List.mem_cons_self)

/-- **One turn** in order keeps the invariant. -/
lemma kept_step {a : Step D} (h : Kept options grid) (horder : InOrder options grid a)
    (hstep : step options grid a = some grid') : Kept options grid' := by
  cases a with
  | updateDraft localId patch | commitDraft localId =>
      obtain rfl := Option.some.inj hstep
      exact h.enqueue (fun _ heq => by cases heq) fun _ heq => by cases heq
  | removeDraft localId =>
      obtain rfl := Option.some.inj hstep
      refine (h.logRemoved localId).enqueue (fun _ heq => by cases heq) fun other heq => ?_
      obtain rfl := Updater.remove.inj heq
      exact .head _
  | rowExit localId | rowFocus localId =>
      obtain rfl := Option.some.inj hstep
      exact h.congr _ _
  | timerFires localId =>
      simp only [step] at hstep
      split at hstep
      · obtain rfl := Option.some.inj hstep
        have hfired := h.congr (grid.timers.filter (· ≠ localId)) grid.inFlight
        exact @Kept.enqueue _ _ _ hfired (.commit localId) (fun _ heq => by cases heq) fun _ heq => by cases heq
      · cases hstep
  | beginExternalPersist localId =>
      simp only [step] at hstep
      split at hstep
      · next hfree =>
        obtain rfl := Option.some.inj hstep
        simp only [Bool.and_eq_true, decide_eq_true_eq, List.any_eq_true] at hfree
        have hsent := @kept_startSend _ _ _ _ h true hfree.1 hfree.2 fun hqueued =>
          horder ⟨hqueued, hfree.1⟩
        exact hsent.congr _ _
      · obtain rfl := Option.some.inj hstep
        exact h
  | answer send outcome =>
      simp only [step] at hstep
      split at hstep
      · obtain rfl := Option.some.inj hstep
        exact kept_settle (h.congr grid.timers _) outcome
      · cases hstep
  | applyNext => exact kept_applyNext h horder hstep

/-! ## The whole run -/

lemma mem_applyUpdater {updater : Updater D} {entry : DraftEntry D} (hentry : entry ∈ grid.drafts)
    (hother : ¬ updater.Rewrites entry.localId) : entry ∈ (applyUpdater options grid updater).drafts := by
  have hdrop : ∀ {grid : Grid D} {localId : ℕ}, entry ∈ grid.drafts → localId ≠ entry.localId →
      entry ∈ (dropRow options grid localId).drafts := fun {grid localId} hentry hne => by
    have hremains : entry ∈ grid.drafts.filter fun entry => entry.localId ≠ localId :=
      List.mem_filter.mpr ⟨hentry, decide_eq_true hne.symm⟩
    unfold dropRow
    simp only
    split
    · next hnone => exact absurd hremains (List.isEmpty_iff.mp hnone ▸ List.not_mem_nil)
    · exact hremains
  cases updater with
  | update localId patch =>
      have hpatched : entry ∈ patched grid.drafts localId patch :=
        List.mem_map.mpr ⟨entry, hentry, if_neg fun heq => hother heq.symm⟩
      unfold applyUpdater
      simp only
      split
      · exact List.mem_append_left _ hpatched
      · exact hpatched
  | commit localId =>
      unfold applyUpdater persistDraftIfReady
      simp only
      split
      · exact hentry
      · split <;> exact hentry
  | settled localId => exact hdrop hentry hother
  | remove localId => exact hdrop hentry hother

lemma drafts_settle (outcome : Outcome) : (settle grid localId outcome).drafts = grid.drafts := by
  cases outcome <;> rfl

lemma log_applyUpdater_commit {entry : DraftEntry D} (hunique : (grid.drafts.map DraftEntry.localId).Nodup)
    (hentry : entry ∈ grid.drafts) (hready : options.isReady entry.draft = true)
    (hdown : entry.localId ∉ grid.persisting) :
    (applyUpdater options grid (.commit entry.localId)).log = .sent entry.localId :: grid.log := by
  have hfind : grid.drafts.find? (fun row => row.localId = entry.localId) = some entry := by
    rcases hfind : grid.drafts.find? (fun row => row.localId = entry.localId) with _ | row
    · exact absurd (List.find?_eq_none.mp hfind entry hentry) (by simp)
    · have hid : row.localId = entry.localId := by simpa using List.find?_some hfind
      rw [hfind, List.inj_on_of_nodup_map hunique (List.mem_of_find?_eq_some hfind) hentry hid]
  have hsends : (options.isReady entry.draft && decide (entry.localId ∉ grid.persisting)) = true := by
    rw [hready, decide_eq_true hdown]
    rfl
  simp only [applyUpdater, persistDraftIfReady, hfind, hsends, if_true, startSend]

lemma Kept.sound (h : Kept options grid) : Sound options grid where
  endsEmpty := h.endsEmpty
  sentOnce := h.sentOnce
  kept := h.listed
  contents a grid' hstep entry hentry := by
    cases a with
    | applyNext =>
        rcases hqueue : grid.queue with _ | ⟨updater, queue⟩
        · simp only [step, hqueue] at hstep
          cases hstep
        simp only [step, hqueue] at hstep
        obtain rfl := Option.some.inj hstep
        by_cases hrewrites : updater.Rewrites entry.localId
        · exact .inr ⟨updater, queue, rfl, hrewrites⟩
        · exact .inl (@mem_applyUpdater _ _ { grid with queue } _ _ hentry hrewrites)
    | timerFires localId =>
        simp only [step] at hstep
        split at hstep
        · obtain rfl := Option.some.inj hstep
          exact .inl hentry
        · cases hstep
    | beginExternalPersist localId =>
        simp only [step] at hstep
        split at hstep <;> (obtain rfl := Option.some.inj hstep; exact .inl hentry)
    | answer send outcome =>
        simp only [step] at hstep
        split at hstep
        · obtain rfl := Option.some.inj hstep
          rw [drafts_settle]
          exact .inl hentry
        · cases hstep
    | updateDraft | commitDraft | removeDraft | rowExit | rowFocus =>
        obtain rfl := Option.some.inj hstep
        exact .inl hentry
  resent send outcome grid' houtcome hstep := by
    simp only [step] at hstep
    split at hstep
    · obtain rfl := Option.some.inj hstep
      have hdown : send.localId ∉ grid.persisting.filter (· ≠ send.localId) := by simp
      cases outcome with
      | created => exact absurd rfl houtcome
      | failed | cancelled =>
          refine ⟨rfl, rfl, fun entry hentry hid hready => ?_⟩
          rw [← hid] at hdown ⊢
          exact log_applyUpdater_commit h.unique hentry hready hdown
    · cases hstep

/-- **Draft rows are kept.**  In a run in order, every state reached is sound. -/
theorem draft_rows_sound {steps : List (Step D)}
    (horder : (step options).AllMeet (InOrder options) (opened options) steps)
    (hrun : (step options).run (opened options) steps = some grid) : Sound options grid :=
  (Machine.run_keeps_of_meet (fun _ _ _ h horder hstep => kept_step h horder hstep) kept_opened horder
    hrun).sound

/-! ## Two runs -/

/-- Drafts that are ready as soon as they are not empty. -/
def ticks : Options Bool := ⟨false, not, id, rfl⟩

/-- A commit waits when the row is settled, and sends it again; and the entry row is stored for the caller
while another row is open. -/
theorem draft_sent_twice :
    (((step ticks).run (opened ticks) [.updateDraft 0 fun _ => true, .applyNext, .commitDraft 0, .applyNext,
        .rowExit 0, .timerFires 0, .answer ⟨0, false⟩ .created, .applyNext]).map Grid.log =
      some [.sent 0, .created 0, .sent 0]) ∧ ¬ SentOnce [.sent 0, .created 0, .sent 0] ∧
    (((step ticks).run (opened ticks) [.updateDraft 0 fun _ => true, .applyNext, .beginExternalPersist 1,
        .answer ⟨1, true⟩ .created, .applyNext]).map Grid.drafts = some [⟨0, true⟩]) ∧
      ¬ EndsEmpty ticks [⟨0, true⟩] := by
  refine ⟨by decide, fun h => absurd h.1 (by decide), by decide, ?_⟩
  rintro ⟨before, last, hdrafts, hempty⟩
  rcases before with _ | ⟨row, before⟩
  · obtain rfl := List.singleton_inj.mp hdrafts
    cases hempty
  · have hlength := congrArg List.length hdrafts
    simp at hlength

/-- A send that fails and is made again. -/
theorem draft_rows_sound_after_a_retry :
    ∃ grid, Sound ticks grid ∧ grid.log = [.sent 0, .failed 0, .sent 0] := by
  obtain ⟨grid, hgrid, hlog⟩ : ∃ grid, (step ticks).run (opened ticks) [.updateDraft 0 fun _ => true,
      .applyNext, .beginExternalPersist 0, .answer ⟨0, true⟩ .failed, .beginExternalPersist 0] = some grid ∧
      grid.log = [.sent 0, .failed 0, .sent 0] := ⟨_, rfl, rfl⟩
  refine ⟨grid, draft_rows_sound ?_ hgrid, hlog⟩
  refine ⟨trivial, fun s₁ h₁ => ?_⟩
  obtain rfl := Option.some.inj h₁
  refine ⟨trivial, fun s₂ h₂ => ?_⟩
  obtain rfl := Option.some.inj h₂
  refine ⟨fun h => absurd h.1 List.not_mem_nil, fun s₃ h₃ => ?_⟩
  obtain rfl := Option.some.inj h₃
  refine ⟨trivial, fun s₄ h₄ => ?_⟩
  obtain rfl := Option.some.inj h₄
  exact ⟨fun h => absurd h.1 List.not_mem_nil, fun _ _ => trivial⟩

end DraftRows

end Docketworks.Frontend
