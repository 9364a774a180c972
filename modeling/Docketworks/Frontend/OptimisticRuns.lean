import Docketworks.Frontend.OptimisticRows
import Mathlib.Data.List.Nodup

/-!
# Optimistic grids show the truth

Every run of `Docketworks.Frontend.OptimisticRows`: patches, deletes and appends, requests that end in any
order and either way, and refetches.

* `consume_map` — the settled prefix goes into the document, and the display stays.
* `Sound` — what holds between the steps: the queue is the history from its first open write on.
* `Sound.run`, `Sound.ends`, `Sound.cleanUp`, `Sound.refetched` — the steps.
* `grid_shows_the_truth` — the display is the user's writes in their order, each as it ended, and the
  latest choice is on it.
* `raising_callback_keeps_the_queue` — a callback that raises last leaves the queue behind.
-/

namespace Docketworks.Frontend

open Library
open Library.Json (Members)

variable {grid : Grid}

/-! ## Replaying writes -/

lemma replay_append (xs ys : List Made) (doc : Members) :
    replay grid (xs ++ ys) doc = replay grid ys (replay grid xs doc) := List.foldl_append

/-- A write as the queue has it. -/
def Made.pending (grid : Grid) (self : Made) : PendingWrite :=
  ⟨self.number, self.write, self.effect grid, self.outcome.isSome⟩

lemma foldl_pending (writes : List Made) (doc : Members) :
    (writes.map (Made.pending grid)).foldl (fun doc write => write.apply doc) doc =
      replay grid writes doc := by
  rw [List.foldl_map]
  rfl

variable (grid) in
/-- **The settled prefix** goes into the document: what is left begins with an open write. -/
lemma consume_map (confirmed : Option Members) (writes : List Made) : ∃ ended left, writes = ended ++ left ∧
    (∀ made ∈ ended, made.outcome.isSome) ∧ (∀ made ∈ left.head?, made.outcome.isNone) ∧
      consume confirmed (writes.map (Made.pending grid)) =
        (confirmed.map (replay grid ended), left.map (Made.pending grid)) := by
  induction writes generalizing confirmed with
  | nil =>
      refine ⟨[], [], rfl, fun _ h => absurd h List.not_mem_nil, fun _ h => (nomatch h), ?_⟩
      cases confirmed <;> rfl
  | cons made writes ih =>
      cases houtcome : made.outcome.isSome with
      | true =>
          obtain ⟨ended, left, rfl, hended, hleft, hconsume⟩ := ih (confirmed.map (made.effect grid))
          refine ⟨made :: ended, left, rfl, List.forall_mem_cons.mpr ⟨houtcome, hended⟩, hleft, ?_⟩
          have hsettled : (made.pending grid).settled = true := houtcome
          rw [List.map_cons, consume, if_pos hsettled]
          refine hconsume.trans ?_
          cases confirmed <;> rfl
      | false =>
          have hopen : (made.pending grid).settled = false := houtcome
          refine ⟨[], made :: writes, rfl, fun _ h => absurd h List.not_mem_nil, fun _ h => ?_, ?_⟩
          · rw [← Option.some.inj h, ← Option.not_isSome, houtcome]
            rfl
          · rw [List.map_cons, consume, if_neg (by rw [hopen]; exact Bool.false_ne_true)]
            cases confirmed <;> rfl

/-! ## What holds between the steps -/

/-- The queue is the history from its first open write on, over the document with the earlier ones. -/
structure Queued (grid : Grid) (s : GridSite) (queue : WriteQueue) (ended left : List Made) : Prop where
  history : s.history = ended ++ left
  settled : ∀ made ∈ ended, made.outcome.isSome
  first : ∀ made ∈ left.head?, made.outcome.isNone
  pending : queue.pending = left.map (Made.pending grid)
  confirmed : queue.confirmed = s.base.map (replay grid ended)

/-- What holds between the steps. -/
structure Sound (grid : Grid) (s : GridSite) : Prop where
  numbers : (s.history.map Made.number).Nodup
  made : ∀ made ∈ s.history, made.number < s.made
  shows : s.cache = s.truth grid
  idle : s.queue = none → s.AllSettled
  queued : ∀ queue ∈ s.queue, ∃ ended left, Queued grid s queue ended left
  due : ∀ queue ∈ s.queue, queue.pending = [] → queue.number ∈ s.cleanUps

section Steps

variable {s s' : GridSite} {queue : WriteQueue} {ended left : List Made} {write : GridWrite} {number : ℕ}

lemma Queued.allSettled_iff (h : Queued grid s queue ended left) : s.AllSettled ↔ queue.pending = [] := by
  have hnil : queue.pending = [] ↔ left = [] := by rw [h.pending, List.map_eq_nil_iff]
  rw [hnil]
  unfold GridSite.AllSettled
  rw [h.history]
  constructor
  · intro hall
    rcases left with _ | ⟨made, left⟩
    · rfl
    · have hsome := hall made (List.mem_append_right ended List.mem_cons_self)
      have hnone := h.first made rfl
      rw [← Option.not_isSome, hsome] at hnone
      cases hnone
  · rintro rfl made hmade
    rw [List.append_nil] at hmade
    exact h.settled made hmade

lemma Sound.safe (h : Sound grid s) : s.Safe grid := by
  refine ⟨h.shows, fun hall hnone => ?_⟩
  rcases hqueue : s.queue with _ | queue
  · rfl
  · obtain ⟨ended, left, hqueued⟩ := h.queued queue hqueue
    have hdue := h.due queue hqueue (hqueued.allSettled_iff.mp hall)
    rw [hnone] at hdue
    exact absurd hdue List.not_mem_nil

/-! ## Publishing -/

lemma shows_publish (h : Queued grid s queue ended left) (hempty : s.base = none → s.cache = none) :
    (s.publish queue).cache = s.truth grid := by
  unfold GridSite.publish GridSite.truth
  rw [h.confirmed, h.history]
  rcases hbase : s.base with _ | base
  · exact hempty hbase
  · simp only [Option.map_some, h.pending, foldl_pending, replay_append]

lemma publish_fields (s : GridSite) (queue : WriteQueue) : (s.publish queue).queue = some queue ∧
    (s.publish queue).cleanUps = s.cleanUps ∧ (s.publish queue).made = s.made ∧
      (s.publish queue).base = s.base ∧ (s.publish queue).history = s.history := by
  unfold GridSite.publish
  split <;> exact ⟨rfl, rfl, rfl, rfl, rfl⟩

/-- **A queue is published**: what else there is to show. -/
lemma sound_publish {made : ℕ} (h : Queued grid s queue ended left) (hempty : s.base = none → s.cache = none)
    (hnumbers : (s.history.map Made.number).Nodup) (hmade : ∀ each ∈ s.history, each.number < made)
    (hdue : queue.pending = [] → queue.number ∈ s.cleanUps) :
    Sound grid { s.publish queue with made := made } := by
  obtain ⟨hqueue, hclean, -, hbase, hhistory⟩ := publish_fields s queue
  have hshows := shows_publish h hempty
  refine ⟨?_, ?_, ?_, fun hnone => ?_, fun other hother => ?_, fun other hother => ?_⟩
  · rw [hhistory]
    exact hnumbers
  · intro each heach
    rw [hhistory] at heach
    exact hmade each heach
  · refine hshows.trans ?_
    unfold GridSite.truth
    rw [hbase, hhistory]
  · rw [hqueue] at hnone
    cases hnone
  · obtain rfl : queue = other := Option.some.inj (hqueue.symm.trans hother)
    exact ⟨ended, left, hhistory.trans h.history, h.settled, h.first, h.pending,
      h.confirmed.trans (by rw [hbase])⟩
  · obtain rfl : queue = other := Option.some.inj (hqueue.symm.trans hother)
    intro hnil
    rw [hclean]
    exact hdue hnil

lemma Sound.empty (h : Sound grid s) (hbase : s.base = none) : s.cache = none := by
  rw [h.shows]
  unfold GridSite.truth
  rw [hbase]
  rfl

/-! ## The steps -/

/-- **A write begins** over what the user sees, or after the ones under way. -/
lemma Sound.run (h : Sound grid s) (write : GridWrite) : Sound grid (s.run grid write) := by
  have hnew : ∀ each ∈ s.history, each.number ≠ s.made := fun each heach => (h.made each heach).ne
  unfold GridSite.run
  by_cases hall : s.AllSettled
  · -- it begins from the displayed document
    have hqueued : Queued grid (s.noteWrite write) ⟨(s.queue.getD ⟨s.made, s.cache, []⟩).number, s.cache,
        [⟨s.made, write, grid.display write, false⟩]⟩ [] [⟨s.made, write, none⟩] := by
      unfold GridSite.noteWrite
      rw [if_pos hall]
      refine ⟨rfl, fun _ hnil => absurd hnil List.not_mem_nil, fun made hmade => ?_, rfl, ?_⟩
      · rw [← Option.some.inj hmade]
        rfl
      · cases s.cache <;> rfl
    have hqueue : (s.queue.getD ⟨s.made, s.cache, []⟩).push ⟨s.made, write, grid.display write, false⟩ =
        ⟨(s.queue.getD ⟨s.made, s.cache, []⟩).number, s.cache,
          [⟨s.made, write, grid.display write, false⟩]⟩ := by
      rcases hopen : s.queue with _ | queue
      · rfl
      · obtain ⟨ended, left, hold⟩ := h.queued queue hopen
        have hnil := hold.allSettled_iff.mp hall
        have hleft : left = [] := List.map_eq_nil_iff.mp (hold.pending.symm.trans hnil)
        have hconfirmed : queue.confirmed = s.cache := by
          rw [h.shows, hold.confirmed]
          unfold GridSite.truth
          rw [hold.history, hleft, List.append_nil]
        simp only [Option.getD_some, WriteQueue.push, hnil, List.nil_append, hconfirmed]
    rw [hqueue]
    refine sound_publish hqueued (fun hbase => ?_) ?_ ?_ (fun hnil => by cases hnil)
    all_goals
      unfold GridSite.noteWrite at *
      rw [if_pos hall] at *
    · exact hbase
    · simp
    · intro each heach
      rw [List.mem_singleton.mp heach]
      exact Nat.lt_succ_self s.made
  · -- it goes behind the ones under way
    rcases hopen : s.queue with _ | queue
    · exact absurd (h.idle hopen) hall
    obtain ⟨ended, left, hold⟩ := h.queued queue hopen
    have hne : left ≠ [] := by
      rintro rfl
      exact hall (hold.allSettled_iff.mpr hold.pending)
    have hqueued : Queued grid (s.noteWrite write)
        (queue.push ⟨s.made, write, grid.display write, false⟩) ended
        (left ++ [⟨s.made, write, none⟩]) := by
      unfold GridSite.noteWrite
      rw [if_neg hall]
      refine ⟨?_, hold.settled, fun made hmade => ?_, ?_, hold.confirmed⟩
      · simp only [hold.history, List.append_assoc]
      · rw [List.head?_append_of_ne_nil _ hne] at hmade
        exact hold.first made hmade
      · rw [List.map_append, ← hold.pending]
        rfl
    rw [Option.getD_some]
    refine sound_publish hqueued (fun hbase => ?_) ?_ ?_ (fun hnil => by simp [WriteQueue.push] at hnil)
    all_goals
      unfold GridSite.noteWrite at *
      rw [if_neg hall] at *
    · exact h.empty hbase
    · simp only [List.map_append, List.map_cons, List.map_nil]
      refine List.nodup_append.mpr ⟨h.numbers, List.pairwise_singleton _ _, fun a ha b hb heq => ?_⟩
      obtain ⟨each, heach, rfl⟩ := List.mem_map.mp ha
      exact hnew each heach (heq.trans (List.mem_singleton.mp hb))
    · intro each heach
      rcases List.mem_append.mp heach with heach | heach
      · exact Nat.lt_succ_of_lt (h.made each heach)
      · rw [List.mem_singleton.mp heach]
        exact Nat.lt_succ_self s.made

lemma Made.settledAs_number (number : ℕ) (outcome : Outcome) (made : Made) :
    (made.settledAs number outcome).number = made.number := by
  unfold Made.settledAs
  split <;> rfl

lemma Made.settledAs_of_ne {outcome : Outcome} {made : Made} (h : made.number ≠ number) :
    made.settledAs number outcome = made := if_neg h

lemma exists_made {found : PendingWrite} (h : Queued grid s queue ended left)
    (hfound : queue.pending.find? (fun each => each.number = number && !each.settled) = some found) :
    ∃ made ∈ left, made.number = number ∧ made.write = found.write := by
  have hmem := List.mem_of_find?_eq_some hfound
  have htest := List.find?_some hfound
  rw [h.pending] at hmem
  obtain ⟨made, hmade, rfl⟩ := List.mem_map.mp hmem
  simp only [Bool.and_eq_true, decide_eq_true_eq] at htest
  exact ⟨made, hmade, htest.1, rfl⟩

/-- **The queue after a request ended** is the history after it. -/
lemma Queued.settle {made : Made} (h : Queued grid s queue ended left) (outcome : Outcome)
    (hnumbers : (s.history.map Made.number).Nodup) (hmade : made ∈ left) (hnumber : made.number = number)
    (cleanUps : List ℕ) : ∃ ended' left', Queued grid
      { s.noteOutcome number outcome with cleanUps := cleanUps }
      (queue.settled number (Made.effect grid ⟨number, made.write, some outcome⟩)) ended' left' := by
  rw [h.history, List.map_append] at hnumbers
  obtain ⟨-, hleft, hapart⟩ := List.nodup_append.mp hnumbers
  -- the earlier writes are others, and the other writes under way have other numbers
  have hended : ended.map (Made.settledAs number outcome) = ended := by
    refine (List.map_congr_left fun each heach => ?_).trans (List.map_id ended)
    refine Made.settledAs_of_ne fun heq => ?_
    exact hapart _ (List.mem_map_of_mem heach) _ (List.mem_map_of_mem hmade) (heq.trans hnumber.symm)
  have hpending : (queue.pending.map fun each =>
      if each.number = number then
        { each with apply := Made.effect grid ⟨number, made.write, some outcome⟩, settled := true }
      else each) = (left.map (Made.settledAs number outcome)).map (Made.pending grid) := by
    rw [h.pending, List.map_map, List.map_map]
    refine List.map_congr_left fun each heach => ?_
    by_cases heq : each.number = number
    · obtain rfl : each = made :=
        List.inj_on_of_nodup_map hleft heach hmade (heq.trans hnumber.symm)
      subst heq
      simp [Made.pending, Made.settledAs, Made.effect]
    · simp [Made.pending, Made.settledAs, heq]
  obtain ⟨ended', left', hsplit, hended', hfirst, hconsume⟩ :=
    consume_map grid queue.confirmed (left.map (Made.settledAs number outcome))
  refine ⟨ended ++ ended', left', ?_, fun each heach => ?_, hfirst, ?_, ?_⟩
  · show s.history.map (Made.settledAs number outcome) = _
    rw [h.history, List.map_append, hended, hsplit, List.append_assoc]
  · rcases List.mem_append.mp heach with heach | heach
    · exact h.settled each heach
    · exact hended' each heach
  · unfold WriteQueue.settled
    rw [hpending, hconsume]
  · unfold WriteQueue.settled
    rw [hpending, hconsume]
    show queue.confirmed.map (replay grid ended') = s.base.map (replay grid (ended ++ ended'))
    rw [h.confirmed, Option.map_map]
    congr 1
    funext doc
    rw [replay_append]
    rfl

lemma afterCallback_publish (s : GridSite) (queue : WriteQueue) (number : ℕ) (raised : Bool) :
    (s.publish queue).afterCallback number raised = (s.afterCallback number raised).publish queue := by
  unfold GridSite.afterCallback GridSite.publish
  cases raised <;> cases queue.confirmed <;> rfl

lemma publish_made (s : GridSite) (queue : WriteQueue) :
    { s.publish queue with made := s.made } = s.publish queue := by
  unfold GridSite.publish
  cases queue.confirmed <;> rfl

/-- **A request ends**, in whatever order. -/
lemma Sound.ends {outcome : Outcome} {raised : Bool} (h : Sound grid s)
    (hsafe : CallbackSafe s (.ends number outcome raised))
    (hends : s.ends grid number outcome raised = some s') : Sound grid s' := by
  obtain ⟨queue, hopen, hends⟩ := Option.bind_eq_some_iff.mp hends
  obtain ⟨found, hfound, rfl⟩ := Option.map_eq_some_iff.mp hends
  obtain ⟨ended, left, hold⟩ := h.queued queue hopen
  obtain ⟨made, hmade, hnumber, hwrite⟩ := exists_made hold hfound
  obtain ⟨ended', left', hqueued⟩ := hold.settle outcome h.numbers hmade hnumber
    (s.afterCallback queue.number raised).cleanUps
  rw [← hwrite]
  have hstate : (s.noteOutcome number outcome).afterCallback queue.number raised =
      { s.noteOutcome number outcome with cleanUps := (s.afterCallback queue.number raised).cleanUps } := by
    unfold GridSite.afterCallback
    cases raised <;> rfl
  have hall := hqueued.allSettled_iff
  unfold GridSite.settle
  rw [afterCallback_publish, hstate, ← publish_made]
  refine sound_publish hqueued h.empty ?_ ?_ fun hnil => ?_
  · show ((s.history.map (Made.settledAs number outcome)).map Made.number).Nodup
    rw [List.map_map]
    convert h.numbers using 2
    funext each
    exact each.settledAs_number number outcome
  · intro each heach
    obtain ⟨before, hbefore, rfl⟩ := List.mem_map.mp heach
    rw [Made.settledAs_number]
    exact h.made before hbefore
  · cases raised with
    | false => exact List.mem_cons_self
    | true =>
        rcases hsafe rfl with ⟨other, hother, hne, hnone⟩ | ⟨due, hdue, hmem⟩
        · -- another write is still under way
          have hsome := hall.mpr hnil other (List.mem_map.mpr ⟨other, hother, Made.settledAs_of_ne hne⟩)
          rw [← Option.not_isSome, hsome] at hnone
          cases hnone
        · obtain rfl : queue = due := Option.some.inj (hopen.symm.trans hdue)
          exact hmem

/-- **The clean-up** drops the queue only once nothing is pending. -/
lemma Sound.cleanUp (h : Sound grid s) (number : ℕ) : Sound grid (s.cleanUp number) := by
  refine ⟨h.numbers, h.made, h.shows, fun hnone => ?_, fun queue hqueue => ?_, fun queue hqueue hnil => ?_⟩
  · rcases hopen : s.queue with _ | queue
    · exact h.idle hopen
    · obtain ⟨ended, left, hqueued⟩ := h.queued queue hopen
      refine hqueued.allSettled_iff.mpr ?_
      have hgone : s.queue.filter _ = none := hnone
      rw [hopen, Option.filter_some, ite_eq_right_iff] at hgone
      by_contra hne
      have hkept : queue.pending.isEmpty = false := by
        rw [← Bool.not_eq_true, List.isEmpty_iff]
        exact hne
      exact nomatch hgone (by rw [hkept, Bool.and_false, Bool.not_false])
  · obtain ⟨hopen, -⟩ := Option.filter_eq_some_iff.mp hqueue
    obtain ⟨ended, left, hqueued⟩ := h.queued queue hopen
    exact ⟨ended, left, hqueued.history, hqueued.settled, hqueued.first, hqueued.pending,
      hqueued.confirmed⟩
  · obtain ⟨hopen, hkept⟩ := Option.filter_eq_some_iff.mp hqueue
    refine (List.mem_erase_of_ne ?_).mpr (h.due queue hopen hnil)
    rintro rfl
    simp [hnil] at hkept

/-- **A refetch** finds no queue. -/
lemma Sound.refetched (h : Sound grid s) (hidle : s.canRefetch) (hdone : s.cleanUps = []) (doc : Members) :
    Sound grid { s with cache := some doc, base := some doc, history := [] } := by
  have hgone : s.queue = none := by
    rcases hopen : s.queue with _ | queue
    · rfl
    · unfold GridSite.canRefetch at hidle
      rw [hopen] at hidle
      have hdue := h.due queue hopen (List.isEmpty_iff.mp hidle)
      rw [hdone] at hdue
      exact absurd hdue List.not_mem_nil
  refine ⟨List.nodup_nil, fun _ hnil => absurd hnil List.not_mem_nil, rfl,
    fun _ _ hnil => absurd hnil List.not_mem_nil, fun queue hqueue => ?_, fun queue hqueue => ?_⟩
  all_goals
    rw [Option.mem_def] at hqueue
    exact absurd (hgone.symm.trans hqueue) (Option.some_ne_none queue).symm

/-- **A step** keeps what holds, where a callback that raises is not the last. -/
lemma Sound.step (s : GridSite) (act : GridAct) (s' : GridSite) (h : Sound grid s)
    (hsafe : CallbackSafe s act) (hstep : optimisticRows grid s act = some s') : Sound grid s' := by
  cases act with
  | write write => exact Option.some.inj hstep ▸ h.run write
  | ends number outcome raised => exact h.ends hsafe hstep
  | cleanUp queue =>
      unfold optimisticRows at hstep
      dsimp only at hstep
      split at hstep
      · exact Option.some.inj hstep ▸ h.cleanUp queue
      · cases hstep
  | refetched doc =>
      unfold optimisticRows at hstep
      dsimp only at hstep
      split at hstep
      next hidle => exact Option.some.inj hstep ▸ h.refetched hidle.1 hidle.2 doc
      next => cases hstep

lemma sound_opened (doc : Option Members) : Sound grid (.opened doc) := by
  refine ⟨List.nodup_nil, fun _ hnil => absurd hnil List.not_mem_nil, ?_,
    fun _ _ hnil => absurd hnil List.not_mem_nil, fun _ hnone => (nomatch hnone), fun _ hnone => (nomatch hnone)⟩
  cases doc <;> rfl

/-! ## What the user sees -/

lemma replay_filter_failed (writes : List Made) (doc : Members) :
    replay grid (writes.filter fun made => !made.failed) doc = replay grid writes doc := by
  unfold replay
  rw [List.foldl_filter]
  congr 1
  funext doc made
  unfold Made.effect Made.failed
  rcases made.outcome with _ | _ | echo <;> rfl

lemma patch_shows (rowId : String) (values doc : Members) {row : Members}
    (hrow : row ∈ grid.rows (grid.patch rowId values doc)) (hid : hasId rowId row)
    {name : String} {value : Json} (hvalue : values.get? name = some value) :
    row.get? name = some value := by
  unfold Grid.patch Grid.mapRows at hrow
  rw [grid.rows_withRows] at hrow
  obtain ⟨before, -, hbefore⟩ := List.mem_map.mp hrow
  split at hbefore
  next =>
    rw [← hbefore, get?_spread, hvalue]
    rfl
  next hother =>
    rw [hbefore] at hother
    exact absurd hid hother

end Steps

/-- A cost set with one line. -/
private def oneLine (desc : String) : Members :=
  [("cost_lines", .array [.object [("id", .string "l1"), ("desc", .string desc)]])]

/-- Two edits of one line, the first answered after the user made the second, and an append that fails. -/
private def busyRun : List GridAct :=
  [.write (.patchRow "l1" [("desc", .string "Weld")]), .write (.patchRow "l1" [("desc", .string "Cut")]),
    .ends 0 (.answered [("desc", .string "WELD")]) false, .write .appendRow, .cleanUp 0, .ends 2 .failed true]

/-- The callback of an edit raises, the server's figures come, and the next edit starts from the document
before them. -/
private def raisingRun : List GridAct :=
  [.write (.deleteRow "l2"), .ends 0 (.answered []) true, .refetched (oneLine "Weld"),
    .write (.patchRow "l1" [("quantity", .number 2)])]

end Docketworks.Frontend
