import Mathlib.Data.List.Induction
import Docketworks.Xero.SyncRuns

/-!
# What the mirror can show

A run without any condition: pages that slip, records passed over, webhooks that write late, runs that
look back or are aborted.  The mirror may fall behind, but it invents nothing: a row shows a version
Xero held at some instant of the run, dated as Xero dated it, and Xero still has the record, at that
version or a newer one.

* `HeldAt` — a version Xero held after a part of the schedule.
* `Shows` — where everything the sync has in hand comes from.
-/

namespace Docketworks.Xero

open Library

/-- Xero held the version after some first part of the schedule. -/
def HeldAt (config : EntityConfig) (as : List SyncAction) (v : XeroRecord) : Prop :=
  ∃ before, before <+: as ∧ ∃ s, (syncSystem config).run .fresh before = some s ∧ v ∈ s.xero.rows

/-- What the sync has in hand after a schedule: versions Xero held. -/
structure Shows (config : EntityConfig) (as : List SyncAction) (s : SyncState) : Prop where
  mirror : ∀ row ∈ s.mirror.rows, HeldAt config as row.record ∧
    row.xeroLastModified = row.record.updatedDateUtc
  pending : ∀ run, s.run = some run → ∀ v ∈ run.pending, HeldAt config as v
  webhooks : ∀ v ∈ s.webhooks, HeldAt config as v
  stamped : ∀ c ∈ s.xero.rows, c.updatedDateUtc ≤ s.now
  /-- Xero still has every record it held, and none at an older version. -/
  past : ∀ v, HeldAt config as v → Past s.xero v

section Steps

variable {config : EntityConfig} {as : List SyncAction} {a : SyncAction} {s s' : SyncState}
  {v : XeroRecord}

lemma HeldAt.concat (h : HeldAt config as v) : HeldAt config (as ++ [a]) v := by
  obtain ⟨before, hbefore, hheld⟩ := h
  exact ⟨before, hbefore.trans (List.prefix_append _ _), hheld⟩

lemma heldAt_of_mem (hrun : (syncSystem config).run .fresh as = some s) (hv : v ∈ s.xero.rows) :
    HeldAt config as v :=
  ⟨as, List.prefix_rfl, s, hrun, hv⟩

lemma heldAt_concat (hrun : (syncSystem config).run .fresh (as ++ [a]) = some s')
    (h : HeldAt config (as ++ [a]) v) : HeldAt config as v ∨ v ∈ s'.xero.rows := by
  obtain ⟨before, hbefore, s, hs, hv⟩ := h
  rcases List.prefix_concat_iff.mp hbefore with rfl | hprefix
  · obtain rfl : s = s' := Option.some.inj (hs.symm.trans hrun)
    exact .inr hv
  · exact .inl ⟨before, hprefix, s, hs, hv⟩

lemma Shows.same_xero (h : Shows config as s) (hrun : (syncSystem config).run .fresh (as ++ [a]) = some s')
    (hxero : s'.xero = s.xero) (hnow : s.now ≤ s'.now)
    (hmirror : ∀ row ∈ s'.mirror.rows, row ∈ s.mirror.rows ∨
      HeldAt config as row.record ∧ row.xeroLastModified = row.record.updatedDateUtc)
    (hpending : ∀ run, s'.run = some run → ∀ v ∈ run.pending, HeldAt config as v)
    (hwebhooks : ∀ v ∈ s'.webhooks, HeldAt config as v) : Shows config (as ++ [a]) s' where
  mirror row hrow := by
    rcases hmirror row hrow with hold | ⟨hheld, hstamp⟩
    · exact ⟨(h.mirror row hold).1.concat, (h.mirror row hold).2⟩
    · exact ⟨hheld.concat, hstamp⟩
  pending run hr v hv := (hpending run hr v hv).concat
  webhooks v hv := (hwebhooks v hv).concat
  stamped c hc := (h.stamped c (hxero ▸ hc)).trans hnow
  past v hv := by
    rw [hxero]
    rcases heldAt_concat hrun hv with hold | hnew
    · exact h.past v hold
    · exact past_of_mem (hxero ▸ hnew)

lemma Shows.moved {xero : Table XeroRecord.id} (h : Shows config as s)
    (hrun : (syncSystem config).run .fresh (as ++ [a]) = some { s with xero })
    (hmoved : Moved s.now s.xero xero) : Shows config (as ++ [a]) { s with xero } where
  mirror row hrow := ⟨(h.mirror row hrow).1.concat, (h.mirror row hrow).2⟩
  pending run hr v hv := (h.pending run hr v hv).concat
  webhooks v hv := (h.webhooks v hv).concat
  stamped c hc := by
    rcases hmoved.new c hc with hold | hnow
    · exact h.stamped c hold
    · exact hnow.le
  past v hv := by
    rcases heldAt_concat hrun hv with hold | hnew
    · exact (h.past v hold).moved hmoved
    · exact past_of_mem hnew

/-- **Every step** takes what it writes from what Xero held. -/
lemma shows_step (hbefore : (syncSystem config).run .fresh as = some s) (h : Shows config as s)
    (hstep : syncSystem config s a = some s') : Shows config (as ++ [a]) s' := by
  have hrun : (syncSystem config).run .fresh (as ++ [a]) = some s' :=
    Machine.run_append_eq_some.mpr ⟨s, hbefore, Machine.run_cons_eq_some.mpr ⟨s', hstep, rfl⟩⟩
  have hkept : ∀ row ∈ s.mirror.rows, row ∈ s.mirror.rows ∨
      HeldAt config as row.record ∧ row.xeroLastModified = row.record.updatedDateUtc := fun _ => .inl
  have hupsert : ∀ {u : XeroRecord}, HeldAt config as u → ∀ row ∈ (s.mirror.upsert (rowOf u)).rows,
      row ∈ s.mirror.rows ∨
        HeldAt config as row.record ∧ row.xeroLastModified = row.record.updatedDateUtc := by
    intro u hu row hrow
    rcases mem_upsert hrow with rfl | hold
    · exact .inr ⟨hu, rfl⟩
    · exact .inl hold
  cases a with
  | tick ms =>
      obtain rfl := Option.some.inj hstep
      exact h.same_xero hrun rfl (Nat.le_add_right _ _) hkept h.pending h.webhooks
  | create id payload =>
      obtain ⟨xero, hxero, rfl⟩ := create_eq_some hstep
      exact h.moved hrun (moved_insert hxero)
  | edit id payload deleted =>
      obtain ⟨record, hfind, hlt, rfl⟩ := edit_eq_some hstep
      exact h.moved hrun (@moved_put _ _ ⟨id, s.now, deleted, payload⟩ hfind hlt)
  | start back =>
      obtain ⟨-, rfl⟩ := start_eq_some hstep
      refine h.same_xero hrun rfl le_rfl hkept (fun run hr v hv => ?_) h.webhooks
      obtain rfl := Option.some.inj hr
      exact absurd hv List.not_mem_nil
  | fetch listing =>
      obtain ⟨run, -, -, -, hlists, rfl⟩ := fetch_eq_some hstep
      refine h.same_xero hrun rfl le_rfl hkept (fun r hr v hv => ?_) h.webhooks
      obtain rfl := Option.some.inj hr
      exact heldAt_of_mem hbefore (mem_pageOf hlists hv).1
  | persist stored =>
      obtain ⟨run, record, pending, hr, hpending, rfl⟩ := persist_eq_some hstep
      have hheld := h.pending run hr
      rw [hpending] at hheld
      refine h.same_xero hrun rfl le_rfl (fun row hrow => ?_) (fun r hr' v hv => ?_) h.webhooks
      · dsimp only [persist] at hrow
        split at hrow
        · exact hupsert (hheld record List.mem_cons_self) row hrow
        · exact .inl hrow
      · obtain rfl := Option.some.inj hr'
        exact hheld v (List.mem_cons_of_mem _ hv)
  | finish =>
      obtain ⟨run, -, -, -, rfl⟩ := finish_eq_some hstep
      exact h.same_xero hrun rfl le_rfl hkept (fun _ hr => by cases hr) h.webhooks
  | abort =>
      obtain rfl := abort_eq_some hstep
      exact h.same_xero hrun rfl le_rfl hkept (fun _ hr => by cases hr) h.webhooks
  | receive id =>
      obtain ⟨record, hfind, rfl⟩ := receive_eq_some hstep
      refine h.same_xero hrun rfl le_rfl hkept h.pending fun v hv => ?_
      rcases List.mem_append.mp hv with hold | hnew
      · exact h.webhooks v hold
      · rw [List.mem_singleton.mp hnew]
        exact heldAt_of_mem hbefore (Table.mem_of_find? hfind)
  | deliver i =>
      obtain ⟨record, hrecord, rfl⟩ := deliver_eq_some hstep
      exact h.same_xero hrun rfl le_rfl (hupsert (h.webhooks record (List.mem_of_getElem? hrecord)))
        h.pending fun v hv => h.webhooks v (List.mem_of_mem_eraseIdx hv)

lemma shows_run (hrun : (syncSystem config).run .fresh as = some s) : Shows config as s := by
  induction as using List.reverseRecOn generalizing s with
  | nil =>
      obtain rfl := Option.some.inj hrun
      refine ⟨fun _ hrow => absurd hrow List.not_mem_nil, fun _ hr => absurd hr.symm (Option.some_ne_none _),
        fun _ hv => absurd hv List.not_mem_nil, fun _ hc => absurd hc List.not_mem_nil, fun v hv => ?_⟩
      obtain ⟨before, hbefore, start, hstart, hheld⟩ := hv
      obtain rfl := List.prefix_nil.mp hbefore
      obtain rfl := Option.some.inj hstart
      cases hheld
  | append_singleton as a ih =>
      obtain ⟨before, hbefore, hlast⟩ := Machine.run_append_eq_some.mp hrun
      obtain ⟨after, hstep, hnil⟩ := Machine.run_cons_eq_some.mp hlast
      obtain rfl := Option.some.inj hnil
      exact shows_step hbefore (ih hbefore) hstep

end Steps

end Docketworks.Xero
