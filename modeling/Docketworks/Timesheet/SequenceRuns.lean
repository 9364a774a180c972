import Docketworks.Timesheet.EntrySequence

/-!
# No number is given twice

The next number of a person's day is read before the line is written.  The lock of the day is held from the
reading to the end of the transaction, and the lock of the line's job from the reading of the line on.

* `saveMonitor` — what a transaction may rely on, and the writes this allows.
* `task_obeys` — every entry write keeps to it.
* `Sound` — what one transaction relies on holds whatever the others do.
* `sequence_numbers_distinct` — so committed lines have distinct numbers, and no write meets a taken one.
-/

namespace Docketworks.Timesheet.EntrySequence

open Library

/-- No two lines of a person's day have one number. -/
def DistinctSeqs (lines : Table TimeLine.id) : Prop :=
  ∀ line ∈ lines.rows, ∀ other ∈ lines.rows, line.slot = other.slot → line = other

instance (lines : Table TimeLine.id) : Decidable (DistinctSeqs lines) :=
  inferInstanceAs (Decidable (∀ line ∈ lines.rows, _))

/-- It was not the uniqueness rule that refused it. -/
def NotUnique {α : Type} : Except SaveError α → Prop
  | .ok _ => True
  | .error e => e ≠ .unique

/-! ## What a transaction relies on -/

/-- What a transaction holds, a key of its own, a row that stays as it read it, and a number that stays free. -/
structure Knowledge where
  locks : List Lock
  own : Option ℕ
  stored : Option TimeLine
  free : Option (ℕ × ℕ × ℤ × ℕ)

namespace Knowledge

/-- Nobody else writes the row of this key. -/
def MayWrite (m : Knowledge) (id : ℕ) : Prop := m.own = some id ∨ ∃ row, m.stored = some row ∧ row.id = id

/-- The line has the number it had, or the free one. -/
def MayHave (m : Knowledge) (line : TimeLine) : Prop :=
  (∃ row, m.stored = some row ∧ row.id = line.id ∧ row.slot = line.slot) ∨ m.free = some (line.id, line.slot)

/-- What an answer may be. -/
def Expects (m : Knowledge) : (call : DbCall) → call.Answer → Prop
  | .get id, found | .getForUpdate id, found =>
      (∀ row, found = some row → row.id = id) ∧ ∀ row, m.stored = some row → row.id = id → found = some row
  | .slotTaken _, taken => taken = false
  | _, _ => True

/-- A row that was read under the lock of its job. -/
def read (m : Knowledge) : Option TimeLine → Knowledge
  | none => m
  | some row => if .job row.job ∈ m.locks then { m with stored := some row } else m

/-- What is known after an answer. -/
def after (m : Knowledge) : (call : DbCall) → call.Answer → Knowledge
  | .lock lock, _ => { m with locks := lock :: m.locks }
  | .get _, found | .getForUpdate _, found => m.read found
  | .newId, id => { m with own := some id }
  | .maxSeq staff day excluded, previousMax =>
      if .sequenceGroup staff day ∈ m.locks then
        { m with free := some (excluded, staff, day, previousMax.getD 0 + 1) }
      else m
  | .slotTaken _, _ => m
  | .write line, _ => { m with own := none, stored := some line, free := none }
  | .delete _, _ => { m with own := none, stored := none, free := none }

end Knowledge

/-- A line is written where nobody else writes it, under a number that stays free. -/
def saveMonitor : Monitor DbCall DbCall.Answer SaveError Knowledge where
  allows m call :=
    match call with
    | .slotTaken line => m.MayHave line
    | .write line => m.MayWrite line.id ∧ m.MayHave line
    | .delete id => ∃ row, m.stored = some row ∧ row.id = id
    | _ => True
  expects m call answer := ∃ a, answer = .ok a ∧ m.Expects call a
  after m call answer :=
    match answer with
    | .ok a => m.after call a
    | .error _ => m

/-- A later state of knowledge about the row of a key. -/
structure Knowledge.Keeps (m : Knowledge) (id : ℕ) (m' : Knowledge) : Prop where
  own : m'.own = m.own
  stored : ∀ row, m.stored = some row → row.id = id → m'.stored = some row
  locks : ∀ lock ∈ m.locks, lock ∈ m'.locks

section Programs

variable {m m' m'' : Knowledge} {id job : ℕ} {line : MemoryLine} {row : TimeLine}

lemma Knowledge.Keeps.refl : m.Keeps id m := ⟨rfl, fun _ h _ => h, fun _ h => h⟩

lemma Knowledge.Keeps.trans (h : m.Keeps id m') (h' : m'.Keeps id m'') : m.Keeps id m'' where
  own := h'.own.trans h.own
  stored row hrow hid := h'.stored row (h.stored row hrow hid) hid
  locks lock hlock := h'.locks lock (h.locks lock hlock)

@[simp] lemma locks_read (found : Option TimeLine) : (m.read found).locks = m.locks := by
  cases found with
  | none => rfl
  | some row =>
      unfold Knowledge.read
      dsimp only
      split <;> rfl

lemma keeps_read {found : Option TimeLine}
    (hfound : ∀ row, m.stored = some row → row.id = id → found = some row) : m.Keeps id (m.read found) := by
  refine ⟨?_, fun row hrow hid => ?_, fun lock hlock => by rwa [locks_read]⟩
  · cases found with
    | none => rfl
    | some row =>
        unfold Knowledge.read
        dsimp only
        split <;> rfl
  · obtain rfl := hfound row hrow hid
    unfold Knowledge.read
    dsimp only
    split
    · rfl
    · exact hrow

lemma stored_read (h : .job row.job ∈ m.locks) : (m.read (some row)).stored = some row := by
  unfold Knowledge.read
  dsimp only
  rw [if_pos h]

structure Knowledge.Reads (m : Knowledge) (id : ℕ) (m' : Knowledge) (found : Option TimeLine) : Prop where
  keeps : m.Keeps id m'
  under : ∀ row, found = some row → row.id = id
  same : ∀ row, m.stored = some row → row.id = id → found = some row
  stored : ∀ row, found = some row → .job row.job ∈ m.locks → m'.stored = some row

lemma get_obeys : Obeys saveMonitor m (SaveTask.get id)
    fun m' result => ∃ found, result = .ok found ∧ m.Reads id m' found := by
  refine Obeys.perform trivial ?_
  rintro _ ⟨found, rfl, hid, hsame⟩
  refine ⟨found, rfl, keeps_read hsame, hid, hsame, ?_⟩
  rintro row rfl hlock
  exact stored_read hlock

lemma getForUpdate_obeys : Obeys saveMonitor m (SaveTask.getForUpdate id)
    fun m' result => ∃ found, result = .ok found ∧ m.Reads id m' found := by
  refine Obeys.perform trivial ?_
  rintro _ ⟨found, rfl, hid, hsame⟩
  refine ⟨found, rfl, keeps_read hsame, hid, hsame, ?_⟩
  rintro row rfl hlock
  exact stored_read hlock

lemma lock_obeys {lock : Lock} : Obeys saveMonitor m (SaveTask.lock lock)
    fun m' result => result = .ok () ∧ m' = { m with locks := lock :: m.locks } := by
  refine Obeys.perform trivial ?_
  rintro _ ⟨_, rfl, -⟩
  exact ⟨rfl, rfl⟩

lemma lockCostingJobs_obeys {jobIds : List ℕ} : Obeys saveMonitor m (lockCostingJobs jobIds)
    fun m' result => result = .ok () ∧ (∀ id, m.Keeps id m') ∧ ∀ job ∈ jobIds, .job job ∈ m'.locks := by
  have hall : ∀ (ids : List ℕ) (m : Knowledge), Obeys saveMonitor m
      (ids.foldr (fun id rest => do SaveTask.lock (.job id); rest) (pure ()) : SaveTask Unit)
      fun m' result => result = .ok () ∧ (∀ id, m.Keeps id m') ∧ ∀ job ∈ ids, .job job ∈ m'.locks := by
    intro ids
    induction ids with
    | nil => exact fun m => Obeys.done ⟨rfl, fun _ => .refl, fun _ h => nomatch h⟩
    | cons first ids ih =>
        intro m
        refine lock_obeys.bind ?_ fun _ _ h => nomatch h.1
        rintro _ _ ⟨-, rfl⟩
        refine (ih _).imp ?_
        rintro m' result ⟨hresult, hkeeps, hheld⟩
        have hfirst : ∀ id, m.Keeps id { m with locks := .job first :: m.locks } :=
          fun _ => ⟨rfl, fun _ h _ => h, fun _ h => List.mem_cons_of_mem _ h⟩
        refine ⟨hresult, fun id => (hfirst id).trans (hkeeps id), fun job hjob => ?_⟩
        rcases List.mem_cons.mp hjob with rfl | hjob
        · exact (hkeeps 0).locks _ List.mem_cons_self
        · exact hheld job hjob
  refine (hall _ m).imp ?_
  rintro m' result ⟨hresult, hkeeps, hheld⟩
  refine ⟨hresult, hkeeps, fun job hjob => hheld job ?_⟩
  rw [List.mem_insertionSort, List.mem_dedup]
  exact hjob

/-- **The row is locked**: it stays as it was read last. -/
lemma lockSummaryOwners_obeys : Obeys saveMonitor m (CostLine.lockSummaryOwners id job)
    fun m' result => m.Keeps id m' ∧ NotUnique result ∧
      ∀ row, result = .ok (some row) → row.id = id ∧ m'.stored = some row := by
  unfold CostLine.lockSummaryOwners
  refine get_obeys.bind ?_ fun _ _ ⟨_, h, _⟩ => nomatch h
  rintro m₁ observed ⟨found, hfound, hread⟩
  obtain rfl := Except.ok.inj hfound
  refine lockCostingJobs_obeys.bind ?_ fun _ _ h => nomatch h.1
  rintro m₂ _ ⟨-, hkeeps, hheld⟩
  refine get_obeys.bind ?_ fun _ _ ⟨_, h, _⟩ => nomatch h
  rintro m₃ current ⟨found, hfound, hreread⟩
  obtain rfl := Except.ok.inj hfound
  have hall : m.Keeps id m₃ := (hread.keeps.trans (hkeeps id)).trans hreread.keeps
  split
  · exact Obeys.done ⟨hall, nofun, nofun⟩
  · rename_i hjob
    refine Obeys.done ⟨hall, trivial, fun row hrow => ?_⟩
    obtain rfl := Except.ok.inj hrow
    have hlock : .job row.job ∈ m₂.locks := by
      refine hheld _ ?_
      by_contra hnot
      exact hjob (by simpa using hnot)
    exact ⟨hreread.under row rfl, hreread.stored row rfl hlock⟩

lemma sequenceGroupChanged_obeys (hadding : line.adding = false) (hstored : m.stored = some row)
    (hid : row.id = line.id) : Obeys saveMonitor m (CostLine.sequenceGroupChanged line)
      fun m' result => m.Keeps line.id m' ∧ NotUnique result ∧
        (result = .ok false → row.staff = line.staff ∧ row.accountingDate = line.accountingDate) := by
  unfold CostLine.sequenceGroupChanged
  rw [if_neg (by simp [hadding])]
  refine get_obeys.bind ?_ fun _ _ ⟨_, h, _⟩ => nomatch h
  rintro m' previous ⟨found, hfound, hread⟩
  obtain rfl := Except.ok.inj hfound
  obtain rfl := hread.same row hstored hid
  refine Obeys.done ⟨hread.keeps, trivial, fun hsame => ?_⟩
  simpa using Except.ok.inj hsame

/-- What a line in memory has to be saved with: a new key, or the number it was read with. -/
inductive Loaded (m : Knowledge) (line : MemoryLine) : Prop
  | new (adding : line.adding = true) (own : m.own = some line.id) (entrySeq : line.entrySeq = none)
  | stored (row : TimeLine) (adding : line.adding = false) (stored : m.stored = some row)
      (id : row.id = line.id) (entrySeq : line.entrySeq = some row.entrySeq)

lemma Loaded.keeps (h : Loaded m line) (hkeeps : m.Keeps line.id m') : Loaded m' line := by
  cases h with
  | new hadding hown hseq => exact .new hadding (hkeeps.own.trans hown) hseq
  | stored row hadding hstored hid hseq => exact .stored row hadding (hkeeps.stored row hstored hid) hid hseq

def MemoryLine.asRow (line : MemoryLine) (entrySeq : ℕ) : TimeLine where
  id := line.id
  staff := line.staff
  accountingDate := line.accountingDate
  job := line.job
  entrySeq := entrySeq

/-- The line may be written under the number it has. -/
def Numbered (m : Knowledge) (line : MemoryLine) : Prop :=
  m.MayWrite line.id ∧ ∀ entrySeq, line.entrySeq = some entrySeq → m.MayHave (line.asRow entrySeq)

lemma nextSeq_obeys (hmay : m.MayWrite line.id) : Obeys saveMonitor m (do
      SaveTask.lock (.sequenceGroup line.staff line.accountingDate)
      let previousMax ← SaveTask.maxSeq line.staff line.accountingDate line.id
      return { line with entrySeq := some (previousMax.getD 0 + 1) })
    fun m' result => NotUnique result ∧ ∀ line', result = .ok line' → Numbered m' line' := by
  refine lock_obeys.bind ?_ fun _ _ h => nomatch h.1
  rintro _ _ ⟨-, rfl⟩
  refine Obeys.bind (Q := fun m' result => ∃ previousMax : Option ℕ, result = .ok previousMax ∧
    m'.MayWrite line.id ∧
      m'.free = some (line.id, line.staff, line.accountingDate, previousMax.getD 0 + 1)) ?_ ?_ ?_
  · refine Obeys.perform trivial ?_
    rintro _ ⟨previousMax, rfl, -⟩
    refine ⟨previousMax, rfl, ?_⟩
    simp only [saveMonitor, Knowledge.after, List.mem_cons_self, if_true, and_true]
    exact hmay
  · rintro m' previousMax ⟨answered, hanswered, hmay', hfree⟩
    obtain rfl := Except.ok.inj hanswered
    refine Obeys.done ⟨trivial, fun line' hline' => ?_⟩
    obtain rfl := Except.ok.inj hline'
    refine ⟨hmay', fun entrySeq hseq => .inr ?_⟩
    obtain rfl := Option.some.inj hseq
    exact hfree
  · exact fun _ _ ⟨_, h, _⟩ => nomatch h

/-- **The number.** -/
lemma assignEntrySeq_obeys (h : Loaded m line) : Obeys saveMonitor m (CostLine.assignEntrySeq line)
    fun m' result => NotUnique result ∧ ∀ line', result = .ok line' → Numbered m' line' := by
  unfold CostLine.assignEntrySeq
  cases h with
  | new hadding hown hseq =>
      rw [hseq]
      exact nextSeq_obeys (.inl hown)
  | stored row hadding hstored hid hseq =>
      rw [hseq]
      refine (sequenceGroupChanged_obeys hadding hstored hid).bind ?_ fun _ _ h => ⟨h.2.1, nofun⟩
      · rintro m' changed ⟨hkeeps, -, hsame⟩
        have hkept : m'.stored = some row := hkeeps.stored row hstored hid
        cases changed with
        | true => exact nextSeq_obeys (.inr ⟨row, hkept, hid⟩)
        | false =>
            refine Obeys.done ⟨trivial, fun line' hline' => ?_⟩
            obtain rfl := Except.ok.inj hline'
            refine ⟨.inr ⟨row, hkept, hid⟩, fun entrySeq hentry => .inl ⟨row, hkept, hid, ?_⟩⟩
            obtain ⟨hstaff, hday⟩ := hsame rfl
            obtain rfl := Option.some.inj (hseq.symm.trans hentry)
            simp only [TimeLine.slot, MemoryLine.asRow, hstaff, hday]

lemma saveValidated_obeys (h : Numbered m line) : Obeys saveMonitor m (CostLine.saveValidated line)
    fun _ result => NotUnique result := by
  unfold CostLine.saveValidated
  split
  · exact Obeys.done nofun
  · rename_i entrySeq hseq
    have hmay := h.2 entrySeq hseq
    refine Obeys.bind (Q := fun m' result => m' = m ∧ result = .ok false) ?_ ?_ fun _ _ h => nomatch h.2
    · refine Obeys.perform hmay ?_
      rintro _ ⟨taken, rfl, htaken⟩
      exact ⟨rfl, congrArg Except.ok htaken⟩
    · rintro _ taken ⟨rfl, htaken⟩
      obtain rfl := Except.ok.inj htaken
      refine Obeys.perform ⟨h.1, hmay⟩ ?_
      rintro _ ⟨_, rfl, -⟩
      trivial

/-- **Saving keeps to it.** -/
lemma save_obeys (h : Loaded m line) : Obeys saveMonitor m (CostLine.save line)
    fun _ result => NotUnique result := by
  unfold CostLine.save
  refine lockSummaryOwners_obeys.bind ?_ fun _ _ h => h.2.1
  rintro m₁ _ ⟨hkeeps, -⟩
  refine (assignEntrySeq_obeys (h.keeps hkeeps)).bind ?_ fun _ _ h => h.1
  rintro m₂ line' ⟨-, hnumbered⟩
  exact saveValidated_obeys (hnumbered line' rfl)

lemma delete_obeys {row : TimeLine} : Obeys saveMonitor m (CostLine.delete row)
    fun _ result => NotUnique result := by
  unfold CostLine.delete
  refine lockSummaryOwners_obeys.bind ?_ fun _ _ h => h.2.1
  rintro m' current ⟨-, -, hcurrent⟩
  cases current with
  | none => exact Obeys.done trivial
  | some current =>
      refine Obeys.perform ⟨current, (hcurrent current rfl).2, rfl⟩ ?_
      rintro _ ⟨_, rfl, -⟩
      trivial

lemma getLine_obeys : Obeys saveMonitor m (getLine id)
    fun m' result => NotUnique result ∧ ∀ row, result = .ok row → m.Reads id m' (some row) := by
  unfold getLine
  refine get_obeys.bind ?_ fun _ _ ⟨_, h, _⟩ => nomatch h
  rintro m' found ⟨answered, hanswered, hread⟩
  obtain rfl := Except.ok.inj hanswered
  cases found with
  | none => exact Obeys.done ⟨nofun, nofun⟩
  | some row =>
      refine Obeys.done ⟨trivial, fun row' hrow' => ?_⟩
      obtain rfl := Except.ok.inj hrow'
      exact hread

/-- **Every entry write keeps to it.** -/
lemma task_obeys {generalWork : Option ℕ} {operation : Operation} :
    Obeys saveMonitor m (operation.task generalWork) fun _ result => NotUnique result := by
  cases operation with
  | createEntry owner day job =>
      refine lock_obeys.bind ?_ fun _ _ h => nomatch h.1
      rintro m₁ _ -
      refine lockCostingJobs_obeys.bind ?_ fun _ _ h => nomatch h.1
      rintro m₂ _ -
      refine Obeys.bind (Q := fun m' result => ∃ id, result = .ok id ∧ m'.own = some id) ?_ ?_ ?_
      · refine Obeys.perform trivial ?_
        rintro _ ⟨id, rfl, -⟩
        exact ⟨id, rfl, rfl⟩
      · rintro m₃ id ⟨drawn, hdrawn, hown⟩
        obtain rfl := Except.ok.inj hdrawn
        exact save_obeys (.new rfl hown rfl)
      · exact fun _ _ ⟨_, h, _⟩ => nomatch h
  | updateEntry id edit =>
      refine getLine_obeys.bind ?_ fun _ _ h => h.1
      rintro m₁ line -
      refine lock_obeys.bind ?_ fun _ _ h => nomatch h.1
      rintro m₂ _ -
      refine lockCostingJobs_obeys.bind ?_ fun _ _ h => nomatch h.1
      rintro m₃ _ ⟨-, -, hheld⟩
      refine getLine_obeys.bind ?_ fun _ _ h => h.1
      rintro m₄ current ⟨-, hread⟩
      split
      · exact Obeys.done nofun
      · rename_i hjob
        have hread := hread current rfl
        have hlock : .job current.job ∈ m₃.locks :=
          hheld _ (List.mem_append_left _ (not_not.mp hjob))
        exact save_obeys (.stored current rfl (hread.stored current rfl hlock) rfl rfl)
  | deleteEntry id =>
      refine getLine_obeys.bind ?_ fun _ _ h => h.1
      rintro m₁ line -
      refine lock_obeys.bind ?_ fun _ _ h => nomatch h.1
      rintro m₂ _ -
      refine lockCostingJobs_obeys.bind ?_ fun _ _ h => nomatch h.1
      rintro m₃ _ -
      refine getForUpdate_obeys.bind ?_ fun _ _ ⟨_, h, _⟩ => nomatch h
      rintro m₄ current -
      cases current with
      | none => exact Obeys.done nofun
      | some current =>
          dsimp only
          split
          · exact Obeys.done nofun
          · exact delete_obeys
  | deleteLine id =>
      refine getLine_obeys.bind ?_ fun _ _ h => h.1
      exact fun _ _ _ => delete_obeys

end Programs

/-! ## What holds whatever the others do -/

/-- The transaction wrote the row of this key. -/
def Session.Wrote (x : Session) (id : ℕ) : Prop := (written TimeLine.id x.writes id).isSome = true

structure Apart (x y : Session) : Prop where
  locks : ∀ lock ∈ x.locks, lock ∉ y.locks
  drawn : ∀ id ∈ x.drawn, id ∉ y.drawn
  writes : ∀ id, x.Wrote id → ¬y.Wrote id

/-- A transaction writes new rows and rows whose job it locked, under numbers they had or numbers of a day it
locked, and no two lines it reads have one number. -/
structure Guarded (committed : Table TimeLine.id) (nextId : ℕ) (x : Session) : Prop where
  drawn : ∀ id ∈ x.drawn, id < nextId ∧ committed.find? id = none
  rows : ∀ id, x.Wrote id →
    id ∈ x.drawn ∨ ∃ old, committed.find? id = some old ∧ .job old.job ∈ x.locks
  numbers : ∀ row, written TimeLine.id x.writes row.id = some (some row) →
    .sequenceGroup row.staff row.accountingDate ∈ x.locks ∨
      ∃ old, committed.find? row.id = some old ∧ old.slot = row.slot
  distinct : DistinctSeqs (committed.overlay x.writes)

/-- What the transaction knows is so. -/
structure Knows (committed : Table TimeLine.id) (x : Session) (m : Knowledge) : Prop where
  locks : m.locks = x.locks
  own : ∀ id, m.own = some id → id ∈ x.drawn ∧ ¬x.Wrote id
  stored : ∀ row, m.stored = some row →
    (committed.overlay x.writes).find? row.id = some row ∧ (x.Wrote row.id ∨ .job row.job ∈ x.locks)
  free : ∀ id staff day entrySeq, m.free = some (id, staff, day, entrySeq) →
    .sequenceGroup staff day ∈ x.locks ∧
      ∀ row ∈ (committed.overlay x.writes).rows, row.id ≠ id → row.slot ≠ (staff, day, entrySeq)

/-- What it knows is enough for what it does next. -/
def Proceeds (committed : Table TimeLine.id) (x : Session) : Prop :=
  ∃ m, Knows committed x m ∧ Obeys saveMonitor m x.task fun _ result => NotUnique result

/-- **What one transaction relies on holds whatever the others do.** -/
structure Sound (s : Database) : Prop where
  below : ∀ row ∈ s.committed.rows, row.id < s.nextId
  distinct : DistinctSeqs s.committed
  apart : ∀ x ∈ s.sessions.rows, ∀ y ∈ s.sessions.rows, x.number ≠ y.number → Apart x y
  guarded : ∀ x ∈ s.sessions.rows, Guarded s.committed s.nextId x
  proceeds : ∀ x ∈ s.sessions.rows, Proceeds s.committed x

section Reading

variable {committed : Table TimeLine.id} {nextId : ℕ} {x : Session} {m : Knowledge} {id : ℕ}
  {row line : TimeLine}

lemma Apart.symm {y : Session} (h : Apart x y) : Apart y x where
  locks lock hy hx := h.locks lock hx hy
  drawn id hy hx := h.drawn id hx hy
  writes id hy hx := h.writes id hx hy

lemma find?_overlay_of_not_wrote (h : ¬x.Wrote id) :
    (committed.overlay x.writes).find? id = committed.find? id := by
  unfold Session.Wrote at h
  rw [Table.find?_overlay, Option.not_isSome_iff_eq_none.mp h]
  rfl

lemma find?_overlay_of_wrote (h : x.Wrote id) : ∃ left, written TimeLine.id x.writes id = some left ∧
    ∀ committed : Table TimeLine.id, (committed.overlay x.writes).find? id = left := by
  obtain ⟨left, hleft⟩ := Option.isSome_iff_exists.mp h
  refine ⟨left, hleft, fun committed => ?_⟩
  rw [Table.find?_overlay, hleft]
  rfl

lemma written_or_committed (h : (committed.overlay x.writes).find? row.id = some row) :
    written TimeLine.id x.writes row.id = some (some row) ∨
      ¬x.Wrote row.id ∧ committed.find? row.id = some row := by
  by_cases hwrote : x.Wrote row.id
  · obtain ⟨left, hleft, hread⟩ := find?_overlay_of_wrote hwrote
    exact .inl (hleft.trans (congrArg some ((hread committed).symm.trans h)))
  · exact .inr ⟨hwrote, (find?_overlay_of_not_wrote hwrote).symm.trans h⟩

lemma slot_ne_of_mayHave (hx : Guarded committed nextId x) (hm : Knows committed x m) (h : m.MayHave line)
    (hrow : row ∈ (committed.overlay x.writes).rows) (hid : row.id ≠ line.id) : row.slot ≠ line.slot := by
  rcases h with ⟨old, hstored, hold, hslot⟩ | hfree
  · intro hsame
    have hmem := Table.mem_of_find? (hm.stored old hstored).1
    obtain rfl := hx.distinct row hrow old hmem (hsame.trans hslot.symm)
    exact hid hold
  · exact (hm.free _ _ _ _ hfree).2 row hrow hid

lemma rows_of_mayWrite (hx : Guarded committed nextId x) (hm : Knows committed x m) (h : m.MayWrite id) :
    id ∈ x.drawn ∨ ∃ old, committed.find? id = some old ∧ .job old.job ∈ x.locks := by
  rcases h with hown | ⟨row, hstored, rfl⟩
  · exact .inl (hm.own id hown).1
  · obtain ⟨hread, hwrote | hlock⟩ := hm.stored row hstored
    · exact hx.rows row.id hwrote
    · rcases written_or_committed hread with hwritten | ⟨-, hcommitted⟩
      · exact hx.rows row.id (by unfold Session.Wrote; rw [hwritten]; rfl)
      · exact .inr ⟨row, hcommitted, hlock⟩

lemma numbers_of_mayHave (hx : Guarded committed nextId x) (hm : Knows committed x m) (h : m.MayHave line) :
    .sequenceGroup line.staff line.accountingDate ∈ x.locks ∨
      ∃ old, committed.find? line.id = some old ∧ old.slot = line.slot := by
  rcases h with ⟨row, hstored, hid, hslot⟩ | hfree
  · rcases written_or_committed (hm.stored row hstored).1 with hwritten | ⟨-, hcommitted⟩
    · rcases hx.numbers row hwritten with hlock | ⟨old, hold, hsame⟩
      · obtain ⟨hstaff, hday, -⟩ : row.staff = line.staff ∧ row.accountingDate = line.accountingDate ∧
            row.entrySeq = line.entrySeq := by simpa [TimeLine.slot] using hslot
        exact .inl (hstaff ▸ hday ▸ hlock)
      · exact .inr ⟨old, hid ▸ hold, hsame.trans hslot⟩
    · exact .inr ⟨row, hid ▸ hcommitted, hslot⟩
  · exact .inl (hm.free _ _ _ _ hfree).1

end Reading

/-! ## One statement -/

/-- What a statement leaves, of a transaction that knew `m`. -/
structure Answered (s : Database) (x : Session) (m : Knowledge) (call : DbCall) (a : call.Answer) (x' : Session)
    (nextId : ℕ) : Prop where
  expected : m.Expects call a
  number : x'.number = x.number
  grows : s.nextId ≤ nextId
  apart : ∀ y ∈ s.sessions.rows, y.number ≠ x.number → Apart x' y
  guarded : Guarded s.committed nextId x'
  knows : Knows s.committed x' (m.after call a)

section Statements

variable {s : Database} {x : Session} {m : Knowledge} {id : ℕ} {line : TimeLine} {lock : Lock}

lemma Guarded.nextId_le {committed : Table TimeLine.id} {nextId nextId' : ℕ}
    (h : Guarded committed nextId x) (hle : nextId ≤ nextId') : Guarded committed nextId' x :=
  ⟨fun id hid => ⟨(h.drawn id hid).1.trans_le hle, (h.drawn id hid).2⟩, h.rows, h.numbers, h.distinct⟩

lemma mem_others {y : Session} : y ∈ s.others x ↔ y ∈ s.sessions.rows ∧ y.number ≠ x.number := by
  simp [Database.others]

lemma not_mem_locks_of_not_lockHeld (h : ¬s.lockHeld x lock = true) {y : Session}
    (hy : y ∈ s.sessions.rows) (hne : y.number ≠ x.number) : lock ∉ y.locks := by
  intro hlock
  exact h (List.any_eq_true.mpr ⟨y, mem_others.mpr ⟨hy, hne⟩, by simpa using hlock⟩)

lemma not_wrote_of_not_rowHeld (h : ¬s.rowHeld x id = true) {y : Session}
    (hy : y ∈ s.sessions.rows) (hne : y.number ≠ x.number) : ¬y.Wrote id := fun hwrote =>
  h (List.any_eq_true.mpr ⟨y, mem_others.mpr ⟨hy, hne⟩, hwrote⟩)

lemma answered_lock (hs : Sound s) (hx : x ∈ s.sessions.rows) (hm : Knows s.committed x m)
    (hfree : ¬s.lockHeld x lock = true) :
    Answered s x m (.lock lock) () { x with locks := lock :: x.locks } s.nextId := by
  have hguarded := hs.guarded x hx
  refine ⟨trivial, rfl, le_refl _, fun y hy hne => ?_, ⟨hguarded.drawn, fun id hwrote => ?_,
    fun row hwritten => ?_, hguarded.distinct⟩, ?_⟩
  · obtain ⟨hlocks, hdrawn, hwrites⟩ := hs.apart x hx y hy hne.symm
    refine ⟨fun held hheld => ?_, hdrawn, hwrites⟩
    rcases List.mem_cons.mp hheld with rfl | hheld
    · exact not_mem_locks_of_not_lockHeld hfree hy hne
    · exact hlocks held hheld
  · refine (hguarded.rows id hwrote).imp_right ?_
    rintro ⟨old, hold, hlock⟩
    exact ⟨old, hold, List.mem_cons_of_mem _ hlock⟩
  · exact (hguarded.numbers row hwritten).imp_left (List.mem_cons_of_mem _)
  · refine ⟨congrArg (lock :: ·) hm.locks, hm.own, fun row hrow => ?_, fun id staff day entrySeq hfree => ?_⟩
    · exact ⟨(hm.stored row hrow).1, (hm.stored row hrow).2.imp_right (List.mem_cons_of_mem _)⟩
    · exact ⟨List.mem_cons_of_mem _ (hm.free id staff day entrySeq hfree).1,
        (hm.free id staff day entrySeq hfree).2⟩

lemma knows_read (hm : Knows s.committed x m) :
    Knows s.committed x (m.read ((s.view x).find? id)) := by
  cases hfound : (s.view x).find? id with
  | none => exact hm
  | some row =>
      unfold Knowledge.read
      dsimp only
      split
      · rename_i hlock
        refine ⟨hm.locks, hm.own, fun read hread => ?_, hm.free⟩
        obtain rfl := Option.some.inj hread
        have hid : row.id = id := Table.key_of_find? hfound
        exact ⟨hid ▸ hfound, .inr (hm.locks ▸ hlock)⟩
      · exact hm

lemma expects_get (hm : Knows s.committed x m) : m.Expects (.get id) ((s.view x).find? id) := by
  refine ⟨fun row hrow => Table.key_of_find? hrow, fun row hrow hid => ?_⟩
  rw [← hid]
  exact (hm.stored row hrow).1

lemma answered_get (hs : Sound s) (hx : x ∈ s.sessions.rows) (hm : Knows s.committed x m) :
    Answered s x m (.get id) ((s.view x).find? id) x s.nextId :=
  ⟨expects_get hm, rfl, le_refl _, fun y hy hne => hs.apart x hx y hy hne.symm, hs.guarded x hx,
    knows_read hm⟩

lemma answered_getForUpdate (hs : Sound s) (hx : x ∈ s.sessions.rows) (hm : Knows s.committed x m) :
    Answered s x m (.getForUpdate id) ((s.view x).find? id) x s.nextId :=
  ⟨expects_get hm, rfl, le_refl _, fun y hy hne => hs.apart x hx y hy hne.symm, hs.guarded x hx,
    knows_read hm⟩

lemma answered_newId (hs : Sound s) (hx : x ∈ s.sessions.rows) (hm : Knows s.committed x m) :
    Answered s x m .newId s.nextId { x with drawn := s.nextId :: x.drawn } (s.nextId + 1) := by
  have hguarded := hs.guarded x hx
  have hnone : s.committed.find? s.nextId = none :=
    Table.find?_eq_none_iff.mpr fun row hrow => (hs.below row hrow).ne
  have hfresh : ∀ y ∈ s.sessions.rows, s.nextId ∉ y.drawn := fun y hy hdrawn =>
    absurd ((hs.guarded y hy).drawn _ hdrawn).1 (lt_irrefl _)
  refine ⟨trivial, rfl, Nat.le_succ _, fun y hy hne => ?_, ⟨fun id hid => ?_, fun id hwrote => ?_,
    hguarded.numbers, hguarded.distinct⟩, ?_⟩
  · obtain ⟨hlocks, hdrawn, hwrites⟩ := hs.apart x hx y hy hne.symm
    refine ⟨hlocks, fun id hid => ?_, hwrites⟩
    rcases List.mem_cons.mp hid with rfl | hid
    · exact hfresh y hy
    · exact hdrawn id hid
  · rcases List.mem_cons.mp hid with rfl | hid
    · exact ⟨Nat.lt_succ_self _, hnone⟩
    · exact ⟨(hguarded.drawn id hid).1.trans (Nat.lt_succ_self _), (hguarded.drawn id hid).2⟩
  · exact (hguarded.rows id hwrote).imp_left (List.mem_cons_of_mem _)
  · refine ⟨hm.locks, fun id hid => ?_, hm.stored, hm.free⟩
    obtain rfl := Option.some.inj hid
    refine ⟨List.mem_cons_self, fun hwrote => ?_⟩
    rcases hguarded.rows _ hwrote with hdrawn | ⟨old, hold, -⟩
    · exact hfresh x hx hdrawn
    · rw [hnone] at hold
      cases hold

lemma ne_of_mem_daySeqs {staff : ℕ} {day : ℤ} {row : TimeLine} (hrow : row ∈ (s.view x).rows)
    (hid : row.id ≠ id) :
    row.slot ≠ (staff, day, (s.daySeqs x staff day id).max?.getD 0 + 1) := by
  intro hslot
  obtain ⟨rfl, rfl, hseq⟩ : row.staff = staff ∧ row.accountingDate = day ∧
      row.entrySeq = (s.daySeqs x staff day id).max?.getD 0 + 1 := by simpa [TimeLine.slot] using hslot
  have hmem : row.entrySeq ∈ s.daySeqs x row.staff row.accountingDate id :=
    List.mem_map_of_mem (List.mem_filter.mpr ⟨hrow, by simp [hid]⟩)
  cases hmax : (s.daySeqs x row.staff row.accountingDate id).max? with
  | none =>
      rw [List.max?_eq_none_iff.mp hmax] at hmem
      cases hmem
  | some greatest =>
      have hle := (List.max?_le_iff hmax).mp (le_refl _) _ hmem
      rw [hmax, Option.getD_some] at hseq
      omega

lemma answered_maxSeq (hs : Sound s) (hx : x ∈ s.sessions.rows) (hm : Knows s.committed x m)
    {staff : ℕ} {day : ℤ} :
    Answered s x m (.maxSeq staff day id) (s.daySeqs x staff day id).max? x s.nextId := by
  refine ⟨trivial, rfl, le_refl _, fun y hy hne => hs.apart x hx y hy hne.symm, hs.guarded x hx, ?_⟩
  simp only [Knowledge.after]
  split
  · rename_i hlock
    refine ⟨hm.locks, hm.own, hm.stored, fun under staff' day' entrySeq hfree => ?_⟩
    obtain ⟨rfl, rfl, rfl, rfl⟩ : id = under ∧ staff = staff' ∧ day = day' ∧
        (s.daySeqs x staff day id).max?.getD 0 + 1 = entrySeq := by simpa using hfree
    exact ⟨hm.locks ▸ hlock, fun row hrow hid => ne_of_mem_daySeqs hrow hid⟩
  · exact hm

lemma not_conflicting (hs : Sound s) (hx : x ∈ s.sessions.rows) (hm : Knows s.committed x m)
    (h : m.MayHave line) : s.conflicting x line = false := by
  refine List.any_eq_false.mpr fun row hrow => ?_
  simp only [Bool.and_eq_true, decide_eq_true_eq, not_and]
  exact slot_ne_of_mayHave (hs.guarded x hx) hm h hrow

lemma answered_slotTaken (hs : Sound s) (hx : x ∈ s.sessions.rows) (hm : Knows s.committed x m)
    (h : m.MayHave line) : Answered s x m (.slotTaken line) (s.conflicting x line) x s.nextId :=
  ⟨not_conflicting hs hx hm h, rfl, le_refl _, fun y hy hne => hs.apart x hx y hy hne.symm,
    hs.guarded x hx, hm⟩

lemma wrote_append {w : Write TimeLine ℕ} :
    Session.Wrote { x with writes := x.writes ++ [w] } id ↔
      (w.leaves TimeLine.id id).isSome = true ∨ x.Wrote id := by
  unfold Session.Wrote
  rw [written_append_singleton, Option.isSome_or, Bool.or_eq_true]

lemma answered_write (hs : Sound s) (hx : x ∈ s.sessions.rows) (hm : Knows s.committed x m)
    (hwrite : m.MayWrite line.id) (hhave : m.MayHave line) (hheld : ¬s.rowHeld x line.id = true) :
    Answered s x m (.write line) () { x with writes := x.writes ++ [.put line] } s.nextId := by
  have hguarded := hs.guarded x hx
  have hrows := rows_of_mayWrite hguarded hm hwrite
  have hnumbers := numbers_of_mayHave hguarded hm hhave
  have hput : ∀ id, (Write.leaves TimeLine.id id (.put line)).isSome = true → id = line.id := by
    intro id hleaves
    by_contra hne
    rw [Write.leaves, if_neg fun heq => hne heq.symm] at hleaves
    cases hleaves
  have hview : s.committed.overlay (x.writes ++ [.put line]) = (s.committed.overlay x.writes).upsert line :=
    Table.overlay_append_singleton
  refine ⟨trivial, rfl, le_refl _, fun y hy hne => ?_, ⟨hguarded.drawn, fun id hwrote => ?_,
    fun row hwritten => ?_, ?_⟩, ?_⟩
  · obtain ⟨hlocks, hdrawn, hwrites⟩ := hs.apart x hx y hy hne.symm
    refine ⟨hlocks, hdrawn, fun id hwrote => ?_⟩
    rcases wrote_append.mp hwrote with hleaves | hwrote
    · rw [hput id hleaves]
      exact not_wrote_of_not_rowHeld hheld hy hne
    · exact hwrites id hwrote
  · rcases wrote_append.mp hwrote with hleaves | hwrote
    · rw [hput id hleaves]
      exact hrows
    · exact hguarded.rows id hwrote
  · rw [written_append_singleton, Write.leaves] at hwritten
    by_cases hid : line.id = row.id
    · rw [if_pos hid] at hwritten
      obtain rfl := Option.some.inj (Option.some.inj hwritten)
      exact hnumbers
    · rw [if_neg hid] at hwritten
      exact hguarded.numbers row hwritten
  · show DistinctSeqs (s.committed.overlay (x.writes ++ [.put line]))
    rw [hview]
    intro row hmem other hmem' hslot
    obtain rfl | ⟨hrow, hid⟩ := Table.mem_upsert.mp hmem <;>
      obtain rfl | ⟨hother, hid'⟩ := Table.mem_upsert.mp hmem'
    · rfl
    · exact absurd hslot.symm (slot_ne_of_mayHave hguarded hm hhave hother hid')
    · exact absurd hslot (slot_ne_of_mayHave hguarded hm hhave hrow hid)
    · exact hguarded.distinct row hrow other hother hslot
  · refine ⟨hm.locks, by rintro _ ⟨⟩, fun row hrow => ?_, by rintro _ _ _ _ ⟨⟩⟩
    obtain rfl := Option.some.inj hrow
    refine ⟨?_, .inl (wrote_append.mpr (.inl ?_))⟩
    · show (s.committed.overlay (x.writes ++ [.put line])).find? line.id = some line
      rw [hview]
      exact Table.find?_upsert_self
    · rw [Write.leaves, if_pos rfl]
      rfl

lemma answered_delete (hs : Sound s) (hx : x ∈ s.sessions.rows) (hm : Knows s.committed x m)
    (hwrite : m.MayWrite id) (hheld : ¬s.rowHeld x id = true) :
    Answered s x m (.delete id) () { x with writes := x.writes ++ [.erase id] } s.nextId := by
  have hguarded := hs.guarded x hx
  have hrows := rows_of_mayWrite hguarded hm hwrite
  have herase : ∀ id', (Write.leaves TimeLine.id id' (.erase id)).isSome = true → id' = id := by
    intro id' hleaves
    by_contra hne
    rw [Write.leaves, if_neg fun heq => hne heq.symm] at hleaves
    cases hleaves
  refine ⟨trivial, rfl, le_refl _, fun y hy hne => ?_, ⟨hguarded.drawn, fun id' hwrote => ?_,
    fun row hwritten => ?_, ?_⟩,
    ⟨hm.locks, by rintro _ ⟨⟩, by rintro _ ⟨⟩, by rintro _ _ _ _ ⟨⟩⟩⟩
  · obtain ⟨hlocks, hdrawn, hwrites⟩ := hs.apart x hx y hy hne.symm
    refine ⟨hlocks, hdrawn, fun id' hwrote => ?_⟩
    rcases wrote_append.mp hwrote with hleaves | hwrote
    · rw [herase id' hleaves]
      exact not_wrote_of_not_rowHeld hheld hy hne
    · exact hwrites id' hwrote
  · rcases wrote_append.mp hwrote with hleaves | hwrote
    · rw [herase id' hleaves]
      exact hrows
    · exact hguarded.rows id' hwrote
  · rw [written_append_singleton, Write.leaves] at hwritten
    by_cases hid : id = row.id
    · rw [if_pos hid] at hwritten
      cases Option.some.inj hwritten
    · rw [if_neg hid] at hwritten
      exact hguarded.numbers row hwritten
  · show DistinctSeqs (s.committed.overlay (x.writes ++ [.erase id]))
    rw [Table.overlay_append_singleton]
    intro row hrow other hother
    exact hguarded.distinct row (Table.mem_erase.mp hrow).1 other (Table.mem_erase.mp hother).1

/-- **One statement.**  An allowed one is not refused, and leaves what is expected. -/
lemma answered_of_answer (hs : Sound s) (hx : x ∈ s.sessions.rows) (hm : Knows s.committed x m)
    {call : DbCall} (hallowed : saveMonitor.allows m call) {answer : Except SaveError call.Answer}
    {x' : Session} {nextId : ℕ} (h : s.answer x call = some (answer, x', nextId)) :
    ∃ a, answer = .ok a ∧ Answered s x m call a x' nextId := by
  cases call with
  | lock lock =>
      simp only [Database.answer] at h
      split at h
      · cases h
      · rename_i hfree
        obtain ⟨rfl, rfl, rfl⟩ : _ ∧ _ ∧ _ := by simpa using h
        exact ⟨(), rfl, answered_lock hs hx hm hfree⟩
  | get id =>
      obtain ⟨rfl, rfl, rfl⟩ : _ ∧ _ ∧ _ := by simpa [Database.answer] using h
      exact ⟨_, rfl, answered_get hs hx hm⟩
  | getForUpdate id =>
      simp only [Database.answer] at h
      split at h
      · cases h
      · obtain ⟨rfl, rfl, rfl⟩ : _ ∧ _ ∧ _ := by simpa using h
        exact ⟨_, rfl, answered_getForUpdate hs hx hm⟩
  | newId =>
      obtain ⟨rfl, rfl, rfl⟩ : _ ∧ _ ∧ _ := by simpa [Database.answer] using h
      exact ⟨_, rfl, answered_newId hs hx hm⟩
  | maxSeq staff day excluded =>
      obtain ⟨rfl, rfl, rfl⟩ : _ ∧ _ ∧ _ := by simpa [Database.answer] using h
      exact ⟨_, rfl, answered_maxSeq hs hx hm⟩
  | slotTaken line =>
      obtain ⟨rfl, rfl, rfl⟩ : _ ∧ _ ∧ _ := by simpa [Database.answer] using h
      exact ⟨_, rfl, answered_slotTaken hs hx hm hallowed⟩
  | write line =>
      simp only [Database.answer] at h
      split at h
      · cases h
      · rename_i hheld
        rw [not_conflicting hs hx hm hallowed.2, if_neg Bool.false_ne_true] at h
        split at h
        · cases h
        · obtain ⟨rfl, rfl, rfl⟩ : _ ∧ _ ∧ _ := by simpa using h
          exact ⟨(), rfl, answered_write hs hx hm hallowed.1 hallowed.2 hheld⟩
  | delete id =>
      simp only [Database.answer] at h
      split at h
      · cases h
      · rename_i hheld
        obtain ⟨rfl, rfl, rfl⟩ : _ ∧ _ ∧ _ := by simpa using h
        exact ⟨(), rfl, answered_delete hs hx hm (.inr hallowed) hheld⟩

end Statements

/-! ## A commit beside it -/

section Commit

variable {s : Database} {x y : Session} {m : Knowledge} {id : ℕ} {row other : TimeLine}

lemma find?_view_of_wrote (hs : Sound s) (hx : x ∈ s.sessions.rows) (hy : y ∈ s.sessions.rows)
    (hne : x.number ≠ y.number) (hwrote : y.Wrote id) : (s.view x).find? id = s.committed.find? id :=
  find?_overlay_of_not_wrote fun hwrote' => (hs.apart x hx y hy hne).writes id hwrote' hwrote

lemma not_wrote_of_drawn (hs : Sound s) (hx : x ∈ s.sessions.rows) (hy : y ∈ s.sessions.rows)
    (hne : x.number ≠ y.number) (hdrawn : id ∈ y.drawn) : ¬x.Wrote id := by
  intro hwrote
  rcases (hs.guarded x hx).rows id hwrote with hdrawn' | ⟨old, hold, -⟩
  · exact (hs.apart x hx y hy hne).drawn id hdrawn' hdrawn
  · rw [((hs.guarded y hy).drawn id hdrawn).2] at hold
    cases hold

/-- A row of the lines read after the commit has the number of one read before it, or of a day the committing
transaction locked. -/
lemma exists_before_commit (hs : Sound s) (hx : x ∈ s.sessions.rows)
    (h : row ∈ ((s.view x).overlay y.writes).rows) :
    (∃ old ∈ (s.committed.overlay y.writes).rows, old.id = row.id ∧ old.slot = row.slot) ∨
      .sequenceGroup row.staff row.accountingDate ∈ x.locks := by
  have hold : ∀ old, s.committed.find? row.id = some old → ¬y.Wrote row.id →
      old ∈ (s.committed.overlay y.writes).rows := fun old hfound hnot =>
    Table.mem_of_find? ((find?_overlay_of_not_wrote hnot).trans hfound)
  have hfound := Table.find?_of_mem h
  by_cases hwrote : y.Wrote row.id
  · obtain ⟨left, -, hread⟩ := find?_overlay_of_wrote hwrote
    have hbefore : (s.committed.overlay y.writes).find? row.id = some row := by
      rw [hread s.committed, ← hread (s.view x)]
      exact hfound
    exact .inl ⟨row, Table.mem_of_find? hbefore, rfl, rfl⟩
  · rw [find?_overlay_of_not_wrote hwrote] at hfound
    rcases written_or_committed hfound with hwritten | ⟨-, hcommitted⟩
    · rcases (hs.guarded x hx).numbers row hwritten with hlock | ⟨old, hcommitted, hslot⟩
      · exact .inr hlock
      · exact .inl ⟨old, hold old hcommitted hwrote, Table.key_of_find? hcommitted, hslot⟩
    · exact .inl ⟨row, hold row hcommitted hwrote, rfl, rfl⟩

/-- **Two writers of a day.**  A line the one wrote and a line the other commits have different numbers. -/
lemma id_eq_of_slot_eq (hs : Sound s) (hx : x ∈ s.sessions.rows) (hy : y ∈ s.sessions.rows)
    (hne : x.number ≠ y.number) (hrow : row ∈ ((s.view x).overlay y.writes).rows) (hwrote : y.Wrote row.id)
    (hother : other ∈ ((s.view x).overlay y.writes).rows) (hnot : ¬y.Wrote other.id)
    (hslot : row.slot = other.slot) : row.id = other.id := by
  obtain ⟨left, hwritten, hread⟩ := find?_overlay_of_wrote hwrote
  have hleft : left = some row := (hread (s.view x)).symm.trans (Table.find?_of_mem hrow)
  rw [hleft] at hwritten hread
  have hbefore : row ∈ (s.committed.overlay y.writes).rows := Table.mem_of_find? (hread s.committed)
  rcases exists_before_commit hs hx hother with ⟨old, hold, hid, hsame⟩ | hlock
  · rw [(hs.guarded y hy).distinct row hbefore old hold (hslot.trans hsame.symm)]
    exact hid
  · rcases (hs.guarded y hy).numbers row hwritten with hlock' | ⟨old, hcommitted, hsame⟩
    · obtain ⟨hstaff, hday, -⟩ : row.staff = other.staff ∧ row.accountingDate = other.accountingDate ∧
          row.entrySeq = other.entrySeq := by simpa [TimeLine.slot] using hslot
      rw [hstaff, hday] at hlock'
      exact absurd hlock' ((hs.apart x hx y hy hne).locks _ hlock)
    · have hmem : old ∈ (s.view x).rows :=
        Table.mem_of_find? ((find?_view_of_wrote hs hx hy hne hwrote).trans hcommitted)
      have hmem' : other ∈ (s.view x).rows := by
        have hfound := Table.find?_of_mem hother
        rw [find?_overlay_of_not_wrote hnot] at hfound
        exact Table.mem_of_find? hfound
      rw [← (hs.guarded x hx).distinct old hmem other hmem' (hsame.trans hslot)]
      exact (Table.key_of_find? hcommitted).symm

lemma guarded_of_commit (hs : Sound s) (hx : x ∈ s.sessions.rows) (hy : y ∈ s.sessions.rows)
    (hne : x.number ≠ y.number) : Guarded (s.view x) s.nextId y := by
  have hguarded := hs.guarded y hy
  refine ⟨fun id hid => ?_, fun id hwrote => ?_, fun row hwritten => ?_, fun row hrow other hother hslot => ?_⟩
  · obtain ⟨hlt, hnone⟩ := hguarded.drawn id hid
    exact ⟨hlt, (find?_overlay_of_not_wrote (not_wrote_of_drawn hs hx hy hne hid)).trans hnone⟩
  · rw [find?_view_of_wrote hs hx hy hne hwrote]
    exact hguarded.rows id hwrote
  · have hwrote : y.Wrote row.id := by
      unfold Session.Wrote
      rw [hwritten]
      rfl
    rw [find?_view_of_wrote hs hx hy hne hwrote]
    exact hguarded.numbers row hwritten
  · -- a row is one that was written, or one that is committed now
    have hread : ∀ row ∈ ((s.view x).overlay y.writes).rows,
        (y.Wrote row.id ∧ row ∈ (s.committed.overlay y.writes).rows) ∨
          (¬y.Wrote row.id ∧ row ∈ (s.view x).rows) := by
      intro row hrow
      have hfound := Table.find?_of_mem hrow
      by_cases hwrote : y.Wrote row.id
      · obtain ⟨left, -, hread⟩ := find?_overlay_of_wrote hwrote
        rw [hread (s.view x), ← hread s.committed] at hfound
        exact .inl ⟨hwrote, Table.mem_of_find? hfound⟩
      · rw [find?_overlay_of_not_wrote hwrote] at hfound
        exact .inr ⟨hwrote, Table.mem_of_find? hfound⟩
    rcases hread row hrow with ⟨hwrote, hmem⟩ | ⟨hnot, hmem⟩ <;>
      rcases hread other hother with ⟨hwrote', hmem'⟩ | ⟨hnot', hmem'⟩
    · exact hguarded.distinct row hmem other hmem' hslot
    · exact Table.eq_of_key_eq hrow hother (id_eq_of_slot_eq hs hx hy hne hrow hwrote hother hnot' hslot)
    · have hid := id_eq_of_slot_eq hs hx hy hne hother hwrote' hrow hnot hslot.symm
      exact Table.eq_of_key_eq hrow hother hid.symm
    · exact (hs.guarded x hx).distinct row hmem other hmem' hslot

lemma knows_of_commit (hs : Sound s) (hx : x ∈ s.sessions.rows) (hy : y ∈ s.sessions.rows)
    (hne : x.number ≠ y.number) (hm : Knows s.committed y m) : Knows (s.view x) y m := by
  refine ⟨hm.locks, hm.own, fun row hrow => ?_, fun id staff day entrySeq hfree => ?_⟩
  · obtain ⟨hread, hheld⟩ := hm.stored row hrow
    refine ⟨?_, hheld⟩
    by_cases hwrote : y.Wrote row.id
    · obtain ⟨left, -, hleft⟩ := find?_overlay_of_wrote hwrote
      rw [hleft (s.view x), ← hleft s.committed]
      exact hread
    · -- nobody else writes the row: its job is locked
      rw [find?_overlay_of_not_wrote hwrote] at hread ⊢
      refine (find?_overlay_of_not_wrote fun hwrote' => ?_).trans hread
      rcases (hs.guarded x hx).rows row.id hwrote' with hdrawn | ⟨old, hold, hlock⟩
      · rw [((hs.guarded x hx).drawn _ hdrawn).2] at hread
        cases hread
      · obtain rfl := Option.some.inj (hold.symm.trans hread)
        exact (hs.apart x hx y hy hne).locks _ hlock (hheld.resolve_left hwrote)
  · obtain ⟨hlock, hother⟩ := hm.free id staff day entrySeq hfree
    refine ⟨hlock, fun row hrow hid hslot => ?_⟩
    rcases exists_before_commit hs hx hrow with ⟨old, hold, hkey, hsame⟩ | hlock'
    · exact hother old hold (hkey ▸ hid) (hsame.trans hslot)
    · obtain ⟨hstaff, hday, -⟩ : row.staff = staff ∧ row.accountingDate = day ∧ row.entrySeq = entrySeq := by
        simpa [TimeLine.slot] using hslot
      rw [hstaff, hday] at hlock'
      exact (hs.apart x hx y hy hne).locks _ hlock' hlock

end Commit

/-! ## Runs -/

section Runs

variable {generalWork : Option ℕ} {s s' : Database} {x : Session}

lemma Sound.put (hs : Sound s) {x' : Session} {nextId : ℕ}
    (hnumber : x'.number = x.number) (hgrows : s.nextId ≤ nextId)
    (hapart : ∀ y ∈ s.sessions.rows, y.number ≠ x.number → Apart x' y)
    (hguarded : Guarded s.committed nextId x') (hproceeds : Proceeds s.committed x') :
    Sound { s with nextId, sessions := s.sessions.put x' } := by
  have hrows : ∀ y ∈ (s.sessions.put x').rows, y = x' ∨ y ∈ s.sessions.rows ∧ y.number ≠ x.number := by
    intro y hy
    obtain ⟨hy, hne⟩ | ⟨rfl, -⟩ := Table.mem_put.mp hy
    · exact .inr ⟨hy, hnumber ▸ hne⟩
    · exact .inl rfl
  refine ⟨fun row hrow => (hs.below row hrow).trans_le hgrows, hs.distinct, fun y hy z hz hne => ?_,
    fun y hy => ?_, fun y hy => ?_⟩
  · rcases hrows y hy with rfl | ⟨hmem, hother⟩ <;> rcases hrows z hz with rfl | ⟨hmem', hother'⟩
    · exact absurd rfl hne
    · exact hapart z hmem' hother'
    · exact (hapart y hmem hother).symm
    · exact hs.apart y hmem z hmem' hne
  · rcases hrows y hy with rfl | ⟨hy, -⟩
    · exact hguarded
    · exact (hs.guarded y hy).nextId_le hgrows
  · rcases hrows y hy with rfl | ⟨hy, -⟩
    · exact hproceeds
    · exact hs.proceeds y hy

lemma Sound.begin {number : ℕ} {sessions : Table Session.number} (hs : Sound s)
    (h : s.sessions.insert? ⟨number, [], [], [], pure ()⟩ = some sessions) : Sound { s with sessions } := by
  have hrows := fun y => @Table.mem_insert? _ _ _ _ _ _ _ h y
  refine ⟨hs.below, hs.distinct, fun y hy z hz hne => ?_, fun y hy => ?_, fun y hy => ?_⟩
  · rcases (hrows y).mp hy with hy | rfl <;> rcases (hrows z).mp hz with hz | rfl
    · exact hs.apart y hy z hz hne
    · exact ⟨fun _ _ => List.not_mem_nil, fun _ _ => List.not_mem_nil, fun _ _ h => nomatch h⟩
    · exact ⟨nofun, nofun, fun _ h => nomatch h⟩
    · exact absurd rfl hne
  · rcases (hrows y).mp hy with hy | rfl
    · exact hs.guarded y hy
    · exact ⟨nofun, fun _ h => (nomatch h), fun _ h => (nomatch h), hs.distinct⟩
  · rcases (hrows y).mp hy with hy | rfl
    · exact hs.proceeds y hy
    · exact ⟨⟨[], none, none, none⟩, ⟨rfl, nofun, nofun, nofun⟩, trivial⟩

/-- **A commit.** -/
lemma Sound.commit (hs : Sound s) (hx : x ∈ s.sessions.rows) :
    Sound { s with committed := s.view x, sessions := s.sessions.erase x.number } := by
  refine ⟨fun row hrow => ?_, (hs.guarded x hx).distinct, fun y hy z hz hne => ?_, fun y hy => ?_,
    fun y hy => ?_⟩
  · rcases written_or_committed (Table.find?_of_mem hrow) with hwritten | ⟨-, hcommitted⟩
    · have hwrote : x.Wrote row.id := by
        unfold Session.Wrote
        rw [hwritten]
        rfl
      rcases (hs.guarded x hx).rows row.id hwrote with hdrawn | ⟨old, hold, -⟩
      · exact ((hs.guarded x hx).drawn row.id hdrawn).1
      · exact Table.key_of_find? hold ▸ hs.below old (Table.mem_of_find? hold)
    · exact hs.below row (Table.mem_of_find? hcommitted)
  · exact hs.apart y (Table.mem_erase.mp hy).1 z (Table.mem_erase.mp hz).1 hne
  · obtain ⟨hy, hne⟩ := Table.mem_erase.mp hy
    exact guarded_of_commit hs hx hy hne.symm
  · obtain ⟨hy, hne⟩ := Table.mem_erase.mp hy
    obtain ⟨m, hm, hobeys⟩ := hs.proceeds y hy
    exact ⟨m, knows_of_commit hs hx hy hne.symm hm, hobeys⟩

lemma Sound.rollback {number : ℕ} (hs : Sound s) : Sound { s with sessions := s.sessions.erase number } :=
  ⟨hs.below, hs.distinct,
    fun y hy z hz => hs.apart y (Table.mem_erase.mp hy).1 z (Table.mem_erase.mp hz).1,
    fun y hy => hs.guarded y (Table.mem_erase.mp hy).1, fun y hy => hs.proceeds y (Table.mem_erase.mp hy).1⟩

lemma Sound.step {step : Step} (hs : Sound s) (h : database generalWork s step = some s') : Sound s' := by
  cases step with
  | begin number =>
      obtain ⟨sessions, hsessions, rfl⟩ := Option.map_eq_some_iff.mp h
      exact hs.begin hsessions
  | operate number operation =>
      simp only [database] at h
      split at h
      · cases h
      · rename_i x hfound
        split at h
        · obtain rfl := Option.some.inj h
          have hx := Table.mem_of_find? hfound
          obtain ⟨m, hm, -⟩ := hs.proceeds x hx
          have hguarded := hs.guarded x hx
          refine hs.put rfl (le_refl _) (fun y hy hne => ?_) ?_ ⟨m, ?_, task_obeys⟩
          · obtain ⟨hlocks, hdrawn, hwrites⟩ := hs.apart x hx y hy hne.symm
            exact ⟨hlocks, hdrawn, hwrites⟩
          · exact ⟨hguarded.drawn, hguarded.rows, hguarded.numbers, hguarded.distinct⟩
          · exact ⟨hm.locks, hm.own, hm.stored, hm.free⟩
        · cases h
  | advance number =>
      simp only [database] at h
      split at h
      · cases h
      · rename_i x hfound
        have hx := Table.mem_of_find? hfound
        obtain ⟨m, hm, hobeys⟩ := hs.proceeds x hx
        split at h
        · cases h
        · rename_i call next htask
          rw [htask] at hobeys
          obtain ⟨⟨answer, x', nextId⟩, hanswer, rfl⟩ := Option.map_eq_some_iff.mp h
          obtain ⟨a, rfl, hanswered⟩ := answered_of_answer hs hx hm hobeys.1 hanswer
          obtain ⟨hexpected, hnumber, hgrows, hapart, hguarded, hknows⟩ := hanswered
          refine hs.put hnumber hgrows (fun y hy hne => ?_) ?_ ⟨m.after call a, ?_, ?_⟩
          · obtain ⟨hlocks, hdrawn, hwrites⟩ := hapart y hy hne
            exact ⟨hlocks, hdrawn, hwrites⟩
          · exact ⟨hguarded.drawn, hguarded.rows, hguarded.numbers, hguarded.distinct⟩
          · exact ⟨hknows.locks, hknows.own, hknows.stored, hknows.free⟩
          · exact hobeys.2 (.ok a) ⟨a, rfl, hexpected⟩
  | commit number =>
      simp only [database] at h
      split at h
      · cases h
      · rename_i x hfound
        split at h
        · obtain rfl := Option.some.inj h
          have hkey : x.number = number := Table.key_of_find? hfound
          exact hkey ▸ hs.commit (Table.mem_of_find? hfound)
        · cases h
  | rollback number =>
      simp only [database] at h
      split at h
      · cases h
      · obtain rfl := Option.some.inj h
        exact hs.rollback

lemma sound_start {lines : Table TimeLine.id} (h : DistinctSeqs lines) : Sound (Database.start lines) := by
  refine ⟨fun row hrow => ?_, h, nofun, nofun, nofun⟩
  have hle : row.id ≤ (lines.rows.map TimeLine.id).sum := List.le_sum_of_mem (List.mem_map_of_mem hrow)
  exact Nat.lt_succ_of_le hle

/-- **A person's lines on a day have distinct numbers**, in every committed state of every interleaving of
transactions that create, move, split and delete lines; and none of them is refused by the uniqueness rule. -/
theorem sequence_numbers_distinct {lines : Table TimeLine.id} {t : Database} {steps : List Step}
    (hlines : DistinctSeqs lines) (hrun : (database generalWork).run (.start lines) steps = some t) :
    DistinctSeqs t.committed ∧ ∀ session ∈ t.sessions.rows, session.task ≠ .done (.error .unique) := by
  have hend : Sound t :=
    Machine.run_keeps (fun _ _ _ hs hstep => Sound.step hs hstep) (sound_start hlines) hrun
  refine ⟨hend.distinct, fun session hsession hrefused => ?_⟩
  obtain ⟨m, -, hobeys⟩ := hend.proceeds session hsession
  rw [hrefused] at hobeys
  exact hobeys rfl

end Runs

/-! ### A line comes as another goes -/

section Example

/-- The first transaction creates a line on the day whose only line the second one is deleting. -/
def comeAndGo : List Step :=
  [.begin 1, .begin 2, .operate 1 (.createEntry 1 5 7), .operate 2 (.deleteLine 1), .advance 1, .advance 2,
    .advance 1, .advance 2, .advance 1, .advance 2, .advance 1, .advance 2, .advance 1, .advance 2, .advance 1,
    .advance 1, .advance 1, .advance 1, .advance 1, .commit 2, .commit 1]

/-- The line that is going still counts, so the new one is the second. -/
theorem sequence_numbers_distinct_come_and_go :
    ∃ t, (database none).run (.start ⟨[⟨1, 1, 5, 8, 1⟩], by decide⟩) comeAndGo = some t ∧
      t.committed.rows = [⟨2, 1, 5, 7, 2⟩] ∧ DistinctSeqs t.committed ∧
      ∀ session ∈ t.sessions.rows, session.task ≠ .done (.error .unique) := by
  have hall : DistinctSeqs ⟨[⟨1, 1, 5, 8, 1⟩], by decide⟩ ∧
      ((database none).run (.start ⟨[⟨1, 1, 5, 8, 1⟩], by decide⟩) comeAndGo).any
        (fun t => t.committed.rows = [⟨2, 1, 5, 7, 2⟩]) = true := by
    decide +kernel
  obtain ⟨hlines, hends⟩ := hall
  obtain ⟨t, hrun, hrows⟩ := (Option.any_eq_true _ _).mp hends
  exact ⟨t, hrun, of_decide_eq_true hrows, sequence_numbers_distinct hlines hrun⟩

end Example

end Docketworks.Timesheet.EntrySequence
