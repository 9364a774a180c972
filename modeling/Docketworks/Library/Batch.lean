import Mathlib.Data.List.Perm.Basic

/-!
# Items taken one by one

A batch of items, each of which takes its turn at a state: it is written, or it is refused with an
error and leaves what it left.

* `guarded` — a refusal is recorded and the next item takes its turn.
* `unguarded` — the first refusal ends the batch.
* `Answers` — every item of the batch was written, or its refusal is recorded.
* `OnlyLastRefused` — no item before the last is refused at its turn.

`answers_guarded` is unconditional; `answers_unguarded_iff` says that an unguarded loop answers its
batch exactly when `OnlyLastRefused` holds of it.
-/

namespace Library

/-- What a loop over a batch leaves. -/
structure BatchReport (σ ρ ε : Type) where
  state : σ
  written : List ρ
  refused : List (ρ × ε)

namespace BatchReport

variable {σ ρ ε : Type}

/-- The report, one more item written before. -/
def andWritten (report : BatchReport σ ρ ε) (item : ρ) : BatchReport σ ρ ε :=
  { report with written := item :: report.written }

/-- The report, one more item refused before. -/
def andRefused (report : BatchReport σ ρ ε) (item : ρ) (error : ε) : BatchReport σ ρ ε :=
  { report with refused := (item, error) :: report.refused }

/-- The items the report says something about. -/
def answered (report : BatchReport σ ρ ε) : List ρ :=
  report.written ++ report.refused.map Prod.fst

/-- Every item of the batch was written or its refusal is recorded, and no item was twice. -/
def Answers (report : BatchReport σ ρ ε) (items : List ρ) : Prop :=
  report.answered.Perm items

instance [DecidableEq ρ] (report : BatchReport σ ρ ε) (items : List ρ) :
    Decidable (report.Answers items) :=
  inferInstanceAs (Decidable (report.answered.Perm items))

lemma answers_andWritten {report : BatchReport σ ρ ε} {items : List ρ} (h : report.Answers items)
    (item : ρ) : (report.andWritten item).Answers (item :: items) :=
  List.Perm.cons item h

lemma answers_andRefused {report : BatchReport σ ρ ε} {items : List ρ} (h : report.Answers items)
    (item : ρ) (error : ε) : (report.andRefused item error).Answers (item :: items) :=
  List.perm_middle.trans (List.Perm.cons item h)

lemma answers_andWritten_iff {report : BatchReport σ ρ ε} {items : List ρ} {item : ρ} :
    (report.andWritten item).Answers (item :: items) ↔ report.Answers items :=
  List.perm_cons item

end BatchReport

section Loops

variable {σ ρ ε : Type} (turn : σ → ρ → σ × Option ε)

/-- The loop that records a refusal and goes on. -/
def guarded (s : σ) : List ρ → BatchReport σ ρ ε
  | [] => ⟨s, [], []⟩
  | item :: items =>
      match turn s item with
      | (s', none) => (guarded s' items).andWritten item
      | (s', some error) => (guarded s' items).andRefused item error

/-- The loop that ends with the first refusal. -/
def unguarded (s : σ) : List ρ → BatchReport σ ρ ε
  | [] => ⟨s, [], []⟩
  | item :: items =>
      match turn s item with
      | (s', none) => (unguarded s' items).andWritten item
      | (s', some error) => ⟨s', [], [(item, error)]⟩

/-- No item before the last is refused at its turn, where `Refuses` says which are. -/
def OnlyLastRefused (Refuses : σ → ρ → Prop) : σ → List ρ → Prop
  | _, [] => True
  | _, [_] => True
  | s, item :: next :: items =>
      ¬ Refuses s item ∧ OnlyLastRefused Refuses (turn s item).1 (next :: items)

theorem answers_guarded (s : σ) (items : List ρ) : (guarded turn s items).Answers items := by
  induction items generalizing s with
  | nil => exact List.Perm.refl _
  | cons item items ih =>
      unfold guarded
      split
      · exact BatchReport.answers_andWritten (ih _) item
      · exact BatchReport.answers_andRefused (ih _) item _

/-- An unguarded loop answers a batch exactly when no item before the last is refused. -/
theorem answers_unguarded_iff {Refuses : σ → ρ → Prop}
    (hrefuses : ∀ s item, (turn s item).2.isSome ↔ Refuses s item) (s : σ) (items : List ρ) :
    (unguarded turn s items).Answers items ↔ OnlyLastRefused turn Refuses s items := by
  induction items generalizing s with
  | nil => exact iff_of_true (List.Perm.refl _) trivial
  | cons item items ih =>
      rcases hturn : turn s item with ⟨s', _ | error⟩
      · have hwritten : ¬ Refuses s item := by
          rw [← hrefuses, hturn]
          exact Bool.false_ne_true
        have hreport : unguarded turn s (item :: items) = (unguarded turn s' items).andWritten item := by
          rw [unguarded, hturn]
        rw [hreport, BatchReport.answers_andWritten_iff, ih]
        cases items with
        | nil => exact Iff.rfl
        | cons next items =>
            rw [OnlyLastRefused, hturn]
            exact ⟨fun h => ⟨hwritten, h⟩, fun h => h.2⟩
      · -- the loop ends here: the batch is answered only if nothing is left of it
        have hrefused : Refuses s item := by
          rw [← hrefuses, hturn]
          rfl
        have hreport : unguarded turn s (item :: items) = ⟨s', [], [(item, error)]⟩ := by
          rw [unguarded, hturn]
        rw [hreport]
        cases items with
        | nil => exact iff_of_true (List.Perm.refl _) trivial
        | cons next items =>
            refine iff_of_false (fun hperm => ?_) fun honly => honly.1 hrefused
            simpa [BatchReport.answered] using hperm.length_eq

end Loops

end Library
