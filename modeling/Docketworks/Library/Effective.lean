import Mathlib.Data.List.MinMax

/-!
# What is in force on a date

A history is a list of records, each effective from a date until a later one takes over.

* `inForce` — the latest record effective by a day.
* `inForce_mono` — it is in force on every day from its own date on.
* `inForce_of_latest` — a record with no later one, and alone of its date, is in force.
* `inForce_map` — records that keep their dates are in force when what they come from is.
-/

namespace Library

variable {α β : Type*} {date : α → ℤ} {history : List α} {day day' : ℤ} {a : α}

/-- The latest record effective by a day; the first of those with one date. -/
def inForce (date : α → ℤ) (history : List α) (day : ℤ) : Option α :=
  @List.argmax _ ℤ Int.instLinearOrder.toPreorder Int.instLinearOrder.toDecidableLT date
    (history.filter fun a => date a ≤ day)

lemma mem_of_inForce (h : inForce date history day = some a) : a ∈ history ∧ date a ≤ day := by
  unfold inForce at h
  obtain ⟨hmem, hle⟩ := List.mem_filter.mp (List.argmax_mem h)
  exact ⟨hmem, of_decide_eq_true hle⟩

lemma le_of_inForce (h : inForce date history day = some a) {b : α} (hb : b ∈ history)
    (hle : date b ≤ day) : date b ≤ date a := by
  unfold inForce at h
  exact List.le_of_mem_argmax (List.mem_filter.mpr ⟨hb, decide_eq_true hle⟩) h

/-- **In force since its date**: what is in force on a day is so on every day from its date to that
day. -/
lemma inForce_mono (h : inForce date history day = some a) (hfrom : date a ≤ day')
    (hto : day' ≤ day) : inForce date history day' = some a := by
  have hsame : (history.filter fun b => date b ≤ day') = history.filter fun b => date b ≤ day := by
    refine List.filter_congr fun b hb => ?_
    rw [decide_eq_decide]
    exact ⟨fun hle => hle.trans hto, fun hle => (le_of_inForce h hb hle).trans hfrom⟩
  unfold inForce at h ⊢
  rw [hsame]
  exact h

lemma exists_inForce (ha : a ∈ history) (hle : date a ≤ day) : ∃ b, inForce date history day = some b := by
  rcases hnone : inForce date history day with _ | b
  · unfold inForce at hnone
    rw [List.argmax_eq_none] at hnone
    exact absurd (List.mem_filter.mpr ⟨ha, decide_eq_true hle⟩) (hnone ▸ List.not_mem_nil)
  · exact ⟨b, rfl⟩

lemma inForce_of_latest (ha : a ∈ history) (hle : date a ≤ day)
    (hlatest : ∀ b ∈ history, date b ≤ day → date b ≤ date a)
    (halone : ∀ b ∈ history, date b = date a → b = a) : inForce date history day = some a := by
  obtain ⟨b, hb⟩ := exists_inForce ha hle
  obtain ⟨hmem, hday⟩ := mem_of_inForce hb
  rw [hb, halone b hmem (le_antisymm (hlatest b hmem hday) (le_of_inForce hb ha hle))]

lemma argmax_map (g : β → α) (records : List β) :
    @List.argmax _ ℤ Int.instLinearOrder.toPreorder Int.instLinearOrder.toDecidableLT date (records.map g) =
      (@List.argmax _ ℤ Int.instLinearOrder.toPreorder Int.instLinearOrder.toDecidableLT (date ∘ g)
        records).map g := by
  induction records with
  | nil => rfl
  | cons b records ih =>
      rw [List.map_cons, List.argmax_cons, List.argmax_cons, ih]
      rcases List.argmax (date ∘ g) records with _ | c
      · rfl
      · simp only [Option.map_some, Function.comp_apply, apply_ite (Option.map g)]

lemma inForce_map (g : β → α) (records : List β) :
    inForce date (records.map g) day = (inForce (date ∘ g) records day).map g := by
  unfold inForce
  rw [List.filter_map]
  exact argmax_map g _

end Library
