import Mathlib.Data.List.Infix

/-!
# Values joined after markers

A text made of values, each after its marker, one field after another.  Without escaping such a text can
be read in two ways; where no value holds the marker of the field after it, it cannot.

* `joined` — the text of the fields.
* `Clear` — no value holds the next field's marker.
* `eq_of_append_marker` — a marker that begins with a symbol it does not repeat ends a value in one place.
* `eq_of_joined` — clear fields with the same markers are read back from their text.
-/

namespace Library

variable {α : Type}

/-- Each value after its marker. -/
def joined : List (List α × List α) → List α
  | [] => []
  | (marker, value) :: fields => marker ++ value ++ joined fields

/-- No value holds the marker of the field after it. -/
def Clear : List (List α × List α) → Prop
  | [] => True
  | [_] => True
  | (_, value) :: (marker, next) :: fields => ¬marker <:+: value ∧ Clear ((marker, next) :: fields)

/-- It begins with a symbol it does not repeat. -/
def IsMarker (marker : List α) : Prop := ∃ c rest, marker = c :: rest ∧ c ∉ rest

variable {x y r s marker : List α}

lemma eq_of_append_marker_append {w : List α} (hmarker : IsMarker marker)
    (hy : ¬marker <:+: x ++ w) (h : marker ++ r = w ++ (marker ++ s)) : w = [] ∧ r = s := by
  obtain ⟨c, rest, rfl, hc⟩ := hmarker
  rcases w with _ | ⟨d, w⟩
  · exact ⟨rfl, List.append_cancel_left h⟩
  · exfalso
    rcases List.append_eq_append_iff.mp h with ⟨p, hw, -⟩ | ⟨p, hp, hs⟩
    · -- the marker lies within the longer value
      exact hy ⟨x, p, by rw [hw, List.append_assoc]⟩
    · rcases p with _ | ⟨e, p⟩
      · rw [List.append_nil] at hp
        exact hy ⟨x, [], by rw [hp, List.append_nil]⟩
      · -- it would begin again within itself
        simp only [List.cons_append, List.cons.injEq] at hp hs
        obtain ⟨-, rfl⟩ := hp
        obtain ⟨rfl, -⟩ := hs
        exact hc (List.mem_append_right w List.mem_cons_self)

/-- **A marker ends a value in one place.** -/
lemma eq_of_append_marker (hmarker : IsMarker marker) (hx : ¬marker <:+: x) (hy : ¬marker <:+: y)
    (h : x ++ (marker ++ r) = y ++ (marker ++ s)) : x = y ∧ r = s := by
  rcases List.append_eq_append_iff.mp h with ⟨w, rfl, hw⟩ | ⟨w, rfl, hw⟩
  · obtain ⟨rfl, hrest⟩ := eq_of_append_marker_append hmarker hy hw
    exact ⟨(List.append_nil x).symm, hrest⟩
  · obtain ⟨rfl, hrest⟩ := eq_of_append_marker_append hmarker hx hw
    exact ⟨List.append_nil y, hrest.symm⟩

/-- **Clear fields are read back from their text.** -/
theorem eq_of_joined {xs ys : List (List α × List α)} (hmarkers : ∀ field ∈ xs, IsMarker field.1)
    (hsame : xs.map Prod.fst = ys.map Prod.fst) (hx : Clear xs) (hy : Clear ys)
    (h : joined xs = joined ys) : xs = ys := by
  induction xs generalizing ys with
  | nil => exact (List.map_eq_nil_iff.mp hsame.symm).symm
  | cons field xs ih =>
      obtain ⟨marker, value⟩ := field
      rcases ys with _ | ⟨⟨marker', value'⟩, ys⟩
      · cases hsame
      obtain ⟨rfl, hrest⟩ := List.cons.inj hsame
      have hvalues : value ++ joined xs = value' ++ joined ys := by
        simp only [joined, List.append_assoc] at h
        exact List.append_cancel_left h
      rcases xs with _ | ⟨⟨next, x⟩, xs⟩
      · obtain rfl := List.map_eq_nil_iff.mp hrest.symm
        simpa [joined] using hvalues
      · rcases ys with _ | ⟨⟨next', y⟩, ys⟩
        · cases hrest
        obtain ⟨rfl, -⟩ := List.cons.inj hrest
        have hnext : IsMarker next := hmarkers _ (List.mem_cons_of_mem _ List.mem_cons_self)
        simp only [joined, List.append_assoc] at hvalues
        obtain ⟨rfl, htail⟩ := eq_of_append_marker hnext hx.1 hy.1 hvalues
        have hjoined : joined ((next, x) :: xs) = joined ((next, y) :: ys) := by
          simp only [joined, List.append_assoc, htail]
        rw [ih (fun field hfield => hmarkers field (List.mem_cons_of_mem _ hfield)) hrest hx.2 hy.2
          hjoined]

end Library
