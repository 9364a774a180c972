import Docketworks.Job.DeltaUpdate
import Docketworks.Library.Joined

/-!
# What the checksum of a delta is taken of

`ChecksumInput.serialise` (`apps/job/services/delta_checksum.py`) and `serialiseForChecksum`
(`lib/delta/checksum.ts`): the job's id and each field with the canonical text of its value, joined with
`|` and `=`, nothing escaped.

* `checksumInput` — the text, for either side's canonical form.
* `Legible` — no value but the last holds `|`, the next field's name and `=`.
* `checksumInput_injective` — two legible before-states with the same text agree in every field.
* `separator_in_a_value` — two before-states that do not, with the same text.
-/

namespace Docketworks

open Library

namespace JobRecord

variable {α : Type}

/-- What a before-state has for a field. -/
def valueOf (before : List (String × α)) (field : String) : Option α :=
  (before.find? fun member => member.1 = field).map Prod.snd

/-- The fields in their order, each with the canonical text of its value. -/
def checksumComponents (canonical : α → String) (before : List (String × α)) (fields : List String) :
    List (String × String) :=
  (fields.insertionSort (· ≤ ·)).filterMap fun field =>
    (valueOf before field).map fun value => (field, canonical value)

/-- The text that is hashed. -/
def checksumInput (canonical : α → String) (jobId : String) (before : List (String × α))
    (fields : List String) : String :=
  serialiseComponents jobId (checksumComponents canonical before fields)

/-- What stands before a field's value. -/
def fieldMarker (field : String) : List Char := '|' :: (field.toList ++ ['='])

/-- No value but the last holds `|`, the next field's name and `=`. -/
def Legible : List (String × String) → Prop
  | [] => True
  | [_] => True
  | (_, value) :: (field, next) :: components =>
      ¬fieldMarker field <:+: value.toList ∧ Legible ((field, next) :: components)

instance decidableLegible : (components : List (String × String)) → Decidable (Legible components)
  | [] => isTrue trivial
  | [_] => isTrue trivial
  | (_, _) :: (field, next) :: components =>
      have := decidableLegible ((field, next) :: components)
      inferInstanceAs (Decidable (_ ∧ _))

def markedComponent (component : String × String) : List Char × List Char :=
  (fieldMarker component.1, component.2.toList)

lemma toList_serialiseComponents (jobId : String) (components : List (String × String)) :
    (serialiseComponents jobId components).toList =
      jobId.toList ++ joined (components.map markedComponent) := by
  induction components generalizing jobId with
  | nil => simp [serialiseComponents, joined]
  | cons component components ih =>
      have hrest := ih (component.1 ++ "=" ++ component.2)
      unfold serialiseComponents at hrest ⊢
      rw [List.map_cons, String.intercalate_cons_cons, String.toList_append, hrest]
      simp [joined, markedComponent, fieldMarker]

lemma isMarker_fieldMarker {field : String} (h : '|' ∉ field.toList) : IsMarker (fieldMarker field) := by
  refine ⟨'|', _, rfl, fun hmem => ?_⟩
  rcases List.mem_append.mp hmem with hmem | hmem
  · exact h hmem
  · simp at hmem

lemma clear_of_legible {components : List (String × String)} (h : Legible components) :
    Clear (components.map markedComponent) := by
  induction components with
  | nil => trivial
  | cons component components ih =>
      rcases components with _ | ⟨⟨field, next⟩, components⟩
      · trivial
      · exact ⟨h.1, ih h.2⟩

lemma markedComponent_injective : Function.Injective markedComponent := by
  rintro ⟨field, value⟩ ⟨field', value'⟩ h
  simp only [markedComponent, fieldMarker, Prod.mk.injEq, List.cons.injEq, true_and] at h
  obtain ⟨hfield, hvalue⟩ := h
  rw [String.toList_injective (List.append_cancel_right hfield), String.toList_injective hvalue]

/-- **Legible components are read back from the text.** -/
lemma eq_of_serialiseComponents {jobId : String} {components components' : List (String × String)}
    (hnames : ∀ component ∈ components, '|' ∉ component.1.toList)
    (hsame : components.map Prod.fst = components'.map Prod.fst)
    (hlegible : Legible components) (hlegible' : Legible components')
    (h : serialiseComponents jobId components = serialiseComponents jobId components') :
    components = components' := by
  have hjoined : joined (components.map markedComponent) = joined (components'.map markedComponent) := by
    have htext := congrArg String.toList h
    rw [toList_serialiseComponents, toList_serialiseComponents] at htext
    exact List.append_cancel_left htext
  have hmarkers : (components.map markedComponent).map Prod.fst =
      (components'.map markedComponent).map Prod.fst := by
    have hfields := congrArg (List.map fieldMarker) hsame
    rw [List.map_map] at hfields ⊢
    rw [List.map_map] at hfields ⊢
    exact hfields
  refine List.map_injective_iff.mpr markedComponent_injective (eq_of_joined ?_ hmarkers
    (clear_of_legible hlegible) (clear_of_legible hlegible') hjoined)
  intro marked hmarked
  obtain ⟨component, hcomponent, rfl⟩ := List.mem_map.mp hmarked
  exact isMarker_fieldMarker (hnames component hcomponent)

section Injective

variable {canonical : α → String} {before before' : List (String × α)} {fields : List String}

lemma checksumComponents_eq (h : ∀ field ∈ fields, (valueOf before field).isSome) :
    checksumComponents canonical before fields = (fields.insertionSort (· ≤ ·)).map fun field =>
      (field, ((valueOf before field).map canonical).getD "") := by
  unfold checksumComponents
  rw [← List.filterMap_eq_map]
  refine List.filterMap_congr fun field hfield => ?_
  obtain ⟨value, hvalue⟩ := Option.isSome_iff_exists.mp (h field ((List.mem_insertionSort _).mp hfield))
  simp [hvalue]

/-- **Legible before-states with the same text agree.** -/
theorem checksumInput_injective {jobId : String} (hnames : ∀ field ∈ fields, '|' ∉ field.toList)
    (hbefore : ∀ field ∈ fields, (valueOf before field).isSome)
    (hbefore' : ∀ field ∈ fields, (valueOf before' field).isSome)
    (hlegible : Legible (checksumComponents canonical before fields))
    (hlegible' : Legible (checksumComponents canonical before' fields))
    (h : checksumInput canonical jobId before fields = checksumInput canonical jobId before' fields) :
    ∀ field ∈ fields, (valueOf before field).map canonical = (valueOf before' field).map canonical := by
  have heq : checksumComponents canonical before fields = checksumComponents canonical before' fields := by
    refine eq_of_serialiseComponents (fun component hcomponent => ?_) ?_ hlegible hlegible' h
    · rw [checksumComponents_eq hbefore] at hcomponent
      obtain ⟨field, hfield, rfl⟩ := List.mem_map.mp hcomponent
      exact hnames field ((List.mem_insertionSort _).mp hfield)
    · rw [checksumComponents_eq hbefore, checksumComponents_eq hbefore', List.map_map, List.map_map]
      rfl
  rw [checksumComponents_eq hbefore, checksumComponents_eq hbefore'] at heq
  intro field hfield
  have hsame := List.map_inj_left.mp heq field ((List.mem_insertionSort _).mpr hfield)
  obtain ⟨value, hvalue⟩ := Option.isSome_iff_exists.mp (hbefore field hfield)
  obtain ⟨value', hvalue'⟩ := Option.isSome_iff_exists.mp (hbefore' field hfield)
  simpa [hvalue, hvalue'] using hsame

end Injective

/-! ## Two states, one text -/

/-- A job's description and notes. -/
def describedAs (description notes : String) : List (String × PyValue) :=
  [("description", .str description), ("notes", .str notes)]

/-- The texts of the states below: only their strings are read. -/
def stateTexts : PythonText where
  sha256 raw := "sha256 of " ++ raw
  sha256_ne_empty raw h := by simpa using congrArg String.length h
  str _ := ""
  repr _ := ""
  uuid _ := "00000000-0000-0000-0000-000000000001"
  dateIso _ := ""
  datetimeIso _ := ""
  millisecondsIso _ := ""
  microsecondsIso _ := ""
  floatFixed _ := ""
  decimalFixed _ := ""
  decimalNormal _ := ""
  dateOf _ := none
  datetimeOf _ := none
  decimalOf _ := none
  parseEtags _ := []

/-- Notes with a blank behind them are the same notes. -/
theorem checksumInput_injective_notes :
    (valueOf (describedAs "Handrail" "Call first") "notes").map (normaliseValue stateTexts) =
      (valueOf (describedAs "Handrail" "Call first ") "notes").map (normaliseValue stateTexts) := by
  have htext : checksumInput (normaliseValue stateTexts) (stateTexts.uuid 1)
      (describedAs "Handrail" "Call first") ["description", "notes"] =
    checksumInput (normaliseValue stateTexts) (stateTexts.uuid 1)
      (describedAs "Handrail" "Call first ") ["description", "notes"] := by decide +kernel
  exact checksumInput_injective (by decide) (by decide) (by decide) (by decide +kernel)
    (by decide +kernel) htext "notes" (by decide)

/-- **A separator in a value** moves the text between two fields: another state, the same text. -/
theorem separator_in_a_value :
    ¬∀ before before' : List (String × PyValue),
      (∀ field ∈ ["description", "notes"], (valueOf before field).isSome) →
      (∀ field ∈ ["description", "notes"], (valueOf before' field).isSome) →
      checksumInput (normaliseValue stateTexts) (stateTexts.uuid 1) before ["description", "notes"] =
        checksumInput (normaliseValue stateTexts) (stateTexts.uuid 1) before' ["description", "notes"] →
      ∀ field ∈ ["description", "notes"], (valueOf before field).map (normaliseValue stateTexts) =
        (valueOf before' field).map (normaliseValue stateTexts) := by
  intro h
  have hsame := h (describedAs "Cut" "fold|notes=weld") (describedAs "Cut|notes=fold" "weld") (by decide)
    (by decide) (by decide +kernel) "description" (by decide)
  revert hsame
  decide +kernel

end JobRecord

end Docketworks
