import Whereto.Picker.Machine
import Whereto.Proofs.Place.Parts
import Whereto.Proofs.Text.Blank

/-!
What the sources offer. A prediction suggests a place if and only if it names one, that is, if some
component of the address is not blank; every record of the city directory suggests one.
-/

namespace Whereto

open Picker (usable directoryEntries)

variable {texts components : List String} {x : Prediction}

lemma keyParts_eq_nil_iff : keyParts texts = [] ↔ texts = [] := by
  unfold keyParts
  split <;> simp

/-- What is joined of texts is empty only if there is none, or if there is one and it is empty. -/
lemma joined_eq_empty_iff (h : "" ∉ texts) : Text.joined texts = "" ↔ texts = [] := by
  match texts with
  | [] => simp [Text.joined]
  | [text] => simpa [Text.joined, eq_comm] using h
  | first :: second :: rest => simp [Text.joined]

/-- A place has no name if and only if all components are blank. -/
lemma componentsText_eq_empty_iff : componentsText components = "" ↔
    ∀ component ∈ components, Text.blank component = true := by
  have hne : "" ∉ keyParts ((components.map Text.trim).filter (!·.isEmpty)) := fun hmem => by
    simpa using (List.mem_filter.mp (mem_of_mem_keyParts hmem)).2
  rw [componentsText, joined_eq_empty_iff hne, keyParts_eq_nil_iff]
  simp [List.filter_eq_nil_iff, Text.trim_eq_empty_iff]

namespace Prediction

/-- Some component of the address is not blank. -/
def IsNamed (x : Prediction) : Prop := ∃ component ∈ x.components, Text.blank component = false

instance : DecidablePred IsNamed := fun x =>
  inferInstanceAs (Decidable (∃ component ∈ x.components, Text.blank component = false))

lemma isNamed_iff : x.IsNamed ↔ componentsText x.components ≠ "" := by
  rw [Ne, componentsText_eq_empty_iff]
  simp [IsNamed]

lemma suggestion?_eq : x.suggestion? =
    if x.IsNamed then some ⟨x.description, componentsText x.components, .primary⟩ else none := by
  by_cases h : x.IsNamed
  · simp [suggestion?, h, isNamed_iff.mp h]
  · simp [suggestion?, h, not_not.mp (mt isNamed_iff.mpr h)]

end Prediction

/-- The places that were predicted and are named, in their order. -/
def placesOf : Except Failure (List Prediction) → List Suggestion
  | .ok xs => (xs.filter (·.IsNamed)).map fun x =>
      ⟨x.description, componentsText x.components, .primary⟩
  | .error _ => []

/-- The cities that were found, in their order. -/
def entriesOf : Except Failure (List CityRecord) → List Suggestion
  | .ok rs => rs.map fun r => ⟨r.token.text, r.token.text, .fallback⟩
  | .error _ => []

lemma usable_eq_placesOf (result : Except Failure (List Prediction)) :
    usable result = placesOf result := by
  cases result with
  | error e => rfl
  | ok xs =>
    have hsuggestion : Prediction.suggestion? = fun x : Prediction =>
        if x.IsNamed then some ⟨x.description, componentsText x.components, .primary⟩ else none :=
      funext fun _ => Prediction.suggestion?_eq
    rw [usable, hsuggestion, placesOf]
    induction xs with
    | nil => rfl
    | cons x xs ih => by_cases h : x.IsNamed <;> simp [h, ih]

lemma directoryEntries_eq_entriesOf (result : Except Failure (List CityRecord)) :
    directoryEntries result = entriesOf result := by
  cases result <;> rfl

end Whereto
