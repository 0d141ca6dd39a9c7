import Mathlib.Logic.Relation
import Whereto.Proofs.Place.Named
import Whereto.Proofs.Text.Split

/-!
The name of a place is canonical. It depends on the components that are not blank and on nothing
but their texts between white space; and if there are no commas in them, it is cut into the very
components it was made of, so that it is the name of itself.
-/

namespace Whereto

open Text (blank joined pieces trim)

/-- A change in the spacing of an address: a blank component is put in, or white space around a
component. -/
inductive Respaced : List String → List String → Prop
  | inserted (before after : List String) {w : String} (h : blank w = true) :
      Respaced (before ++ after) (before ++ w :: after)
  | padded (before after : List String) (component : String) {w₁ w₂ : String}
      (h₁ : blank w₁ = true) (h₂ : blank w₂ = true) :
      Respaced (before ++ component :: after) (before ++ (w₁ ++ component ++ w₂) :: after)

/-- The components that are not blank, trimmed. -/
def namedParts (components : List String) : List String :=
  (components.filter (!blank ·)).map trim

variable {components xs ys texts parts : List String} {component part : String}

/-! ### Spacing -/

lemma namedParts_append (xs ys : List String) :
    namedParts (xs ++ ys) = namedParts xs ++ namedParts ys := by
  simp [namedParts]

lemma namedParts_cons_of_blank (h : blank component = true) :
    namedParts (component :: xs) = namedParts xs := by
  simp [namedParts, h]

lemma namedParts_cons (h : blank component = false) :
    namedParts (component :: xs) = trim component :: namedParts xs := by
  simp [namedParts, h]

lemma blank_padded {w₁ w₂ : String} (h₁ : blank w₁ = true) (h₂ : blank w₂ = true) :
    blank (w₁ ++ component ++ w₂) = blank component := by
  rw [← Text.blank_trim, Text.trim_padded h₁ h₂, Text.blank_trim]

lemma Respaced.namedParts_eq (h : Respaced xs ys) : namedParts xs = namedParts ys := by
  cases h with
  | inserted before after h =>
    rw [namedParts_append, namedParts_append, namedParts_cons_of_blank h]
  | padded before after component h₁ h₂ =>
    rw [namedParts_append, namedParts_append]
    cases hblank : blank component with
    | true =>
      rw [namedParts_cons_of_blank hblank, namedParts_cons_of_blank]
      rw [blank_padded h₁ h₂, hblank]
    | false =>
      rw [namedParts_cons hblank, namedParts_cons, Text.trim_padded h₁ h₂]
      rw [blank_padded h₁ h₂, hblank]

lemma Respaced.cons (h : Respaced xs ys) : Respaced (component :: xs) (component :: ys) := by
  cases h with
  | inserted before after h => exact .inserted (component :: before) after h
  | padded before after other h₁ h₂ => exact .padded (component :: before) after other h₁ h₂

lemma eqvGen_respaced_cons (h : Relation.EqvGen Respaced xs ys) :
    Relation.EqvGen Respaced (component :: xs) (component :: ys) := by
  induction h with
  | rel xs ys h => exact .rel _ _ h.cons
  | refl xs => exact .refl _
  | symm xs ys _ ih => exact .symm _ _ ih
  | trans xs ys zs _ _ ihxs ihys => exact .trans _ _ _ ihxs ihys

/-- Every address comes by changes in spacing from its named parts. -/
lemma eqvGen_respaced_namedParts (xs : List String) :
    Relation.EqvGen Respaced xs (namedParts xs) := by
  induction xs with
  | nil => exact .refl _
  | cons x xs ih =>
    cases hblank : blank x with
    | true =>
      rw [namedParts_cons_of_blank hblank]
      exact .trans _ _ _ (.symm _ _ (.rel _ _ (.inserted [] xs hblank))) ih
    | false =>
      rw [namedParts_cons hblank]
      obtain ⟨w₁, w₂, htext, h₁, h₂⟩ := Text.exists_padded_trim x
      have hpad := Respaced.padded [] (namedParts xs) (trim x) h₁ h₂
      rw [← htext] at hpad
      exact .trans _ _ _ (eqvGen_respaced_cons ih) (.symm _ _ (.rel _ _ hpad))

/-- **Spacing.** Two addresses come from each other by changes in spacing if and only if the
components that are not blank are the same but for white space around them. -/
theorem eqvGen_respaced_iff : Relation.EqvGen Respaced xs ys ↔ namedParts xs = namedParts ys := by
  constructor
  · intro h
    exact (eq_equivalence.comap namedParts).eqvGen_iff.mp (h.mono fun _ _ => Respaced.namedParts_eq)
  · intro h
    have hxs := eqvGen_respaced_namedParts xs
    rw [h] at hxs
    exact .trans _ _ _ hxs (.symm _ _ (eqvGen_respaced_namedParts ys))

/-! ### Key parts -/

lemma componentsText_eq (components : List String) :
    componentsText components = joined (keyParts (namedParts components)) := by
  have hempty : (fun s : String => !s.isEmpty) ∘ trim = fun s => !blank s := by
    funext s
    rw [Bool.eq_iff_iff]
    simp [← Bool.not_eq_true, Text.trim_eq_empty_iff]
  rw [componentsText, namedParts, List.filter_map, hempty]

lemma keyParts_of_length_le (h : texts.length ≤ 3) : keyParts texts = texts := by
  match texts with
  | [] => rfl
  | [first] => rfl
  | [first, second] => rfl
  | [first, second, third] => rfl
  | first :: second :: third :: fourth :: rest =>
    simp only [List.length_cons] at h
    omega

lemma keyParts_concat (first second : String) (middle : List String) (last : String) :
    keyParts (first :: second :: (middle ++ [last])) = [first, second, last] := by
  cases middle with
  | nil => rfl
  | cons third rest =>
    rw [List.cons_append, keyParts, ← List.cons_append, List.getLastD_concat]

lemma length_keyParts_le (texts : List String) : (keyParts texts).length ≤ 3 := by
  match texts with
  | [] => simp [keyParts]
  | [first] => simp [keyParts]
  | [first, second] => simp [keyParts]
  | first :: second :: third :: rest => simp [keyParts]

lemma namedParts_of_trimmed (h : ∀ part ∈ parts, trim part = part ∧ blank part = false) :
    namedParts parts = parts := by
  induction parts with
  | nil => rfl
  | cons part parts ih =>
    obtain ⟨⟨htrim, hblank⟩, hparts⟩ := List.forall_mem_cons.mp h
    rw [namedParts_cons hblank, htrim, ih hparts]

lemma trimmed_of_mem_keyParts (h : part ∈ keyParts (namedParts components)) :
    trim part = part ∧ blank part = false := by
  obtain ⟨component, hmem, rfl⟩ := List.mem_map.mp (mem_of_mem_keyParts h)
  exact ⟨Text.trim_trim component, by simpa using (List.mem_filter.mp hmem).2⟩

/-- The key parts of an address have the same name as the address. -/
lemma componentsText_keyParts (components : List String) :
    componentsText (keyParts (namedParts components)) = componentsText components := by
  rw [componentsText_eq, componentsText_eq,
    namedParts_of_trimmed fun part hpart => trimmed_of_mem_keyParts hpart,
    keyParts_of_length_le (length_keyParts_le _)]

lemma namedParts_ne_nil_iff :
    namedParts components ≠ [] ↔ ∃ component ∈ components, blank component = false := by
  simp [namedParts]

/-- The name of an address without commas is cut into the key parts. -/
lemma pieces_componentsText (hcomma : ∀ component ∈ components, ',' ∉ component.toList)
    (hnamed : ∃ component ∈ components, blank component = false) :
    pieces (componentsText components) = keyParts (namedParts components) := by
  rw [componentsText_eq]
  refine Text.pieces_joined (mt keyParts_eq_nil_iff.mp (namedParts_ne_nil_iff.mpr hnamed)) ?_
  intro part hpart
  obtain ⟨component, hmem, rfl⟩ := List.mem_map.mp (mem_of_mem_keyParts hpart)
  exact fun hmem' => hcomma component (List.mem_filter.mp hmem).1 (Text.trim_subset component hmem')

/-- **The name of a place is canonical.** No change in the spacing of the address changes it. It is
empty exactly if all components are blank. If none of them holds a comma, and some are not blank, it
is cut into the first, the second and the last of these, trimmed, or all of them if there are no more
than three; and the pieces have the same name again. -/
theorem componentsText_canonical (components : List String) :
    (∀ others, Relation.EqvGen Respaced components others →
      componentsText others = componentsText components) ∧
    (componentsText components = "" ↔ ∀ component ∈ components, blank component = true) ∧
    ((∀ component ∈ components, ',' ∉ component.toList) →
      (∃ component ∈ components, blank component = false) →
      ((namedParts components).length ≤ 3 →
        pieces (componentsText components) = namedParts components) ∧
      (∀ first second middle last, namedParts components = first :: second :: (middle ++ [last]) →
        pieces (componentsText components) = [first, second, last]) ∧
      componentsText (pieces (componentsText components)) = componentsText components) := by
  refine ⟨fun others h => ?_, componentsText_eq_empty_iff, fun hcomma hnamed => ?_⟩
  · rw [componentsText_eq, componentsText_eq, eqvGen_respaced_iff.mp h]
  · rw [pieces_componentsText hcomma hnamed]
    refine ⟨keyParts_of_length_le, fun first second middle last hparts => ?_,
      componentsText_keyParts components⟩
    rw [hparts, keyParts_concat]

/-- Four components with white space around them, and a blank one. -/
def parisian : List String := ["  Paris ", " ", "Île-de-France", "\tMétropole", "France\u3000"]

theorem parisian_canonical :
    (∀ component ∈ parisian, ',' ∉ component.toList) ∧
    (∃ component ∈ parisian, blank component = false) ∧
    componentsText parisian = "Paris, Île-de-France, France" ∧
    pieces "Paris, Île-de-France, France" = ["Paris", "Île-de-France", "France"] ∧
    componentsText ["Paris", "Île-de-France", "France"] = "Paris, Île-de-France, France" ∧
    Relation.EqvGen Respaced parisian ["Paris", "Île-de-France", "Métropole", "France"] ∧
    componentsText ["Paris", "Île-de-France", "Métropole", "France"] = componentsText parisian := by
  have hcomma : ∀ component ∈ parisian, ',' ∉ component.toList := by decide +kernel
  have hnamed : ∃ component ∈ parisian, blank component = false := by decide +kernel
  have htext : componentsText parisian = "Paris, Île-de-France, France" := by decide +kernel
  have hspacing : Relation.EqvGen Respaced parisian
      ["Paris", "Île-de-France", "Métropole", "France"] :=
    eqvGen_respaced_iff.mpr (by decide +kernel)
  obtain ⟨hsame, -, hcut⟩ := componentsText_canonical parisian
  obtain ⟨-, hlong, hagain⟩ := hcut hcomma hnamed
  have hpieces := hlong "Paris" "Île-de-France" ["Métropole"] "France" (by decide +kernel)
  rw [hpieces] at hagain
  rw [htext] at hpieces hagain
  exact ⟨hcomma, hnamed, htext, hpieces, hagain, hspacing, hsame _ hspacing⟩

end Whereto
