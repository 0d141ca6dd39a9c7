import Whereto.Proofs.Picker.Precise
import Whereto.Proofs.Place.Parts

/-!
What the list offers. A suggestion that is selected and submitted is accepted if and only if the
parts of the place it names hold two or three names. The sources do not see to that: a place may
have one part only, or a part with a hyphen, and then it is offered and refused.
-/

namespace Whereto.Picker

variable {p : Picker} {c : Course step} {n index : ℕ} {s : Suggestion}

/-- The suggestion at an index can be selected and submitted. -/
def Accepts (p : Picker) (index : ℕ) : Prop :=
  ∃ d, .submitted (some d) ∈ ((p.step (.selectIndex index)).1.step .submit).2

/-- The parts of the prediction or of the record from which a suggestion was made, one that a
source has answered before. -/
inductive Offered (c : Course step) (n : ℕ) (s : Suggestion) : List String → Prop
  | predicted {e job : ℕ} {predictions : List Prediction} {x : Prediction} (before : e < n)
      (reply : c.input e = .reply job (.predictions (.ok predictions))) (mem : x ∈ predictions)
      (made : x.suggestion? = some s) : Offered c n s x.parts
  | listed {e job : ℕ} {records : List CityRecord} {r : CityRecord} (before : e < n)
      (reply : c.input e = .reply job (.cities (.ok records))) (mem : r ∈ records)
      (made : s = r.suggestion) : Offered c n s r.parts

/-- A suggestion that does not come from the position has to look like a city. -/
lemma accepts_iff (hs : p.field.suggestions[index]? = some s) (hsource : s.source ≠ .geolocation) :
    p.Accepts index ↔ IsCityShaped (Text.trim s.value) := by
  have hfield : (p.step (.selectIndex index)).1.field = p.field.select s := by
    simp [step, selectIndex, hs]
  simp only [Accepts, submitted_iff, hfield, ← isCityText_iff]
  simp [Field.submit?, Field.select, Destination.resolve?, Destination.isValid, hsource,
    Option.eq_some_iff_get_eq]

lemma offered_of_mem (h0 : c.start.field.suggestions = [])
    (h : s ∈ (c.state n).field.suggestions) : ∃ parts, Offered c n s parts := by
  obtain ⟨e, i, hen, hi, hfound⟩ := suggestions_origin (r := .ofCourse c) h0 h
  obtain rfl : c.input e = i := by simpa using hi
  rcases found_cases hfound with ⟨job, predictions, hreply, x, hx, hmade⟩ |
    ⟨job, records, hreply, r, hr, hmade⟩
  · exact ⟨x.parts, .predicted hen hreply hx hmade⟩
  · exact ⟨r.parts, .listed hen hreply hr hmade⟩

lemma Offered.isCityShaped_iff {parts : List String} (h : Offered c n s parts) :
    IsCityShaped (Text.trim s.value) ↔ HoldCity parts := by
  cases h with
  | predicted _ _ _ made => exact Prediction.isCityShaped_iff made
  | listed _ _ _ made => exact made ▸ CityRecord.isCityShaped_iff _

/-- **Which offers are accepted.** Every suggestion of the list was made from the parts of a place
that a source answered; and if it is selected and submitted, it is accepted if and only if every
part consists of names and there are two or three names altogether. -/
theorem accepts_iff_holdCity {o : PickerOptions} {primary : Primary} (hc : c.start = new o primary)
    (hs : (c.state n).field.suggestions[index]? = some s) :
    (∃ parts, Offered c n s parts) ∧
      ∀ parts, Offered c n s parts → ((c.state n).Accepts index ↔ HoldCity parts) := by
  have h0 : c.start.field.suggestions = [] := by rw [hc]; rfl
  have hmem := List.mem_of_getElem? hs
  obtain ⟨e, i, -, -, hfound⟩ := suggestions_origin (r := .ofCourse c) h0 hmem
  refine ⟨offered_of_mem h0 hmem, fun parts hparts => ?_⟩
  rw [accepts_iff hs (source_of_found hfound), hparts.isCityShaped_iff]

/-- Two places are predicted: the region of one has hyphens in its name. -/
def choosing : Course step where
  start := new ⟨2, ⟨10000, true⟩⟩ .ready
  input
    | 0 => .setText "pa"
    | 1 => .start (.handle "pa")
    | 2 => .reply 0 (.predictions (.ok
        [⟨"Paris, Île-de-France, France", ["Paris", "Île-de-France", "Métropole", "France"]⟩,
          ⟨"Panama City, Panama", ["Panama City", "Panama"]⟩]))
    | _ => .focus

theorem choosing_accepts :
    (choosing.state 3).field.suggestions[1]? =
      some ⟨"Panama City, Panama", "Panama City, Panama", .primary⟩ ∧
    (choosing.state 3).Accepts 1 := by
  have hs : (choosing.state 3).field.suggestions[1]? =
      some ⟨"Panama City, Panama", "Panama City, Panama", .primary⟩ := by decide +kernel
  have name {name : String} (hne : name ≠ "")
      (h : name.toList.all (fun c => c = ' ' || Text.isLetter c) = true) :
      Holds name [name] := by
    have hletters : ∀ c ∈ name.toList, c = ' ' ∨ Text.isLetter c = true := by simpa using h
    exact ⟨by simp, by simpa using ⟨hne, hletters⟩, rfl⟩
  have hparts : HoldCity ["Panama City", "Panama"] :=
    ⟨[["Panama City"], ["Panama"]],
      .cons (name (by decide) (by decide +kernel))
        (.cons (name (by decide) (by decide +kernel)) .nil),
      .inl rfl⟩
  exact ⟨hs, ((accepts_iff_holdCity rfl hs).2 _
    (.predicted (e := 2) (by decide) rfl (.tail _ (.head _)) (by decide +kernel))).mpr hparts⟩

/-- The place with hyphens is offered and refused. -/
theorem choosing_refuses :
    (choosing.state 3).field.suggestions[0]? =
      some ⟨"Paris, Île-de-France, France", "Paris, Île-de-France, France", .primary⟩ ∧
    ¬ (choosing.state 3).Accepts 0 := by
  refine ⟨by decide +kernel, ?_⟩
  rintro ⟨d, hd⟩
  have hnone : ((choosing.state 3).step (.selectIndex 0)).1.field.submit? = none := by
    decide +kernel
  simp [submitted_iff, hnone] at hd

end Whereto.Picker
