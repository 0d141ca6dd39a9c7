import Whereto.Picker.Job
import Whereto.Proofs.Place.CityText

/-!
The parts of what is suggested. A prediction names a place by the key parts of its address, which
are trimmed and not blank; an entry of the city directory by its city, region and country, which
are sent as they are, so that only the outer ends of the text are trimmed when it is submitted.
-/

namespace Whereto

variable {part : String} {texts : List String}

/-! ### Predictions -/

/-- The parts of which the value of a prediction is joined. -/
def Prediction.parts (x : Prediction) : List String :=
  keyParts ((x.components.map Text.trim).filter (!·.isEmpty))

lemma mem_of_mem_keyParts (h : part ∈ keyParts texts) : part ∈ texts := by
  unfold keyParts at h
  split at h
  · rename_i first second third rest
    simp only [List.mem_cons, List.not_mem_nil, or_false] at h
    rcases h with rfl | rfl | rfl
    · simp
    · simp
    · have hlast : (third :: rest).getLastD third ∈ third :: rest := by
        rw [List.getLastD_eq_getLast?, List.getLast?_eq_some_getLast (List.cons_ne_nil _ _)]
        exact List.getLast_mem _
      exact .tail _ (.tail _ hlast)
  · exact h

/-- The parts of a prediction are trimmed and not empty. -/
lemma Prediction.trimmed {x : Prediction} (h : part ∈ x.parts) :
    Text.trim part = part ∧ part ≠ "" := by
  obtain ⟨hmem, hne⟩ := List.mem_filter.mp (mem_of_mem_keyParts h)
  obtain ⟨component, -, rfl⟩ := List.mem_map.mp hmem
  exact ⟨Text.trim_trim component, by simpa using hne⟩

lemma blank_of_trimmed (htrim : Text.trim part = part) (hne : part ≠ "") :
    Text.blank part = false := by
  by_contra hblank
  refine hne ?_
  have hall : ∀ c ∈ part.toList, Text.isBlank c = true := by
    simpa [Text.blank] using hblank
  apply String.toList_inj.mp
  rw [← htrim, Text.toList_trim, Text.trimStart_eq_nil_iff.mpr hall]
  rfl

/-- Trimmed parts need not be trimmed again when they are joined. -/
lemma trim_joined_of_trimmed (h : ∀ part ∈ texts, Text.trim part = part ∧ part ≠ "") :
    Text.trim (Text.joined texts) = Text.joined texts := by
  cases texts with
  | nil => rfl
  | cons first rest =>
    obtain ⟨hfirst, -⟩ := h first List.mem_cons_self
    rcases List.eq_nil_or_concat rest with rfl | ⟨middle, last, rfl⟩
    · exact hfirst
    · rw [List.concat_eq_append] at h ⊢
      obtain ⟨hlast, hne⟩ := h last (by simp)
      have htrim := Text.trim_joined first last middle (blank_of_trimmed hlast hne)
      rwa [← hfirst, Text.trimStart_trim, ← hlast, Text.trimEnd_trim, String.ofList_toList,
        String.ofList_toList, hfirst, hlast] at htrim

/-- **Predictions** that suggest something look like a city if and only if their parts hold two or
three names. -/
theorem Prediction.isCityShaped_iff {x : Prediction} {s : Suggestion}
    (h : x.suggestion? = some s) : IsCityShaped (Text.trim s.value) ↔ HoldCity x.parts := by
  have hvalue : s.value = Text.joined x.parts ∧ x.parts ≠ [] := by
    simp only [Prediction.suggestion?] at h
    split at h
    · cases h
    · rename_i hempty
      cases h
      refine ⟨rfl, fun hnil => hempty ?_⟩
      rw [componentsText, show keyParts _ = _ from hnil]
      rfl
  obtain ⟨first, rest, hparts⟩ := List.exists_cons_of_ne_nil hvalue.2
  rw [hvalue.1, trim_joined_of_trimmed fun part hmem => trimmed hmem, hparts]
  exact isCityShaped_joined_iff first rest

/-! ### Entries of the city directory -/

/-- The parts of the text that is left of a record when it is trimmed. -/
def CityRecord.parts (r : CityRecord) : List String :=
  String.ofList (Text.trimStart r.city.toList) ::
    ((Text.nonBlank? r.region).toList ++ [String.ofList (Text.trimEnd r.country.toList)])

lemma HoldCity.ne_empty (h : HoldCity texts) : "" ∉ texts := by
  obtain ⟨groups, hgroups, -⟩ := h
  induction hgroups with
  | nil => simp
  | @cons part names texts groups hpart _ ih =>
    obtain ⟨hne, hnames, htext⟩ := hpart
    rw [List.mem_cons, not_or]
    refine ⟨?_, ih⟩
    rintro rfl
    obtain ⟨name, rest, rfl⟩ := List.exists_cons_of_ne_nil hne
    have hname := (hnames name List.mem_cons_self).toList_ne_nil
    have hnil := congrArg String.toList htext
    cases rest with
    | nil => exact hname hnil.symm
    | cons second rest =>
      rw [Text.toList_joined_cons] at hnil
      simp at hnil

/-- What looks like a city ends with a name, and not with a comma. -/
lemma IsCityShaped.ne_concat_comma {text : String} (h : IsCityShaped text) (before : List Char) :
    text.toList ≠ before ++ [','] := by
  obtain ⟨names, hlen, hnames, rfl⟩ := h
  intro htext
  rcases List.eq_nil_or_concat names with rfl | ⟨init, last, rfl⟩
  · simp at hlen
  · rw [List.concat_eq_append] at hnames htext
    have hlast := hnames last (by simp)
    obtain ⟨before', hbefore⟩ := Text.toList_joined_concat init
    rw [hbefore] at htext
    have hcomma := congrArg List.getLast? htext
    rw [List.getLast?_append_of_ne_nil _ hlast.toList_ne_nil, List.getLast?_concat] at hcomma
    exact hlast.comma_notMem (List.mem_of_getLast? hcomma)

/-- **Records** of the city directory look like a city if and only if what is left of their parts
holds two or three names. -/
theorem CityRecord.isCityShaped_iff (r : CityRecord) :
    IsCityShaped (Text.trim r.suggestion.value) ↔ HoldCity r.parts := by
  have hvalue : r.suggestion.value =
      Text.joined (r.city :: ((Text.nonBlank? r.region).toList ++ [r.country])) := rfl
  rw [hvalue]
  cases hblank : Text.blank r.country with
  | false =>
    rw [Text.trim_joined _ _ _ hblank]
    exact isCityShaped_joined_iff _ _
  | true =>
    obtain ⟨before, hbefore⟩ := Text.trim_joined_blank r.city r.country
      (Text.nonBlank? r.region).toList hblank
    have hcountry : Text.trimEnd r.country.toList = [] :=
      Text.trimEnd_eq_nil_iff.mpr (by simpa [Text.blank] using hblank)
    exact iff_of_false (fun h => h.ne_concat_comma before hbefore)
      fun h => h.ne_empty (by simp [parts, hcountry])

end Whereto
