import Whereto.Failure
import Whereto.Proofs.Decimal.Plain
import Whereto.Proofs.Place.Region
import Whereto.Proofs.Text.Trim

/-!
The texts for a position. Coordinates are written as longitude and latitude, none of which is blank
or needs trimming. What the geocoder answers for a position is told by its city, if it has one, with
the region and the country that are not blank, and by the coordinates otherwise.
-/

namespace Whereto

open Text (joined)

/-! ### Coordinates -/

lemma Decimal.isBlank_of_isPlain {c : Char} (h : isPlain c = true) : Text.isBlank c = false := by
  have hbounds : 45 ≤ c.toNat ∧ c.toNat ≤ 122 := bounds_of_isPlain h
  simp only [Text.isBlank, Bool.or_eq_false_iff, Bool.and_eq_false_iff, decide_eq_false_iff_not,
    beq_eq_false_iff_ne]
  omega

lemma isBlank_render {x : Float} {c : Char} (h : c ∈ (coordinateStyle.render x).toList) :
    Text.isBlank c = false :=
  Decimal.isBlank_of_isPlain ((Decimal.plain_render coordinateStyle x).plain c h)

lemma blank_render (x : Float) : Text.blank (coordinateStyle.render x) = false := by
  have hne := (Decimal.plain_render coordinateStyle x).ne_nil
  obtain ⟨c, cs, hcs⟩ := List.exists_cons_of_ne_nil hne
  have hc : Text.isBlank c = false := isBlank_render (hcs ▸ List.mem_cons_self)
  simp [Text.blank, hcs, hc]

lemma Coordinates.text_eq (x : Coordinates) : x.text =
    coordinateStyle.render x.longitude ++ ", " ++ coordinateStyle.render x.latitude := rfl

/-- Coordinates are written without white space at either end. -/
lemma Coordinates.trim_text (x : Coordinates) : Text.trim x.text = x.text := by
  have htrim := Text.trim_joined (coordinateStyle.render x.longitude) _ []
    (blank_render x.latitude)
  rw [Text.trimStart_of_not_blank fun _ => isBlank_render,
    Text.trimEnd_of_not_blank fun _ => isBlank_render] at htrim
  simpa [text] using htrim

/-! ### Addresses -/

/-- A text that is not blank, without the white space around it. -/
def trimmed? (s : Option String) : Option String := (Text.nonBlank? s).map Text.trim

lemma blank_of_trimmed? {s : String} {s? : Option String} (h : s ∈ trimmed? s?) :
    Text.blank s = false := by
  obtain ⟨t, ht, rfl⟩ := Option.map_eq_some_iff.mp h
  rw [Text.blank_trim]
  exact (Text.mem_nonBlank?.mp ht).2

lemma blank_of_firstFilled {s : String} {preferred other : Option String}
    (h : s ∈ firstFilled preferred other) : Text.blank s = false := by
  rcases Option.or_eq_some_iff.mp h with hs | ⟨-, hs⟩ <;> exact (Text.mem_nonBlank?.mp hs).2

namespace Address

/-- The parts of the text for a position, when this is sent for its address. -/
def partsFor (x : Coordinates) (city area region country : Option String) : List String :=
  match trimmed? city, trimmed? country with
  | none, _ => [coordinateStyle.render x.longitude, coordinateStyle.render x.latitude]
  | some city, none => [city]
  | some city, some country => city :: ((firstFilled area region).toList ++ [country])

/-- The text for a position, by what the geocoder answers. -/
def spelled (x : Coordinates) : Except Failure Address → String
  | .ok a => joined (partsFor x a.city a.area none a.country)
  | .error _ => coordinateStyle.render x.longitude ++ ", " ++ coordinateStyle.render x.latitude

lemma describe_some (x : Coordinates) (a : Address) :
    describe x (some a) = joined (partsFor x a.city a.area none a.country) := by
  have hregion : firstFilled a.area none = Text.nonBlank? a.area := Option.or_none
  simp only [describe, text?, partsFor, trimmed?, hregion, Option.bind_some]
  cases Text.nonBlank? a.city with
  | none => rfl
  | some city => cases Text.nonBlank? a.country <;> rfl

lemma describe_toOption (x : Coordinates) (result : Except Failure Address) :
    describe x result.toOption = spelled x result := by
  cases result with
  | ok a => exact describe_some x a
  | error e => exact x.text_eq

lemma describe_merge (x : Coordinates) (city area region country : Option String) :
    describe x (some (merge city area region country)) =
      joined (partsFor x city area region country) := by
  have hregion : firstFilled ((Text.nonBlank? area).or region) none = firstFilled area region := by
    rw [firstFilled, nonBlank?_or]
    exact Option.or_none
  simp only [describe_some, merge, partsFor, hregion]

lemma blank_of_mem_partsFor {x : Coordinates} {city area region country : Option String}
    {part : String} (h : part ∈ partsFor x city area region country) :
    Text.blank part = false := by
  unfold partsFor at h
  split at h
  · simp only [List.mem_cons, List.not_mem_nil, or_false] at h
    rcases h with rfl | rfl <;> exact blank_render _
  · next hcity _ =>
    obtain rfl := List.mem_singleton.mp h
    exact blank_of_trimmed? hcity
  · next hcity hcountry =>
    simp only [List.mem_cons, List.mem_append, Option.mem_toList, List.not_mem_nil,
      or_false] at h
    rcases h with rfl | hregion | rfl
    · exact blank_of_trimmed? hcity
    · exact blank_of_firstFilled hregion
    · exact blank_of_trimmed? hcountry

end Address

end Whereto
