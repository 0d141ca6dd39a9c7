import Whereto.Place.Position
import Whereto.Place.Suggestion
import Whereto.Plan.Itinerary
import Whereto.Plan.Trip
import Whereto.Proofs.Json.Restored
import Whereto.Proofs.Text.Blank

/-!
Records written and read back. Each record is written with all its fields, and every field is
decoded as it was written. A city of the directory and an address are read under two names for the
region, and a blank region gives way to the other name, so they come back if the region is not
blank.
-/

namespace Whereto

open Json Json.Decoder
open Json.RecordDecoder (Sorts Reads)

namespace PlaceDetail

lemma exact_toValue (p : PlaceDetail) : p.toValue.Exact := by
  simp [toValue, Value.Exact, ExactMembers]

lemma decoder_doc (p : PlaceDetail) : decoder p.toValue.doc = .ok p := by
  have hsorts : Sorts record.rules
      ["id", "name", "url", "formatted_address", "photo_url", "summary"] := by decide
  refine Reads.decoder ?_ (by decide) hsorts
  exact ((((((Reads.field rfl (string_doc _)).map mk).seq
    (.field rfl (string_doc _))).seq
    (.fieldOr rfl (string_doc _))).seq
    (.fieldOr rfl (string_doc _))).seq
    (.fieldOr rfl (string_doc _))).seq
    (.fieldOr rfl (string_doc _))

end PlaceDetail

namespace Visit

lemma exact_toValue (v : Visit) : v.toValue.Exact := by
  simp [toValue, Value.Exact, ExactMembers]

lemma decoder_doc (v : Visit) : decoder v.toValue.doc = .ok v := by
  have hsorts : Sorts record.rules ["id", "place_name", "category", "start_time", "end_time",
      "address", "url", "place_icon_css_class"] := by decide
  refine Reads.decoder ?_ (by decide) hsorts
  exact ((((((((Reads.field rfl (string_doc _)).map mk).seq
    (.field rfl (string_doc _))).seq
    (.fieldOr rfl (string_doc _))).seq
    (.field rfl (uint32_doc _))).seq
    (.field rfl (uint32_doc _))).seq
    (.fieldOr rfl (string_doc _))).seq
    (.fieldOr rfl (string_doc _))).seq
    (.fieldOr rfl (string_doc _))

end Visit

namespace TravelPlan

lemma exact_toValue (p : TravelPlan) : p.toValue.Exact := by
  simp [toValue, Value.Exact, ExactMembers, exactItems_map Visit.exact_toValue]

lemma decoder_doc (p : TravelPlan) : decoder p.toValue.doc = .ok p := by
  have hsorts : Sorts record.rules ["id", "places", "saved", "planning_spec"] := by
    decide
  refine Reads.decoder ?_ (by decide) hsorts
  exact ((((Reads.field rfl (string_doc _)).map mk).seq
    (.fieldOr rfl (list_doc fun v _ => v.decoder_doc))).seq
    (.fieldOr rfl (bool_doc _))).seq
    (.fieldOr rfl (string_doc _))

end TravelPlan

namespace PlanAnswer

lemma exact_toValue (a : PlanAnswer) : a.toValue.Exact := by
  simp [toValue, Value.Exact, ExactMembers, exactItems_map TravelPlan.exact_toValue,
    exact_strings, exact_text?]

lemma decoder_doc (a : PlanAnswer) : decoder a.toValue.doc = .ok a := by
  have hsorts : Sorts record.rules
      ["travel_destination", "travel_plans", "trip_details_url", "error", "status_code"] := by
    decide
  refine Reads.decoder ?_ (by decide) hsorts
  exact (((((Reads.fieldOr rfl (string_doc _)).map mk).seq
    (.fieldOr rfl (list_doc fun p _ => p.decoder_doc))).seq
    (.fieldOr rfl (strings_doc _))).seq
    (.fieldOr rfl (optional_doc _))).seq
    (.fieldOr rfl (uint16_doc _))

end PlanAnswer

namespace Suggestion

lemma exact_toValue (s : Suggestion) : s.toValue.Exact := by
  simp [toValue, Source.toValue, Value.Exact, ExactMembers]

lemma decoder_doc (s : Suggestion) : decoder s.toValue.doc = .ok s := by
  have hsorts : Sorts record.rules ["label", "value", "source"] := by decide
  have hsource (s : Source) : Source.ofName? s.name = some s := by cases s <;> decide
  refine Reads.decoder ?_ (by decide) hsorts
  exact (((Reads.field rfl (string_doc _)).map mk).seq
    (.field rfl (string_doc _))).seq
    (.field rfl (choice_doc (hsource _)))

end Suggestion

namespace CityToken

lemma exact_toValue (t : CityToken) : t.toValue.Exact := by
  simp [toValue, Value.Exact, ExactMembers, exact_text?]

lemma decoder_doc (t : CityToken) : decoder t.toValue.doc = .ok t := by
  have hsorts : Sorts record.rules ["city", "region", "country"] := by decide
  refine Reads.decoder ?_ (by decide) hsorts
  exact (((Reads.field rfl (string_doc _)).map mk).seq
    (.field? rfl (optional_doc _))).seq
    (.field rfl (string_doc _))

end CityToken

namespace CityRecord

lemma exact_toValue (r : CityRecord) : r.toValue.Exact := by
  simp [toValue, Value.Exact, ExactMembers, exact_text?]

lemma decoder_doc (r : CityRecord) :
    decoder r.toValue.doc = .ok (merge r.city r.region none r.country) := by
  have hsorts : Sorts record.rules ["city", "region", "country"] := by decide
  refine Reads.decoder ?_ (by decide) hsorts
  exact ((((Reads.field rfl (string_doc _)).map merge).seq
    (.fieldOr rfl (optional_doc _))).seq
    (.default rfl)).seq
    (.field rfl (string_doc _))

lemma merge_region {r : CityRecord} (h : ∀ region ∈ r.region, Text.blank region = false) :
    merge r.city r.region none r.country = r := by
  rw [merge, Text.nonBlank?_eq_self h, Option.or_none]

end CityRecord

namespace Address

lemma exact_toValue (a : Address) : a.toValue.Exact := by
  simp [toValue, Value.Exact, ExactMembers, exact_text?]

lemma decoder_doc (a : Address) :
    decoder a.toValue.doc = .ok (merge a.city a.area none a.country) := by
  have hsorts : Sorts record.rules ["city", "admin_area_level_one", "country"] := by
    decide
  refine Reads.decoder ?_ (by decide) hsorts
  exact ((((Reads.fieldOr rfl (optional_doc _)).map merge).seq
    (.fieldOr rfl (optional_doc _))).seq
    (.default rfl)).seq
    (.fieldOr rfl (optional_doc _))

lemma merge_area {a : Address} (h : ∀ area ∈ a.area, Text.blank area = false) :
    merge a.city a.area none a.country = a := by
  rw [merge, Text.nonBlank?_eq_self h, Option.or_none]

end Address

/-- **Records written and read back.** Suggestions, names of cities, visits, travel plans, answers
to plan requests and details of places are read from their own text as they were. So are cities of
the directory and addresses, unless their region is blank. -/
theorem read_written :
    (∀ s : Suggestion, decodeText Suggestion.decoder s.toValue.render = .ok s) ∧
    (∀ t : CityToken, decodeText CityToken.decoder t.toValue.render = .ok t) ∧
    (∀ v : Visit, decodeText Visit.decoder v.toValue.render = .ok v) ∧
    (∀ p : TravelPlan, decodeText TravelPlan.decoder p.toValue.render = .ok p) ∧
    (∀ a : PlanAnswer, decodeText PlanAnswer.decoder a.toValue.render = .ok a) ∧
    (∀ p : PlaceDetail, decodeText PlaceDetail.decoder p.toValue.render = .ok p) ∧
    (∀ r : CityRecord, (∀ region ∈ r.region, Text.blank region = false) →
      decodeText CityRecord.decoder r.toValue.render = .ok r) ∧
    ∀ a : Address, (∀ area ∈ a.area, Text.blank area = false) →
      decodeText Address.decoder a.toValue.render = .ok a := by
  refine ⟨fun s => ?_, fun t => ?_, fun v => ?_, fun p => ?_, fun a => ?_, fun p => ?_,
    fun r hr => ?_, fun a ha => ?_⟩
  · exact decodeText_render s.exact_toValue s.decoder_doc
  · exact decodeText_render t.exact_toValue t.decoder_doc
  · exact decodeText_render v.exact_toValue v.decoder_doc
  · exact decodeText_render p.exact_toValue p.decoder_doc
  · exact decodeText_render a.exact_toValue a.decoder_doc
  · exact decodeText_render p.exact_toValue p.decoder_doc
  · rw [decodeText_render r.exact_toValue r.decoder_doc, CityRecord.merge_region hr]
  · rw [decodeText_render a.exact_toValue a.decoder_doc, Address.merge_area ha]

/-- A city and an address whose regions are not blank, read back. -/
theorem austin_read_written :
    (∀ region ∈ some "TX", Text.blank region = false) ∧
    decodeText CityRecord.decoder (CityRecord.toValue ⟨"Austin", some "TX", "USA"⟩).render =
      .ok ⟨"Austin", some "TX", "USA"⟩ ∧
    decodeText Address.decoder (Address.toValue ⟨some "Austin", some "TX", none⟩).render =
      .ok ⟨some "Austin", some "TX", none⟩ := by
  have hregion : ∀ region ∈ some "TX", Text.blank region = false := by
    rintro _ ⟨⟩
    decide
  obtain ⟨-, -, -, -, -, -, hcity, haddress⟩ := read_written
  exact ⟨hregion, hcity _ hregion, haddress _ hregion⟩

end Whereto
