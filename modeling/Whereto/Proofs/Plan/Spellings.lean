import Whereto.Plan.Trip
import Whereto.Proofs.Json.Restated
import Whereto.Proofs.Json.Restored
import Whereto.Service.Backend

/-!
The two spellings in which details of plans and envelopes of results are sent. Each field is known
under its name in snake case and under the same name in Pascal case, so an answer says the same in
either spelling and in any mixture of the two.
-/

namespace Whereto

open Json
open Json.RecordDecoder (Takes Apart)

namespace PlaceDetail

/-- The fields of the details of a place, as they are sent. -/
def fields : List Slot :=
  ["id", "name", "url", "formatted_address", "photo_url", "summary"].map .plain

lemma takes_record : Takes record fields :=
  ((((((Takes.plain (by decide)).map mk).seq
    (.plain (by decide))).seq
    (.plainOr (by decide))).seq
    (.plainOr (by decide))).seq
    (.plainOr (by decide))).seq
    (.plainOr (by decide))

lemma apart_record : Apart record.rules := by decide

/-- The details of a place keep their meaning in a list of them. -/
lemma keeps_decoder : Decoder.Keeps decoder (Restated fields) :=
  fun _ _ _ h hp => takes_record.decoder_restated apart_record h hp

end PlaceDetail

namespace TripDetail

/-- The fields of the details of a plan, as they are sent. -/
def fields : List Slot :=
  [.plain "original_plan_id", .plain "lat_longs", .plain "place_categories",
    .listOf "place_details" PlaceDetail.fields, .plain "shown_active",
    .plain "travel_destination", .plain "travel_date", .plain "score", .plain "score_old"]

lemma takes_record : Takes record fields :=
  (((((((((Takes.plain (by decide)).map mk).seq
    (.plainOr (by decide))).seq
    (.plainOr (by decide))).seq
    (.fieldOr (by decide) PlaceDetail.keeps_decoder.list)).seq
    (.plainOr (by decide))).seq
    (.plainOr (by decide))).seq
    (.plainOr (by decide))).seq
    (.plainOr (by decide))).seq
    (.plainOr (by decide))

lemma apart_record : Apart record.rules := by decide

end TripDetail

namespace Backend

variable {α : Type}

/-- The field of an envelope, as it is sent. -/
def envelopeFields : List Slot := [.plain "results"]

lemma takes_envelope (d : Decoder α) :
    Takes (RecordDecoder.field? ["results", "Results"] d) envelopeFields :=
  .field? (by decide) d.optional.keeps_eq

lemma apart_envelope (d : Decoder α) :
    Apart (RecordDecoder.field? ["results", "Results"] d).rules :=
  List.pairwise_singleton _ _

end Backend

/-- **Two spellings.** What is read from the details of a plan, the details of a place or an
envelope of results is also read from every text that says the same: with any of the names in
either spelling, the members in any order and further members under names that are not known. -/
theorem reworded_decodes :
    (∀ {text text' : String} {t : TripDetail}, Reworded TripDetail.fields text text' →
      decodeText TripDetail.decoder text = .ok t → decodeText TripDetail.decoder text' = .ok t) ∧
    (∀ {text text' : String} {p : PlaceDetail}, Reworded PlaceDetail.fields text text' →
      decodeText PlaceDetail.decoder text = .ok p →
        decodeText PlaceDetail.decoder text' = .ok p) ∧
    ∀ {α : Type} (d : Decoder α) {text text' : String} {found : Option α},
      Reworded Backend.envelopeFields text text' →
        decodeText (Backend.envelope d) text = .ok found →
          decodeText (Backend.envelope d) text' = .ok found := by
  refine ⟨fun htext ht => ?_, fun htext hp => ?_, fun d _ _ _ htext hfound => ?_⟩
  · exact TripDetail.takes_record.decodeText_reworded TripDetail.apart_record htext ht
  · exact PlaceDetail.takes_record.decodeText_reworded PlaceDetail.apart_record htext hp
  · exact (Backend.takes_envelope d).decodeText_reworded (Backend.apart_envelope d) htext hfound

namespace PlaceDetail

/-- Details of a place as they are sent in snake case. -/
def briefValue : Value := .object [("id", .string "p"), ("name", .string "n")]

/-- The same details in Pascal case, in the other order and with something more. -/
def respelledValue : Value :=
  .object [("Name", .string "n"), ("ID", .string "p"), ("Open", .array [.bool true])]

lemma restated_brief : Restated fields briefValue.doc respelledValue.doc := by
  have hid : Respelled fields (.string (.of "id"), .string (.of "p"))
      (.string (.of "ID"), .string (.of "p")) :=
    .spelled (.head _) (keyText_of "id") (by decide) (keyText_of "ID") (by decide) rfl
  have hname : Respelled fields (.string (.of "name"), .string (.of "n"))
      (.string (.of "Name"), .string (.of "n")) :=
    .spelled (.tail _ (.head _)) (keyText_of "name") (by decide) (keyText_of "Name") (by decide) rfl
  have hopen : Foreign fields (.string (.of "Open"), .array [.word .true none] none) :=
    ⟨⟨"Open", keyText_of "Open", by decide⟩, rfl⟩
  exact .members (.cons hid (.cons hname .nil)) (List.forall_mem_singleton.mpr hopen)
    (.swap _ _ _)

end PlaceDetail

namespace TripDetail

def briefValue : Value :=
  .object [("original_plan_id", .string "a"), ("place_details", .array [PlaceDetail.briefValue])]

def respelledValue : Value :=
  .object [("PlaceDetails", .array [PlaceDetail.respelledValue]),
    ("original_plan_id", .string "a")]

lemma restated_brief : Restated fields briefValue.doc respelledValue.doc := by
  have hplaces : Respelled fields
      (.string (.of "place_details"), .array [PlaceDetail.briefValue.doc] none)
      (.string (.of "PlaceDetails"), .array [PlaceDetail.respelledValue.doc] none) :=
    .spelled (.tail _ (.tail _ (.tail _ (.head _)))) (keyText_of "place_details") (by decide)
      (keyText_of "PlaceDetails") (by decide) (.items (.cons PlaceDetail.restated_brief .nil))
  exact .members (.cons (.kept _) (.cons hplaces .nil)) (List.forall_mem_nil _) (.swap _ _ _)

end TripDetail

namespace Backend

/-- An envelope with the name of a city. -/
def foundValue (name : String) : Value := .object [(name, .object [("city", .string "c")])]

lemma restated_found :
    Restated envelopeFields (foundValue "results").doc (foundValue "Results").doc := by
  have hresults : Respelled envelopeFields
      (.string (.of "results"), (Value.object [("city", .string "c")]).doc)
      (.string (.of "Results"), (Value.object [("city", .string "c")]).doc) :=
    .spelled (.head _) (keyText_of "results") (by decide) (keyText_of "Results") (by decide) rfl
  exact .members (.cons hresults .nil) (List.forall_mem_nil _) (.refl _)

end Backend

lemma reworded_render {fields : List Slot} {v w : Value} (h : Restated fields v.doc w.doc)
    (hv : v.Exact) (hw : w.Exact) : Reworded fields v.render w.render := by
  refine ⟨?_, [], ?_, rfl⟩
  · rw [readDoc_render hv, readDoc_render hw]
    exact h
  · rw [readDoc_render hw]

/-- Answers in the other spelling, with their members in another order and one more of them. -/
theorem respelled_decodes :
    (Reworded TripDetail.fields TripDetail.briefValue.render TripDetail.respelledValue.render ∧
      ∃ t : TripDetail, (t.planId, t.places) = ("a", [⟨"p", "n", "", "", "", ""⟩]) ∧
        decodeText TripDetail.decoder TripDetail.briefValue.render = .ok t ∧
        decodeText TripDetail.decoder TripDetail.respelledValue.render = .ok t) ∧
    (Reworded PlaceDetail.fields PlaceDetail.briefValue.render
        PlaceDetail.respelledValue.render ∧
      decodeText PlaceDetail.decoder PlaceDetail.briefValue.render =
        .ok ⟨"p", "n", "", "", "", ""⟩ ∧
      decodeText PlaceDetail.decoder PlaceDetail.respelledValue.render =
        .ok ⟨"p", "n", "", "", "", ""⟩) ∧
    (Reworded Backend.envelopeFields (Backend.foundValue "results").render
        (Backend.foundValue "Results").render ∧
      decodeText (Backend.envelope Address.decoder) (Backend.foundValue "results").render =
        .ok (some ⟨some "c", none, none⟩) ∧
      decodeText (Backend.envelope Address.decoder) (Backend.foundValue "Results").render =
        .ok (some ⟨some "c", none, none⟩)) := by
  have hplan := reworded_render TripDetail.restated_brief
    ⟨trivial, ⟨⟨trivial, trivial, trivial⟩, trivial⟩, trivial⟩
    ⟨⟨⟨trivial, trivial, ⟨trivial, trivial⟩, trivial⟩, trivial⟩, trivial, trivial⟩
  have hplace := reworded_render PlaceDetail.restated_brief ⟨trivial, trivial, trivial⟩
    ⟨trivial, trivial, ⟨trivial, trivial⟩, trivial⟩
  have hfound := reworded_render Backend.restated_found ⟨⟨trivial, trivial⟩, trivial⟩
    ⟨⟨trivial, trivial⟩, trivial⟩
  have hread : (decodeText TripDetail.decoder TripDetail.briefValue.render).toOption.map
      (fun t => (t.planId, t.places)) = some ("a", [⟨"p", "n", "", "", "", ""⟩]) := by
    decide +kernel
  refine ⟨⟨hplan, ?_⟩, ⟨hplace, ?_⟩, hfound, ?_⟩
  · cases ht : decodeText TripDetail.decoder TripDetail.briefValue.render with
    | error f => simp [ht, Except.toOption] at hread
    | ok t =>
      rw [ht] at hread
      exact ⟨t, Option.some.inj hread, rfl, reworded_decodes.1 hplan ht⟩
  · have hp : decodeText PlaceDetail.decoder PlaceDetail.briefValue.render =
        .ok ⟨"p", "n", "", "", "", ""⟩ := by decide +kernel
    exact ⟨hp, reworded_decodes.2.1 hplace hp⟩
  · have ha : decodeText (Backend.envelope Address.decoder)
        (Backend.foundValue "results").render = .ok (some ⟨some "c", none, none⟩) := by
      decide +kernel
    exact ⟨ha, reworded_decodes.2.2 Address.decoder hfound ha⟩

end Whereto
