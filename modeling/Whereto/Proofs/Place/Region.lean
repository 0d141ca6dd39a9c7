import Whereto.Proofs.Json.Given
import Whereto.Proofs.RoundTrip

/-!
Regions that are sent under two names. A text under the preferred name is taken unless it is blank;
then the text under the other name is taken as it is. So a record can be left with a blank region.
It is written under the preferred name, and when it is read from there it counts as missing: these
are the records that do not come back.
-/

namespace Whereto

open Json Json.Decoder
open Json.RecordDecoder (slots_eq build_seq build_map build_field build_textOr)

/-! ### Two texts -/

/-- The first of two texts that is not blank. -/
def firstFilled (preferred other : Option String) : Option String :=
  (Text.nonBlank? preferred).or (Text.nonBlank? other)

/-- The preferred text is missing or blank, and there is another one, which is blank. -/
structure LeavesBlank (preferred other : Option String) : Prop where
  preferred : ∀ s ∈ preferred, Text.blank s = true
  other : ∃ s ∈ other, Text.blank s = true

variable {preferred other : Option String}

instance : Decidable (LeavesBlank preferred other) :=
  decidable_of_iff (preferred.all Text.blank = true ∧ other.any Text.blank = true)
    ⟨fun h => ⟨by simpa [Option.all_eq_true] using h.1, by simpa [Option.any_eq_true] using h.2⟩,
      fun h => ⟨by simpa [Option.all_eq_true] using h.1, by simpa [Option.any_eq_true] using h.2⟩⟩

lemma nonBlank?_or : Text.nonBlank? ((Text.nonBlank? preferred).or other) =
    firstFilled preferred other := by
  unfold firstFilled
  cases h : Text.nonBlank? preferred with
  | none => rfl
  | some s =>
    have hblank : Text.blank s = false := (Text.mem_nonBlank?.mp h).2
    simp [Text.nonBlank?, hblank]

/-- A blank text is left if and only if it is the other one and nothing stands before it. -/
lemma leavesBlank_iff : LeavesBlank preferred other ↔
    ∃ s ∈ (Text.nonBlank? preferred).or other, Text.blank s = true := by
  constructor
  · rintro ⟨hpreferred, hother⟩
    rwa [Text.nonBlank?_eq_none_iff.mpr hpreferred]
  · rintro ⟨s, hs, hblank⟩
    rcases Option.or_eq_some_iff.mp hs with hs | ⟨hnone, hs⟩
    · rw [(Text.mem_nonBlank?.mp hs).2] at hblank
      cases hblank
    · exact ⟨Text.nonBlank?_eq_none_iff.mp hnone, s, hs, hblank⟩

lemma nonBlank?_or_eq_self_iff :
    Text.nonBlank? ((Text.nonBlank? preferred).or other) = (Text.nonBlank? preferred).or other ↔
      ¬ LeavesBlank preferred other := by
  rw [leavesBlank_iff]
  constructor
  · rintro h ⟨s, hs, hblank⟩
    rw [← h, Text.mem_nonBlank?, hblank] at hs
    cases hs.2
  · intro h
    exact Text.nonBlank?_eq_self fun s hs => by simpa using fun hblank => h ⟨s, hs, hblank⟩

namespace CityRecord

/-- A record is made of what the document gives. -/
lemma eq_merge {doc : Doc} {r : CityRecord} (h : decoder doc = .ok r) :
    ∃ city country, doc.sent? 0 "city" = some city ∧ doc.sent? 3 "country" = some country ∧
      r = merge city (doc.sent? 1 "region") (doc.sent? 2 "admin_area_level_one") country := by
  obtain ⟨gs, hgs, hbuild⟩ := bind_eq_ok.mp h
  obtain rfl := slots_eq ["city", "region", "admin_area_level_one", "country"] rfl hgs
  obtain ⟨_, hthree, country, hcountry, rfl⟩ := build_seq.mp hbuild
  obtain ⟨_, htwo, area, harea, rfl⟩ := build_seq.mp hthree
  obtain ⟨_, hone, region, hregion, rfl⟩ := build_seq.mp htwo
  obtain ⟨city, hcity, rfl⟩ := build_map.mp hone
  obtain ⟨cityDoc, hcityDoc, hcity⟩ := build_field.mp hcity
  obtain ⟨countryDoc, hcountryDoc, hcountry⟩ := build_field.mp hcountry
  refine ⟨city, country, ?_, ?_, ?_⟩
  · exact Option.bind_eq_some_iff.mpr ⟨cityDoc, hcityDoc, text?_of_string hcity⟩
  · exact Option.bind_eq_some_iff.mpr ⟨countryDoc, hcountryDoc, text?_of_string hcountry⟩
  · rw [build_textOr harea, build_textOr hregion]
    rfl

/-- A record is read back without its region if that is blank. -/
lemma redecoded (r : CityRecord) : decodeText decoder r.toValue.render =
    .ok { r with region := Text.nonBlank? r.region } := by
  rw [decodeText_render r.exact_toValue r.decoder_doc, merge, Option.or_none]

end CityRecord

namespace Address

lemma eq_merge {doc : Doc} {a : Address} (h : decoder doc = .ok a) :
    a = merge (doc.sent? 0 "city") (doc.sent? 1 "admin_area_level_one") (doc.sent? 2 "region")
      (doc.sent? 3 "country") := by
  obtain ⟨gs, hgs, hbuild⟩ := bind_eq_ok.mp h
  obtain rfl := slots_eq ["city", "admin_area_level_one", "region", "country"] rfl hgs
  obtain ⟨_, hthree, country, hcountry, rfl⟩ := build_seq.mp hbuild
  obtain ⟨_, htwo, region, hregion, rfl⟩ := build_seq.mp hthree
  obtain ⟨_, hone, area, harea, rfl⟩ := build_seq.mp htwo
  obtain ⟨city, hcity, rfl⟩ := build_map.mp hone
  rw [build_textOr hcity, build_textOr harea, build_textOr hregion, build_textOr hcountry]
  rfl

lemma redecoded (a : Address) : decodeText decoder a.toValue.render =
    .ok { a with area := Text.nonBlank? a.area } := by
  rw [decodeText_render a.exact_toValue a.decoder_doc, merge, Option.or_none]

end Address

/-! ### Reading again -/

/-- **Records read again** from their own text. A city of the directory and an address are the same
as before unless the document from which they were first read left them with a blank region; then
they have none. -/
theorem redecoded_iff_not_leavesBlank (text : String) :
    (∀ {r : CityRecord}, decodeText CityRecord.decoder text = .ok r →
      decodeText CityRecord.decoder r.toValue.render =
        .ok { r with region := Text.nonBlank? r.region } ∧
      (decodeText CityRecord.decoder r.toValue.render = .ok r ↔
        ¬ LeavesBlank ((readDoc text).1.sent? 1 "region")
          ((readDoc text).1.sent? 2 "admin_area_level_one"))) ∧
    ∀ {a : Address}, decodeText Address.decoder text = .ok a →
      decodeText Address.decoder a.toValue.render =
        .ok { a with area := Text.nonBlank? a.area } ∧
      (decodeText Address.decoder a.toValue.render = .ok a ↔
        ¬ LeavesBlank ((readDoc text).1.sent? 1 "admin_area_level_one")
          ((readDoc text).1.sent? 2 "region")) := by
  refine ⟨fun {r} h => ⟨r.redecoded, ?_⟩, fun {a} h => ⟨a.redecoded, ?_⟩⟩
  · obtain ⟨city, country, -, -, rfl⟩ := CityRecord.eq_merge (decodeText_eq_ok.mp h).1
    rw [CityRecord.redecoded, ← nonBlank?_or_eq_self_iff]
    simp [CityRecord.merge]
  · obtain rfl := Address.eq_merge (decodeText_eq_ok.mp h).1
    rw [Address.redecoded, ← nonBlank?_or_eq_self_iff]
    simp [Address.merge]

/-- What the directory sends for a city, with its region under both names. -/
def CityRecord.sentValue (region area : Value) : Value :=
  .object [("city", .string "Austin"), ("region", region), ("admin_area_level_one", area),
    ("country", .string "USA")]

def Address.sentValue (area region : Value) : Value :=
  .object [("region", region), ("city", .string "Austin"), ("admin_area_level_one", area)]

/-- A blank text gives way to the other one, and what was read comes back. -/
theorem austin_redecoded :
    decodeText CityRecord.decoder (CityRecord.sentValue (.string " ") (.string "TX")).render =
      .ok ⟨"Austin", some "TX", "USA"⟩ ∧
    decodeText CityRecord.decoder (CityRecord.toValue ⟨"Austin", some "TX", "USA"⟩).render =
      .ok ⟨"Austin", some "TX", "USA"⟩ ∧
    decodeText Address.decoder (Address.sentValue .null (.string "TX")).render =
      .ok ⟨some "Austin", some "TX", none⟩ ∧
    decodeText Address.decoder (Address.toValue ⟨some "Austin", some "TX", none⟩).render =
      .ok ⟨some "Austin", some "TX", none⟩ := by
  have hcity : decodeText CityRecord.decoder
      (CityRecord.sentValue (.string " ") (.string "TX")).render =
        .ok ⟨"Austin", some "TX", "USA"⟩ := by decide +kernel
  have haddress : decodeText Address.decoder (Address.sentValue .null (.string "TX")).render =
      .ok ⟨some "Austin", some "TX", none⟩ := by decide +kernel
  refine ⟨hcity, ((redecoded_iff_not_leavesBlank _).1 hcity).2.mpr ?_, haddress,
    ((redecoded_iff_not_leavesBlank _).2 haddress).2.mpr ?_⟩
  · decide +kernel
  · decide +kernel

/-- A region that is sent blank under the older name is read, but it does not come back. -/
theorem blank_not_redecoded :
    decodeText CityRecord.decoder (CityRecord.sentValue .null (.string " ")).render =
      .ok ⟨"Austin", some " ", "USA"⟩ ∧
    decodeText CityRecord.decoder (CityRecord.toValue ⟨"Austin", some " ", "USA"⟩).render ≠
      .ok ⟨"Austin", some " ", "USA"⟩ ∧
    decodeText Address.decoder (Address.sentValue .null (.string " ")).render =
      .ok ⟨some "Austin", some " ", none⟩ ∧
    decodeText Address.decoder (Address.toValue ⟨some "Austin", some " ", none⟩).render ≠
      .ok ⟨some "Austin", some " ", none⟩ := by
  decide +kernel

end Whereto
