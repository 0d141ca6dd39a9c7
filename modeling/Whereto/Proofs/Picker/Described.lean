import Whereto.Proofs.Picker.Latest

/-!
Which region is shown. A city of the directory is named with the first of its two regions that is
not blank, and the address of a position too, where the other of the two names comes first. City
and country are shown as they are sent by the directory, and trimmed in an address; an address
without a city is no better than the coordinates. The locator keeps the address until another
lookup succeeds.
-/

namespace Whereto

open Json (Doc)
open Text (joined)

/-! ### Cities of the directory -/

/-- The parts of the name of a city. -/
def CityRecord.sentParts (doc : Doc) (city country : String) : List String :=
  city :: ((firstFilled (doc.sent? 1 "region") (doc.sent? 2 "admin_area_level_one")).toList ++
    [country])

lemma CityRecord.text_merge (city country : String) (region area : Option String) :
    (merge city region area country).token.text =
      joined (city :: ((firstFilled region area).toList ++ [country])) := by
  rw [token, merge, CityToken.text, CityToken.parts, CityToken.of, nonBlank?_or]

/-! ### Addresses -/

/-- The parts of the text for a position, by the document that is sent for its address. -/
def Address.sentParts (x : Coordinates) (doc : Doc) : List String :=
  partsFor x (doc.sent? 0 "city") (doc.sent? 1 "admin_area_level_one") (doc.sent? 2 "region")
    (doc.sent? 3 "country")

namespace Picker

variable {c : Course step} {n : ℕ}

/-- What is known when the geocoder has answered is kept until another lookup succeeds. -/
lemma Answered.knows (hp : ∀ n, (c.state n).Tidy) (h0 : c.start.jobs = []) {k job m : ℕ}
    {x : Coordinates} {result : Except Failure Address}
    (h : Answered c k n job (.address x) (.address result)) (hnm : n < m)
    (hnone : ∀ e, n < e → e < m → ∀ l, ¬ Succeeds c e l) :
    (c.state m).locator.Knows (some ⟨x, Address.spelled x result⟩) := by
  induction m, hnm using Nat.le_induction with
  | base =>
    obtain ⟨s, hs, hasks⟩ := h.pending.stage hp
    cases hasks with
    | describing =>
      exact knows_of_succeeds hp h0 ((succeeds_iff hp h0).mpr ⟨job, _, result, hs, h.input, rfl⟩)
  | succ m hnm ih =>
    have hknows := ih fun e hne hem => hnone e hne (by omega)
    exact (agrees_of_not_succeeds hp h0 (hnone m hnm (by omega))).knows hknows

/-- **Regions under two names.** The name of a city holds the region, or else the area, that is
sent for it and not blank, and neither if there is none. Once the geocoder has answered with a
document for a position, the locator knows the position with the address that the document gives,
until another lookup succeeds; there the area comes before the region, and no part is blank. -/
theorem region_of_either_name (doc : Doc) :
    (∀ {r : CityRecord}, CityRecord.decoder doc = .ok r →
      ∃ city country, doc.sent? 0 "city" = some city ∧ doc.sent? 3 "country" = some country ∧
        r.token.text = joined (CityRecord.sentParts doc city country)) ∧
    ∀ {a : Address}, Address.decoder doc = .ok a → ∀ x,
      (∀ part ∈ Address.sentParts x doc, Text.blank part = false) ∧
      ∀ {c : Course step} {o : PickerOptions} {primary : Primary}, c.start = new o primary →
        primary.waiting = [] → ∀ {k n m job : ℕ},
          Answered c k n job (.address x) (.address (.ok a)) → n < m →
          (∀ e, n < e → e < m → ∀ l, ¬ Succeeds c e l) →
          (c.state m).locator.Knows (some ⟨x, joined (Address.sentParts x doc)⟩) := by
  refine ⟨fun {r} h => ?_, fun {a} h x => ⟨fun part => Address.blank_of_mem_partsFor,
    fun {c o primary} hc hline {k n m job} hanswered hnm hnone => ?_⟩⟩
  · obtain ⟨city, country, hcity, hcountry, rfl⟩ := CityRecord.eq_merge h
    exact ⟨city, country, hcity, hcountry, CityRecord.text_merge city country _ _⟩
  · have hp (n : ℕ) : (c.state n).Tidy := tidy_state hc hline n
    have h0 : c.start.jobs = [] := by rw [hc]; rfl
    have htext : Address.spelled x (.ok a) = joined (Address.sentParts x doc) := by
      rw [← Address.describe_toOption, Except.toOption, Address.eq_merge h, Address.describe_merge,
        Address.sentParts]
    rw [← htext]
    exact hanswered.knows hp h0 hnm hnone

/-- What is sent for an address, with a region under its older name only. -/
def sentAddress : Json.Value :=
  .object [("country", .string "USA "), ("admin_area_level_one", .string " "),
    ("region", .string "TX"), ("city", .string " Austin")]

/-- A call for the position of the device, for which an address is found; a later call fails. -/
def arriving : Course step where
  start := new ⟨2, ⟨10000, true⟩⟩ .unloaded
  input
    | 0 => .start .locate
    | 1 => .reply 0 (.position (.ok ⟨30.25, -97.75⟩))
    | 2 => .focus
    | 3 => .reply 0 (.address (.ok ⟨some " Austin", some "TX", some "USA "⟩))
    | 4 => .start .useLocation
    | 5 => .expire 1
    | _ => .focus

/-- Both regions are told apart from the blank ones, and the address outlives the failing call. -/
theorem arriving_region :
    (CityRecord.decoder (CityRecord.sentValue (.string " ") (.string "TX")).doc =
        .ok ⟨"Austin", some "TX", "USA"⟩ ∧
      (CityRecord.token ⟨"Austin", some "TX", "USA"⟩).text = "Austin, TX, USA") ∧
    Address.decoder sentAddress.doc = .ok ⟨some " Austin", some "TX", some "USA "⟩ ∧
    Answered arriving 1 3 0 (.address ⟨30.25, -97.75⟩)
      (.address (.ok ⟨some " Austin", some "TX", some "USA "⟩)) ∧
    (arriving.state 9).locator.Knows (some ⟨⟨30.25, -97.75⟩, "Austin, TX, USA"⟩) := by
  have hcity : CityRecord.decoder (CityRecord.sentValue (.string " ") (.string "TX")).doc =
      .ok ⟨"Austin", some "TX", "USA"⟩ := by decide +kernel
  have haddress : Address.decoder sentAddress.doc =
      .ok ⟨some " Austin", some "TX", some "USA "⟩ := by decide +kernel
  have hask : arriving.output 1 = [.ask 0 (.address ⟨30.25, -97.75⟩)] := rfl
  have hanswered : Answered arriving 1 3 0 (.address ⟨30.25, -97.75⟩)
      (.address (.ok ⟨some " Austin", some "TX", some "USA "⟩)) := by
    refine ⟨⟨by decide, by simp [hask], fun m h1 h3 => ?_⟩, rfl⟩
    obtain rfl : m = 2 := by omega
    rintro ⟨⟩
  have hnone : ∀ e, 3 < e → e < 9 → ∀ l, ¬ Succeeds arriving e l := by
    rintro e h3 h9 l ⟨-, -, job, -, result, -, -, -, hi, -⟩
    have he : e = 4 ∨ e = 5 ∨ e = 6 ∨ e = 7 ∨ e = 8 := by omega
    rcases he with rfl | rfl | rfl | rfl | rfl <;> cases hi
  have hparts : Text.joined (Address.sentParts ⟨30.25, -97.75⟩ sentAddress.doc) =
      "Austin, TX, USA" := by decide +kernel
  refine ⟨⟨hcity, ?_⟩, haddress, hanswered, ?_⟩
  · obtain ⟨city, country, hc, hc', htext⟩ := (region_of_either_name _).1 hcity
    obtain rfl : "Austin" = city := Option.some.inj (Eq.trans (by decide +kernel) hc)
    obtain rfl : "USA" = country := Option.some.inj (Eq.trans (by decide +kernel) hc')
    rw [htext]
    decide +kernel
  · rw [← hparts]
    exact ((region_of_either_name _).2 haddress _).2 (c := arriving) rfl rfl hanswered
      (by decide) hnone

end Picker

end Whereto
