import Whereto.Proofs.Picker.Precise
import Whereto.Proofs.Place.Parts
import Whereto.Proofs.Text.Blank

/-!
Which places are accepted when no part of their address holds a comma. Then every part is one name,
and it is the letters alone that decide. The components of a prediction are trimmed one by one; the
fields of a record are not, so that white space inside its text counts as it was sent.
-/

namespace Whereto

open Text (joined trim trimStart trimEnd blank)

/-- Letters and spaces only. -/
def Lettered (s : String) : Prop := ∀ c ∈ s.toList, c = ' ' ∨ Text.isLetter c = true

instance (s : String) : Decidable (Lettered s) := List.decidableBAll _ s.toList

/-- The text holds no comma. -/
def Commaless (s : String) : Prop := ',' ∉ s.toList

instance (s : String) : Decidable (Commaless s) := inferInstanceAs (Decidable (¬ _))

variable {part s : String} {parts names : List String}

/-! ### Parts without commas -/

lemma comma_mem_joined (first second : String) (rest : List String) :
    ',' ∈ (joined (first :: second :: rest)).toList := by
  simp [Text.toList_joined_cons]

/-- A part without commas holds no name but itself. -/
lemma holds_iff_of_commaless (h : Commaless part) :
    Holds part names ↔ names = [part] ∧ IsPlaceName part := by
  constructor
  · rintro ⟨hne, hnames, htext⟩
    obtain ⟨name, rest, rfl⟩ := List.exists_cons_of_ne_nil hne
    cases rest with
    | nil =>
      obtain rfl : part = name := htext
      exact ⟨rfl, hnames part List.mem_cons_self⟩
    | cons second rest => exact absurd (htext ▸ comma_mem_joined name second rest) h
  · rintro ⟨rfl, hname⟩
    exact ⟨List.cons_ne_nil _ _, by simpa using hname, rfl⟩

lemma forall₂_holds_iff (h : ∀ part ∈ parts, Commaless part) {groups : List (List String)} :
    List.Forall₂ Holds parts groups ↔
      groups = parts.map ([·]) ∧ ∀ part ∈ parts, IsPlaceName part := by
  induction parts generalizing groups with
  | nil => simp [List.forall₂_nil_left_iff]
  | cons part parts ih =>
    obtain ⟨hpart, hparts⟩ := List.forall_mem_cons.mp h
    rw [List.forall₂_cons_left_iff, List.map_cons, List.forall_mem_cons]
    constructor
    · rintro ⟨names, groups, hholds, hrest, rfl⟩
      obtain ⟨rfl, hname⟩ := (holds_iff_of_commaless hpart).mp hholds
      obtain ⟨rfl, hnames⟩ := (ih hparts).mp hrest
      exact ⟨rfl, hname, hnames⟩
    · rintro ⟨rfl, hname, hnames⟩
      exact ⟨_, _, (holds_iff_of_commaless hpart).mpr ⟨rfl, hname⟩, (ih hparts).mpr ⟨rfl, hnames⟩,
        rfl⟩

/-- **Parts without commas** hold a city if and only if there are two or three, and each is a
name. -/
theorem holdCity_iff_of_commaless (h : ∀ part ∈ parts, Commaless part) :
    HoldCity parts ↔
      (parts.length = 2 ∨ parts.length = 3) ∧ ∀ part ∈ parts, IsPlaceName part := by
  have hflatten : (parts.map ([·])).flatten = parts := by simp [← List.flatMap_def]
  constructor
  · rintro ⟨groups, hgroups, hlen⟩
    obtain ⟨rfl, hnames⟩ := (forall₂_holds_iff h).mp hgroups
    exact ⟨by rwa [hflatten] at hlen, hnames⟩
  · rintro ⟨hlen, hnames⟩
    exact ⟨_, (forall₂_holds_iff h).mpr ⟨rfl, hnames⟩, by rwa [hflatten]⟩

/-! ### Predictions -/

lemma commaless_trim (h : Commaless s) : Commaless (trim s) :=
  fun hmem => h (Text.trim_subset s hmem)

/-- The components of the address that count: they are trimmed, and those that are blank are left
out. -/
def Prediction.named (x : Prediction) : List String :=
  (x.components.map trim).filter (!·.isEmpty)

/-- Two components count at least; the first, the second and the last of them are in letters and
spaces. -/
def Prediction.IsLettered (x : Prediction) : Prop :=
  ∃ first second rest, x.named = first :: second :: rest ∧ Lettered first ∧ Lettered second ∧
    Lettered ((second :: rest).getLast (List.cons_ne_nil _ _))

lemma Prediction.parts_eq (x : Prediction) : x.parts = keyParts x.named := rfl

lemma Prediction.commaless {x : Prediction} (h : ∀ component ∈ x.components, Commaless component)
    (hpart : part ∈ x.parts) : Commaless part := by
  obtain ⟨hmem, -⟩ := List.mem_filter.mp (mem_of_mem_keyParts hpart)
  obtain ⟨component, hcomponent, rfl⟩ := List.mem_map.mp hmem
  exact commaless_trim (h component hcomponent)

lemma length_keyParts (first second : String) (rest : List String) :
    (keyParts (first :: second :: rest)).length = 2 ∨
      (keyParts (first :: second :: rest)).length = 3 := by
  cases rest with
  | nil => exact .inl rfl
  | cons third rest => exact .inr rfl

/-- With two parts the second is the last. -/
lemma forall_mem_keyParts {P : String → Prop} (first second : String) (rest : List String) :
    (∀ part ∈ keyParts (first :: second :: rest), P part) ↔
      P first ∧ P second ∧ P ((second :: rest).getLast (List.cons_ne_nil _ _)) := by
  cases rest with
  | nil => simp [keyParts]
  | cons third rest =>
    have hlast : (third :: rest).getLastD third =
        (second :: third :: rest).getLast (List.cons_ne_nil _ _) := by
      rw [List.getLast_cons (List.cons_ne_nil third rest), List.getLastD_eq_getLast?,
        List.getLast?_eq_some_getLast (List.cons_ne_nil third rest), Option.getD_some]
    rw [keyParts, hlast]
    simp only [List.forall_mem_cons, List.not_mem_nil, false_imp_iff, implies_true, and_true]

lemma Prediction.holdCity_iff {x : Prediction}
    (h : ∀ component ∈ x.components, Commaless component) :
    HoldCity x.parts ↔ x.IsLettered := by
  have hname : (∀ part ∈ x.parts, IsPlaceName part) ↔ ∀ part ∈ x.parts, Lettered part :=
    forall₂_congr fun part hpart => and_iff_right (trimmed hpart).2
  rw [holdCity_iff_of_commaless fun part => Prediction.commaless h, hname, parts_eq]
  unfold IsLettered
  match x.named with
  | [] => simp [keyParts]
  | [only] => simp [keyParts]
  | first :: second :: rest =>
    rw [and_iff_right (length_keyParts first second rest), forall_mem_keyParts]
    constructor
    · exact fun hl => ⟨first, second, rest, rfl, hl⟩
    · rintro ⟨_, _, _, heq, hl⟩
      simp only [List.cons.injEq] at heq
      obtain ⟨rfl, rfl, rfl⟩ := heq
      exact hl

/-- A prediction suggests nothing if none of its components count. -/
lemma Prediction.not_isLettered {x : Prediction} (h : x.suggestion? = none) : ¬ x.IsLettered := by
  rintro ⟨first, second, rest, hnamed, -⟩
  have hempty : joined (keyParts x.named) = "" := by
    change (if (joined (keyParts x.named)).isEmpty then none else some _) = none at h
    by_contra hne
    rw [if_neg (by simpa using hne)] at h
    cases h
  have hcomma : ',' ∈ (joined (keyParts x.named)).toList := by
    rw [hnamed]
    cases rest with
    | nil => exact comma_mem_joined _ _ _
    | cons third rest => exact comma_mem_joined _ _ _
  simp [hempty] at hcomma

lemma Prediction.source_of_suggestion? {x : Prediction} {s : Suggestion}
    (h : x.suggestion? = some s) : s.source = .primary := by
  simp only [suggestion?] at h
  split at h
  · cases h
  · cases h
    rfl

/-! ### Records -/

/-- No field of the record holds a comma. -/
structure CityRecord.IsCommaless (r : CityRecord) : Prop where
  city : Commaless r.city
  region : ∀ region ∈ r.region, Commaless region
  country : Commaless r.country

/-- City and country are not blank. The city without the white space before it, the region unless
it is blank, and the country without the white space after it are in letters and spaces. -/
structure CityRecord.IsLettered (r : CityRecord) : Prop where
  city : blank r.city = false
  country : blank r.country = false
  cityLetters : Lettered (String.ofList (trimStart r.city.toList))
  regionLetters : ∀ region ∈ r.region, blank region = false → Lettered region
  countryLetters : Lettered (String.ofList (trimEnd r.country.toList))

lemma ofList_trimStart_ne_empty_iff : String.ofList (trimStart s.toList) ≠ "" ↔
    blank s = false := by
  rw [Ne, ← String.toList_inj, String.toList_ofList]
  simp [Text.trimStart_eq_nil_iff, blank]

lemma ofList_trimEnd_ne_empty_iff : String.ofList (trimEnd s.toList) ≠ "" ↔ blank s = false := by
  rw [Ne, ← String.toList_inj, String.toList_ofList]
  simp [Text.trimEnd_eq_nil_iff, blank]

lemma ne_empty_of_blank (h : blank part = false) : part ≠ "" := by
  rintro rfl
  cases h

lemma CityRecord.commaless {r : CityRecord} (h : r.IsCommaless) (hpart : part ∈ r.parts) :
    Commaless part := by
  simp only [parts, List.mem_cons, List.mem_append, Option.mem_toList, List.not_mem_nil,
    or_false] at hpart
  rcases hpart with rfl | hregion | rfl
  · rw [Commaless, String.toList_ofList]
    exact fun hmem => h.city ((List.dropWhile_sublist _).mem hmem)
  · exact h.region part (Text.mem_nonBlank?.mp hregion).1
  · rw [Commaless, String.toList_ofList]
    exact fun hmem => h.country ((List.rdropWhile_prefix _ _).mem hmem)

lemma CityRecord.holdCity_iff {r : CityRecord} (h : r.IsCommaless) :
    HoldCity r.parts ↔ r.IsLettered := by
  have hlen : r.parts.length = 2 ∨ r.parts.length = 3 := by
    unfold parts
    cases Text.nonBlank? r.region <;> simp
  rw [holdCity_iff_of_commaless fun part => CityRecord.commaless h, and_iff_right hlen]
  simp only [parts, List.forall_mem_cons, List.forall_mem_append, Option.mem_toList,
    List.not_mem_nil, false_imp_iff, implies_true, and_true]
  constructor
  · rintro ⟨hcity, hregion, hcountry⟩
    exact ⟨ofList_trimStart_ne_empty_iff.mp hcity.1, ofList_trimEnd_ne_empty_iff.mp hcountry.1,
      hcity.2, fun region hmem hblank => (hregion region (Text.mem_nonBlank?.mpr ⟨hmem, hblank⟩)).2,
      hcountry.2⟩
  · intro hl
    refine ⟨⟨ofList_trimStart_ne_empty_iff.mpr hl.city, hl.cityLetters⟩, fun region hmem => ?_,
      ⟨ofList_trimEnd_ne_empty_iff.mpr hl.country, hl.countryLetters⟩⟩
    obtain ⟨hmem, hblank⟩ := Text.mem_nonBlank?.mp hmem
    exact ⟨ne_empty_of_blank hblank, hl.regionLetters region hmem hblank⟩

namespace Picker

variable {p : Picker} {i : Input} {d : Destination}

/-- A suggestion that does not come from the position is accepted if it looks like a city. -/
lemma submitted_select_iff {s : Suggestion} (hi : p.Selects i s) (hs : s.source ≠ .geolocation) :
    .submitted (some d) ∈ ((p.step i).1.step .submit).2 ↔
      IsCityShaped (trim s.value) ∧ d = ⟨trim s.value, false⟩ := by
  rw [submitted_iff, field_of_selects hi, ← isCityText_iff]
  simp [Field.submit?, Field.select, Destination.resolve?, Destination.isValid, hs]

/-- **Which suggestions are accepted.** Whatever was in the field before, and however a suggestion
is selected: if it was made from a prediction none of whose components holds a comma, or from a
record none of whose fields does, then a submission gives a destination if and only if the place is
in letters and spaces, and the destination is the trimmed value of the suggestion and not precise. A
prediction that suggests nothing is not in letters and spaces. -/
theorem submitted_iff_isLettered (p : Picker) :
    (∀ x : Prediction, (∀ component ∈ x.components, Commaless component) →
      (x.suggestion? = none → ¬ x.IsLettered) ∧
      ∀ s, x.suggestion? = some s → ∀ i, p.Selects i s → ∀ d,
        (.submitted (some d) ∈ ((p.step i).1.step .submit).2 ↔
          x.IsLettered ∧ d = ⟨trim s.value, false⟩)) ∧
    (∀ r : CityRecord, r.IsCommaless → ∀ i, p.Selects i r.suggestion → ∀ d,
      (.submitted (some d) ∈ ((p.step i).1.step .submit).2 ↔
        r.IsLettered ∧ d = ⟨trim r.suggestion.value, false⟩)) := by
  refine ⟨fun x hx => ⟨Prediction.not_isLettered, fun s hs i hi d => ?_⟩, fun r hr i hi d => ?_⟩
  · have hsource : s.source ≠ .geolocation := by
      rw [Prediction.source_of_suggestion? hs]
      decide
    rw [submitted_select_iff hi hsource, Prediction.isCityShaped_iff hs, Prediction.holdCity_iff hx]
  · have hsource : r.suggestion.source ≠ .geolocation := by
      rw [show r.suggestion.source = .fallback from rfl]
      decide
    rw [submitted_select_iff hi hsource, CityRecord.isCityShaped_iff, CityRecord.holdCity_iff hr]

/-- A place with a blank component, white space around another and one more than are named. -/
def bocas : Prediction :=
  ⟨"Bocas", [" Bocas del Toro\t", "", "Colón", "Isla Colón", "Panamá"]⟩

/-- A record with white space around its text, and a region that is blank. -/
def porto : CityRecord := ⟨"\tPorto", some " ", "  Portugal\n"⟩

/-- Both are accepted: the white space that is left is made of spaces. -/
theorem bocas_porto_submitted :
    (∀ component ∈ bocas.components, Commaless component) ∧ porto.IsCommaless ∧
    bocas.suggestion? = some ⟨"Bocas", "Bocas del Toro, Colón, Panamá", .primary⟩ ∧
    ∀ p : Picker,
      .submitted (some ⟨"Bocas del Toro, Colón, Panamá", false⟩) ∈
        ((p.step (.select ⟨"Bocas", "Bocas del Toro, Colón, Panamá", .primary⟩)).1.step
          .submit).2 ∧
      .submitted (some ⟨"Porto,   Portugal", false⟩) ∈
        ((p.step (.select porto.suggestion)).1.step .submit).2 := by
  have hbocas : ∀ component ∈ bocas.components, Commaless component := by decide
  have hporto : porto.IsCommaless := ⟨by decide, by decide, by decide⟩
  have hmade : bocas.suggestion? = some ⟨"Bocas", "Bocas del Toro, Colón, Panamá", .primary⟩ := by
    decide +kernel
  have hnamed : bocas.named = ["Bocas del Toro", "Colón", "Isla Colón", "Panamá"] := by
    decide +kernel
  have hletters : bocas.IsLettered :=
    ⟨_, _, _, hnamed, by decide +kernel, by decide +kernel, by decide +kernel⟩
  have hrecord : porto.IsLettered :=
    ⟨by decide, by decide, by decide +kernel, by decide, by decide +kernel⟩
  refine ⟨hbocas, hporto, hmade, fun p => ⟨?_, ?_⟩⟩
  · exact (((submitted_iff_isLettered p).1 bocas hbocas).2 _ hmade _ .select _).mpr
      ⟨hletters, by decide +kernel⟩
  · exact ((submitted_iff_isLettered p).2 porto hporto _ .select _).mpr
      ⟨hrecord, by decide +kernel⟩

end Picker

end Whereto
