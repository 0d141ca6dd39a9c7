import Mathlib.Tactic.Lemma
import Whereto.Proofs.Json.Record

/-!
What a document gives for the fields of a record: in an object under their names, in an array at
their places. A record that is read is made of what was given for its fields, so it can be said in
terms of the document what the record is.
-/

namespace Whereto.Json

variable {α β : Type}

/-- The text of a string. -/
def Doc.text? : Doc → Option String
  | .string q => q.text.toOption
  | _ => none

/-- What a document gives for a field. -/
def Doc.given? (place : Nat) (name : String) : Doc → Option Doc
  | .object ms _ => (ms.find? fun m => m.1.text? = some name).map Prod.snd
  | .array ds _ => ds[place]?
  | _ => none

/-- The text that a document gives for a field; null counts as nothing. -/
def Doc.sent? (place : Nat) (name : String) (doc : Doc) : Option String :=
  (doc.given? place name).bind Doc.text?

lemma keyText_eq_ok {doc : Doc} {name : String} :
    keyText doc = .ok name ↔ doc.text? = some name := by
  cases doc with
  | string q =>
    simp only [keyText, Doc.text?]
    cases q.text <;> simp [Except.toOption]
  | _ => simp [keyText, Doc.text?]

lemma Decoder.text?_of_string {doc : Doc} {s : String} (h : string doc = .ok s) :
    doc.text? = some s := by
  cases doc with
  | string q => exact keyText_eq_ok.mp h
  | _ => cases h

lemma Decoder.text?_of_optional {doc : Doc} {s? : Option String}
    (h : optional string doc = .ok s?) : doc.text? = s? := by
  unfold optional at h
  split at h
  · exact Except.ok.inj h
  · cases h
  · obtain ⟨s, hs, rfl⟩ := map_eq_ok.mp h
    exact text?_of_string hs

namespace RecordDecoder

variable {rules : List FieldRule} {doc : Doc} {given : List (Option Doc)}

/-! ### Slots -/

lemma given?_eq_find? {rule : FieldRule} {name : String} {ms : List (Doc × Doc)}
    (h : rule.names = [name]) :
    given? rule ms = (ms.find? fun m => m.1.text? = some name).map Prod.snd := by
  unfold given?
  induction ms with
  | nil => rfl
  | cons m ms ih =>
    rw [List.findSome?_cons, List.find?_cons, ih]
    cases hkey : keyText m.1 with
    | error f =>
      have hne : m.1.text? ≠ some name := by simp [← keyText_eq_ok, hkey]
      simp [hne]
    | ok key =>
      rw [keyText_eq_ok.mp hkey]
      by_cases hname : key = name <;> simp [h, hname]

lemma orderedSlots_eq {cut : Option Fault} {ds : List Doc}
    (h : orderedSlots cut rules ds = .ok given) :
    given = rules.mapIdx fun i _ => ds[i]? := by
  induction rules generalizing ds given with
  | nil =>
    cases ds with
    | nil =>
      cases cut with
      | none => exact (Except.ok.inj h).symm
      | some f => cases h
    | cons d ds => cases h
  | cons rule rules ih =>
    rw [List.mapIdx_cons]
    cases ds with
    | nil =>
      simp only [orderedSlots] at h
      split at h
      · cases h
      · split at h
        · cases h
        · obtain ⟨rest, hrest, rfl⟩ := map_eq_ok.mp h
          rw [ih hrest]
          rfl
    | cons d ds =>
      simp only [orderedSlots] at h
      split at h
      · cases h
      · obtain ⟨rest, hrest, rfl⟩ := map_eq_ok.mp h
        rw [ih hrest]
        rfl

/-- **What was given**, for fields of one name each. -/
theorem slots_eq (names : List String) (hnames : rules.map (·.names) = names.map ([·]))
    (h : slots rules doc = .ok given) :
    given = names.mapIdx fun i name => doc.given? i name := by
  refine List.ext_getElem? fun i => ?_
  have hi : rules[i]?.map (·.names) = names[i]?.map ([·]) := by
    simpa only [List.getElem?_map] using congrArg (·[i]?) hnames
  rw [List.getElem?_mapIdx]
  cases doc with
  | object ms cut =>
    obtain ⟨-, -, rfl⟩ := namedSlots_eq_ok.mp h
    rw [List.getElem?_map]
    cases hrule : rules[i]? with
    | none =>
      rw [hrule] at hi
      rw [Option.map_eq_none_iff.mp hi.symm]
      rfl
    | some rule =>
      rw [hrule] at hi
      obtain ⟨name, hname, hsingle⟩ := Option.map_eq_some_iff.mp hi.symm
      rw [hname, Option.map_some, Option.map_some, given?_eq_find? hsingle.symm]
      rfl
  | array ds cut =>
    rw [orderedSlots_eq h, List.getElem?_mapIdx]
    cases hrule : rules[i]? <;> cases hname : names[i]? <;> simp_all [Doc.given?]
  | _ => cases h

/-! ### Building records -/

variable {gs : List (Option Doc)} {b : β}

lemma build_seq {f : RecordDecoder (α → β)} {x : RecordDecoder α} :
    (f <*> x).build gs = .ok b ↔
      ∃ g, f.build (gs.take f.rules.length) = .ok g ∧
        ∃ a, x.build (gs.drop f.rules.length) = .ok a ∧ g a = b := by
  show (ap f x).build gs = .ok b ↔ _
  simp [ap, bind_eq_ok, Pure.pure, Except.pure]

lemma build_map {f : α → β} {x : RecordDecoder α} :
    (f <$> x).build gs = .ok b ↔ ∃ a, x.build gs = .ok a ∧ f a = b := by
  show (ap (pure f) x).build gs = .ok b ↔ _
  simp [ap, pure, bind_eq_ok, Pure.pure, Except.pure]

lemma build_field {names : List String} {d : Decoder α} {g : Option Doc} {a : α} :
    (field names d).build [g] = .ok a ↔ ∃ doc ∈ g, d doc = .ok a := by
  cases g <;> simp [field]

lemma build_textOr {names : List String} {g : Option Doc} {s? : Option String}
    (h : (fieldOr names (Decoder.optional Decoder.string) none).build [g] = .ok s?) :
    s? = g.bind Doc.text? := by
  cases g with
  | none => exact (Except.ok.inj h).symm
  | some doc => exact (Decoder.text?_of_optional h).symm

end RecordDecoder

end Whereto.Json
