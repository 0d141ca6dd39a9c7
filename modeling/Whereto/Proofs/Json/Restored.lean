import Mathlib.Tactic.Lemma
import Whereto.Proofs.Json.Record
import Whereto.Proofs.Json.Written

/-!
Decoders applied to what was written. Strings, flags, naturals, lists and choices are decoded as
the values from which they were written. A record is decoded from the members of an object if each
of its fields is, whatever the order of the members and the fields.
-/

namespace Whereto.Json

variable {α β : Type}

lemma memberDocs_eq_map (ms : List (String × Value)) :
    memberDocs ms = ms.map fun m => (.string (.of m.1), m.2.doc) := by
  induction ms with
  | nil => rfl
  | cons m ms ih => rw [memberDocs, ih, List.map_cons]

lemma exactItems_map {f : α → Value} (h : ∀ a, (f a).Exact) (as : List α) :
    ExactItems (as.map f) := by
  induction as with
  | nil => trivial
  | cons a as ih => exact ⟨h a, ih⟩

lemma exact_strings (ss : List String) : (Value.strings ss).Exact := by
  have hstring (s : String) : (Value.string s).Exact := trivial
  exact exactItems_map hstring ss

lemma exact_text? (s? : Option String) : (Value.text? s?).Exact := by
  cases s? <;> trivial

/-! ### Strings and numbers -/

lemma pieceChars_unit {cut : Option Fault} {n : Nat} {ps : List Piece} (h : n < 0xD800) :
    pieceChars cut (.unit n :: ps) = (pieceChars cut ps).map (Char.ofNat n :: ·) := by
  rw [pieceChars.eq_def]
  exact if_pos (.inl h)

lemma pieceChars_map (cs : List Char) : pieceChars none (cs.map pieceOf) = .ok cs := by
  induction cs with
  | nil => rfl
  | cons c cs ih =>
    rw [List.map_cons, pieceOf]
    split
    · rw [pieceChars, ih]
      rfl
    · split
      · next hcontrol =>
        rw [pieceChars_unit (by omega), ih, Char.ofNat_toNat]
        rfl
      · rw [pieceChars, ih]
        rfl

lemma Quoted.text_of (s : String) : (Quoted.of s).text = .ok s := by
  rw [Quoted.text, Quoted.of, pieceChars_map, Except.map, String.ofList_toList]

lemma keyText_of (s : String) : keyText (.string (.of s)) = .ok s := Quoted.text_of s

/-- Digits are collected as long as their number fits. -/
lemma collect_of_lt {s : Nat} {ds : List Char} (h : Nat.ofDigitChars 10 ds s < wordLimit) :
    collect s ds = (Nat.ofDigitChars 10 ds s, []) := by
  induction ds generalizing s with
  | nil => rfl
  | cons d ds ih =>
    rw [Nat.ofDigitChars_cons] at h ⊢
    have hstep : s * 10 + Decimal.digitValue d = 10 * s + (d.toNat - '0'.toNat) := by
      rw [Nat.mul_comm, Decimal.digitValue]
    have hfits : ¬wordLimit ≤ s * 10 + Decimal.digitValue d := by
      rw [Nat.ofDigitChars_eq_ofDigitChars_zero, ← hstep] at h
      have hscale := Nat.le_mul_of_pos_left (s * 10 + Decimal.digitValue d)
        (Nat.pow_pos (n := ds.length) (show 0 < 10 by decide))
      omega
    rw [collect, if_neg hfits, hstep, ih h]

lemma read_ofInt {n : Nat} (h : n < wordLimit) :
    (Numeral.ofInt n).read = .ok (.natural n) := by
  have hvalue : Nat.ofDigitChars 10 (Nat.toDigits 10 n) 0 = n := Nat.ofDigitChars_ten_toDigits
  have hcollect : collect 0 (Nat.toDigits 10 n) = (n, []) := by
    rw [collect_of_lt (hvalue.symm ▸ h), hvalue]
  have hsign : ¬(n : Int) < 0 := by omega
  simp [Numeral.read, Numeral.ofInt, Numeral.amount, hcollect, hsign]

namespace Decoder

lemma string_doc (s : String) : string (Value.string s).doc = .ok s := Quoted.text_of s

lemma bool_doc (b : Bool) : bool (Value.bool b).doc = .ok b := by
  cases b <;> rfl

lemma natBelow_doc {limit n : Nat} (hn : n < limit) (hlimit : limit ≤ wordLimit) :
    natBelow limit (Value.int n).doc = .ok n := by
  have hread := read_ofInt (Nat.lt_of_lt_of_le hn hlimit)
  simp [Value.doc, natBelow, hread, hn]

lemma uint16_doc (n : UInt16) : uint16 (Value.int n.toNat).doc = .ok n := by
  rw [uint16, natBelow_doc n.toNat_lt (by decide), Except.map, UInt16.ofNat_toNat]

lemma uint32_doc (n : UInt32) : uint32 (Value.int n.toNat).doc = .ok n := by
  rw [uint32, natBelow_doc n.toNat_lt (by decide), Except.map, UInt32.ofNat_toNat]

lemma optional_doc (s? : Option String) : optional string (Value.text? s?).doc = .ok s? := by
  cases s? with
  | none => rfl
  | some s =>
    show (string (Value.string s).doc).map some = .ok (some s)
    rw [string_doc, Except.map]

lemma list_doc {d : Decoder α} {f : α → Value} {as : List α}
    (h : ∀ a ∈ as, d (f a).doc = .ok a) : list d (Value.array (as.map f)).doc = .ok as := by
  show items d none (itemDocs (as.map f)) = .ok as
  induction as with
  | nil => rfl
  | cons a as ih =>
    obtain ⟨ha, has⟩ := List.forall_mem_cons.mp h
    exact bind_eq_ok.mpr ⟨a, ha, bind_eq_ok.mpr ⟨as, ih has, rfl⟩⟩

lemma strings_doc (ss : List String) : list string (Value.strings ss).doc = .ok ss :=
  list_doc fun s _ => string_doc s

lemma choice_doc {named? : String → Option α} {name : String} {a : α}
    (h : named? name = some a) : choice named? (Value.string name).doc = .ok a := by
  refine bind_eq_ok.mpr ⟨name, Quoted.text_of name, ?_⟩
  rw [h]

end Decoder

/-! ### Records -/

/-- What an object gives under any of the names. -/
def Value.member? (names : List String) (ms : List (String × Value)) : Option Value :=
  (ms.find? fun m => names.contains m.1).map Prod.snd

namespace RecordDecoder

variable {rules : List FieldRule} {rule : FieldRule} {ms : List (String × Value)}

lemma given?_memberDocs :
    given? rule (memberDocs ms) = (Value.member? rule.names ms).map Value.doc := by
  rw [memberDocs_eq_map, given?, Value.member?]
  induction ms with
  | nil => rfl
  | cons m ms ih =>
    rw [List.map_cons, List.findSome?_cons, List.find?_cons, keyText_of]
    dsimp only
    cases rule.names.contains m.1 with
    | true => rfl
    | false => exact ih

/-- The keys are names of fields, each of another one. -/
def Sorts (rules : List FieldRule) (keys : List String) : Prop :=
  (∀ key ∈ keys, (position? rules key).isSome) ∧ (keys.filterMap (position? rules)).Nodup

instance (rules : List FieldRule) (keys : List String) : Decidable (Sorts rules keys) :=
  inferInstanceAs (Decidable (_ ∧ _))

/-- An object gives what a record is made of. -/
structure Reads (r : RecordDecoder α) (ms : List (String × Value)) (a : α) : Prop where
  full : ∀ rule ∈ r.rules, rule.inObject → (Value.member? rule.names ms).isSome
  fine : ∀ rule ∈ r.rules, ∀ v ∈ Value.member? rule.names ms, rule.fault? v.doc = none
  build : r.build (r.rules.map fun rule => (Value.member? rule.names ms).map Value.doc) = .ok a

lemma once_memberDocs (h : Sorts rules (ms.map Prod.fst)) : Once rules (memberDocs ms) := by
  have hplaces : (memberDocs ms).filterMap (place? rules) =
      (ms.map Prod.fst).filterMap (position? rules) := by
    rw [memberDocs_eq_map, List.filterMap_map, List.filterMap_map]
    exact congrArg (List.filterMap · ms) (funext fun m => place?_of_keyText (keyText_of m.1))
  rw [Once, hplaces]
  exact h.2

lemma Reads.decoder {r : RecordDecoder α} {a : α} (h : r.Reads ms a) (hapart : Apart r.rules)
    (hsorts : Sorts r.rules (ms.map Prod.fst)) :
    r.decoder (Value.object ms).doc = .ok a := by
  have honce := once_memberDocs hsorts
  refine decoder_object_iff.mpr ⟨rfl, ⟨?_, honce, ?_⟩, ?_⟩
  · intro m hm
    rw [memberDocs_eq_map] at hm
    obtain ⟨⟨key, v⟩, hmem, rfl⟩ := List.mem_map.mp hm
    obtain ⟨i, hi⟩ := Option.isSome_iff_exists.mp (hsorts.1 key (List.mem_map_of_mem hmem))
    obtain ⟨rule, hrule, -⟩ := exists_of_position? hi
    -- the member is what is given for its field
    have hgiven : given? rule (memberDocs ms) = some v.doc :=
      (given?_eq_some_iff hapart honce hrule).mpr
        ⟨_, memberDocs_eq_map ms ▸ hm, (place?_of_keyText (keyText_of key)).trans hi, rfl⟩
    rw [given?_memberDocs] at hgiven
    obtain ⟨w, hw, hdoc⟩ := Option.map_eq_some_iff.mp hgiven
    rw [fits_iff_of_some (keyText_of key) hi, hrule]
    exact hdoc ▸ h.fine rule (List.mem_of_getElem? hrule) w hw
  · intro rule hrule hfull
    rw [given?_memberDocs]
    simpa using h.full rule hrule hfull
  · simpa only [given?_memberDocs] using h.build

/-! ### Putting records together -/

lemma Reads.pure (a : α) : (pure a).Reads ms a := ⟨nofun, nofun, rfl⟩

lemma Reads.ap {f : RecordDecoder (α → β)} {x : RecordDecoder α} {g : α → β} {a : α}
    (hf : f.Reads ms g) (hx : x.Reads ms a) : (ap f x).Reads ms (g a) where
  full rule hrule := (List.mem_append.mp hrule).elim (hf.full rule) (hx.full rule)
  fine rule hrule := (List.mem_append.mp hrule).elim (hf.fine rule) (hx.fine rule)
  build := by
    have hlength : (f.rules.map fun rule => (Value.member? rule.names ms).map Value.doc).length =
        f.rules.length := List.length_map _
    simp only [RecordDecoder.ap, List.map_append, List.take_left' hlength,
      List.drop_left' hlength]
    exact bind_eq_ok.mpr ⟨g, hf.build, bind_eq_ok.mpr ⟨a, hx.build, rfl⟩⟩

lemma Reads.map {x : RecordDecoder α} {a : α} (f : α → β) (hx : x.Reads ms a) :
    (f <$> x).Reads ms (f a) :=
  (Reads.pure f).ap hx

lemma Reads.seq {f : RecordDecoder (α → β)} {x : RecordDecoder α} {g : α → β} {a : α}
    (hf : f.Reads ms g) (hx : x.Reads ms a) : (f <*> x).Reads ms (g a) :=
  hf.ap hx

section Fields

variable {d : Decoder α} {names : List String} {v : Value} {a : α}

lemma reads_single (h : Value.member? names ms = some v) (hv : d v.doc = .ok a)
    {inObject inArray : Bool} {build : List (Option Doc) → Except Fault α}
    (hbuild : ∀ doc, build [some doc] = d doc) :
    Reads ⟨[⟨names, inObject, inArray, d.fault?⟩], build⟩ ms a where
  full rule hrule _ := by
    obtain rfl := List.mem_singleton.mp hrule
    rw [h]
    rfl
  fine rule hrule w hw := by
    obtain rfl := List.mem_singleton.mp hrule
    obtain rfl := Option.some.inj (h.symm.trans hw)
    exact Decoder.fault?_eq_none_iff.mpr ⟨a, hv⟩
  build := by
    rw [List.map_singleton, h]
    exact (hbuild _).trans hv

lemma Reads.field (h : Value.member? names ms = some v) (hv : d v.doc = .ok a) :
    (field names d).Reads ms a :=
  reads_single h hv fun _ => rfl

lemma Reads.fieldOr {default : α} (h : Value.member? names ms = some v) (hv : d v.doc = .ok a) :
    (fieldOr names d default).Reads ms a :=
  reads_single h hv fun _ => rfl

lemma Reads.field? {a : Option α} (h : Value.member? names ms = some v)
    (hv : d.optional v.doc = .ok a) : (field? names d).Reads ms a :=
  reads_single h hv fun _ => rfl

lemma Reads.default {default : α} (h : Value.member? names ms = none) :
    (RecordDecoder.fieldOr names d default).Reads ms default where
  full rule hrule hfull := by
    obtain rfl := List.mem_singleton.mp hrule
    cases hfull
  fine rule hrule w hw := by
    obtain rfl := List.mem_singleton.mp hrule
    rw [h] at hw
    cases hw
  build := by
    rw [RecordDecoder.fieldOr, List.map_singleton, h]
    rfl

end Fields

end RecordDecoder

/-- What is read from the text of a value is what the decoder makes of the value. -/
lemma decodeText_render {d : Decoder α} {v : Value} {a : α} (h : v.Exact)
    (ha : d v.doc = .ok a) : decodeText d v.render = .ok a := by
  refine decodeText_eq_ok.mpr ?_
  rw [readDoc_render h]
  exact ⟨ha, [], rfl, rfl⟩

end Whereto.Json
