import Mathlib.Tactic.SplitIfs
import Whereto.Json.Reader
import Whereto.Json.Value

/-!
Written JSON read back. Reading the text of a value gives one document and leaves what follows the
text: by induction on the value, with the length of the text as the bound on the depth of reading.
Only a number needs to know what follows it. Doubles are left out.
-/

namespace Whereto.Json

open Decimal (isDigit)

/-! ### Documents of values -/

/-- The piece as which a character is read back. Control characters without a letter of their own
are written by their numbers. -/
def pieceOf (c : Char) : Piece :=
  if c = '\x08' ∨ c = '\x0c' ∨ c = '\n' ∨ c = '\r' ∨ c = '\t' then .plain c
  else if c.toNat < 0x20 then .unit c.toNat
  else .plain c

def Quoted.of (s : String) : Quoted := ⟨s.toList.map pieceOf, none⟩

def Numeral.ofInt (n : Int) : Numeral :=
  ⟨n < 0, Nat.toDigits 10 n.natAbs, none, none, none⟩

mutual

/-- The document as which a value is read back. -/
def Value.doc : Value → Doc
  | .null => .word .null none
  | .bool true => .word .true none
  | .bool false => .word .false none
  | .int n => .number (.ofInt n)
  | .double _ => .missing .malformed
  | .string s => .string (.of s)
  | .array vs => .array (itemDocs vs) none
  | .object ms => .object (memberDocs ms) none

def itemDocs : List Value → List Doc
  | [] => []
  | v :: vs => v.doc :: itemDocs vs

def memberDocs : List (String × Value) → List (Doc × Doc)
  | [] => []
  | (k, v) :: ms => (.string (.of k), v.doc) :: memberDocs ms

end

mutual

/-- A value without doubles. -/
def Value.Exact : Value → Prop
  | .double _ => False
  | .array vs => ExactItems vs
  | .object ms => ExactMembers ms
  | _ => True

def ExactItems : List Value → Prop
  | [] => True
  | v :: vs => v.Exact ∧ ExactItems vs

def ExactMembers : List (String × Value) → Prop
  | [] => True
  | (_, v) :: ms => v.Exact ∧ ExactMembers ms

end

/-! ### Strings -/

variable {rest : List Char}

lemma hexValue?_hexDigit {n : Nat} (h : n < 16) : hexValue? (hexDigit n) = some n := by
  have hall : ∀ n < 16, hexValue? (hexDigit n) = some n := by decide
  exact hall n h

lemma readPieces_escaped {e c : Char} (hu : e ≠ 'u') (h : escaped? e = some c) :
    readPieces ('\\' :: e :: rest) = Quoted.cons (.plain c) (readPieces rest) := by
  rw [readPieces.eq_def]
  simp [hu, h]

lemma readPieces_escapeChar (c : Char) :
    readPieces (escapeChar c ++ rest) = Quoted.cons (pieceOf c) (readPieces rest) := by
  unfold escapeChar
  split_ifs with hquote hslash hb hf hn hr ht hcontrol
  · subst hquote
    exact readPieces_escaped (by decide) rfl
  · subst hslash
    exact readPieces_escaped (by decide) rfl
  · subst hb
    exact readPieces_escaped (by decide) rfl
  · subst hf
    exact readPieces_escaped (by decide) rfl
  · subst hn
    exact readPieces_escaped (by decide) rfl
  · subst hr
    exact readPieces_escaped (by decide) rfl
  · subst ht
    exact readPieces_escaped (by decide) rfl
  · have hunit : hexUnit? '0' '0' (hexDigit (c.toNat / 16)) (hexDigit (c.toNat % 16)) =
        some c.toNat := by
      have hzero : hexValue? '0' = some 0 := by decide
      simp only [hexUnit?, hzero, hexValue?_hexDigit (show c.toNat / 16 < 16 by omega),
        hexValue?_hexDigit (show c.toNat % 16 < 16 by omega), Option.bind_eq_bind,
        Option.bind_some]
      exact congrArg some (by omega)
    have hpiece : pieceOf c = .unit c.toNat := by
      simp [pieceOf, hb, hf, hn, hr, ht, hcontrol]
    rw [hpiece, List.cons_append, readPieces.eq_def]
    simp [hunit]
  · have hpiece : pieceOf c = .plain c := by
      simp [pieceOf, hb, hf, hn, hr, ht, hcontrol]
    rw [hpiece, List.singleton_append, readPieces.eq_def]
    simp [hquote, hslash, hcontrol]

lemma readPieces_flatMap (cs : List Char) :
    readPieces (cs.flatMap escapeChar ++ '"' :: rest) = (⟨cs.map pieceOf, none⟩, some rest) := by
  induction cs with
  | nil =>
    rw [List.flatMap_nil, List.nil_append, readPieces.eq_def]
    rfl
  | cons c cs ih =>
    rw [List.flatMap_cons, List.append_assoc, readPieces_escapeChar, ih]
    rfl

/-! ### Numbers -/

/-- A text that does not go on with a number. -/
def Stops (cs : List Char) : Prop :=
  ∀ c ∈ cs.head?, isDigit c = false ∧ c ≠ '.' ∧ c ≠ 'e' ∧ c ≠ 'E'

lemma isDigit_of_mem_toDigits {n : Nat} {c : Char} (h : c ∈ Nat.toDigits 10 n) :
    isDigit c = true :=
  Nat.isDigit_of_mem_toDigits (by decide) (by decide) h

/-- Only zero is written with a leading zero. -/
lemma toDigits_ne_zero_cons {n : Nat} {c : Char} {cs : List Char} :
    Nat.toDigits 10 n ≠ '0' :: c :: cs := by
  induction n using Nat.strongRecOn generalizing c cs with
  | ind n ih =>
    by_cases hn : n < 10
    · simp [Nat.toDigits_of_lt_base hn]
    · rw [Nat.toDigits_of_base_le (by decide) (Nat.not_lt.mp hn)]
      cases hds : Nat.toDigits 10 (n / 10) with
      | nil => exact absurd hds Nat.toDigits_ne_nil
      | cons d ds =>
        intro h
        obtain rfl : d = '0' := (List.cons.inj h).1
        cases ds with
        | nil =>
          have hzero : Nat.ofDigitChars 10 (Nat.toDigits 10 (n / 10)) 0 = 0 := by rw [hds]; rfl
          rw [Nat.ofDigitChars_ten_toDigits] at hzero
          omega
        | cons d ds => exact ih (n / 10) (by omega) hds

lemma readFraction_of_stops (h : Stops rest) (n : Numeral) :
    readFraction n rest = (n, some rest) := by
  cases rest with
  | nil => rfl
  | cons c cs =>
    obtain ⟨-, hpoint, he, hE⟩ := h c rfl
    simp [readFraction, readExponent, hpoint, he, hE]

lemma readNumeral_toDigits (h : Stops rest) (negative : Bool) (n : Nat) :
    readNumeral negative (Nat.toDigits 10 n ++ rest) =
      (⟨negative, Nat.toDigits 10 n, none, none, none⟩, some rest) := by
  have hdigits : ∀ c ∈ Nat.toDigits 10 n, isDigit c = true := fun _ => isDigit_of_mem_toDigits
  have hstart : ∀ c ∈ rest.head?, isDigit c = false := fun c hc => (h c hc).1
  have htake : rest.takeWhile isDigit = [] := by
    cases rest with
    | nil => rfl
    | cons c cs => simp [hstart c rfl]
  have hdrop : rest.dropWhile isDigit = rest := by
    cases rest with
    | nil => rfl
    | cons c cs => simp [hstart c rfl]
  rw [readNumeral, List.takeWhile_append_of_pos hdigits, List.dropWhile_append_of_pos hdigits,
    htake, hdrop, List.append_nil]
  split
  · next hnil => exact absurd hnil Nat.toDigits_ne_nil
  · next hzero => exact absurd hzero toDigits_ne_zero_cons
  · exact readFraction_of_stops h _

lemma toList_toString_int (n : Int) :
    (toString n).toList =
      if n < 0 then '-' :: Nat.toDigits 10 n.natAbs else Nat.toDigits 10 n.natAbs := by
  rw [Int.toString_eq_repr, Int.repr_eq_if]
  split
  · next h =>
    have habs : n.toNat = n.natAbs := by omega
    rw [if_neg (Int.not_lt.mpr h), Nat.toList_repr, habs]
  · next h =>
    have habs : (-n).toNat = n.natAbs := by omega
    rw [if_pos (Int.not_le.mp h), String.toList_append, Nat.toList_repr, habs]
    rfl

/-! ### Values -/

/-- A character with which a value can start. -/
def Opens (c : Char) : Prop := isSpace c = false ∧ c ≠ ']' ∧ c ≠ '\x7d'

instance (c : Char) : Decidable (Opens c) := inferInstanceAs (Decidable (_ ∧ _))

lemma ne_of_isDigit {c d : Char} (hc : isDigit c = true) (hd : isDigit d = false) : c ≠ d := by
  rintro rfl
  exact Bool.false_ne_true (hd.symm.trans hc)

lemma opens_of_isDigit {c : Char} (h : isDigit c = true) : Opens c := by
  refine ⟨?_, ne_of_isDigit h (by decide), ne_of_isDigit h (by decide)⟩
  simp [isSpace, ne_of_isDigit h (show isDigit ' ' = false by decide),
    ne_of_isDigit h (show isDigit '\n' = false by decide),
    ne_of_isDigit h (show isDigit '\t' = false by decide),
    ne_of_isDigit h (show isDigit '\r' = false by decide)]

/-- The text of a value starts with it. -/
lemma exists_opens {v : Value} (h : v.Exact) : ∃ c cs, v.chars = c :: cs ∧ Opens c := by
  cases v with
  | null => exact ⟨_, _, Value.chars.eq_1, by decide⟩
  | bool b =>
    cases b with
    | true => exact ⟨_, _, Value.chars.eq_2, by decide⟩
    | false => exact ⟨_, _, Value.chars.eq_3, by decide⟩
  | int n =>
    rw [Value.chars, toList_toString_int]
    split
    · exact ⟨_, _, rfl, by decide⟩
    · cases hds : Nat.toDigits 10 n.natAbs with
      | nil => exact absurd hds Nat.toDigits_ne_nil
      | cons c cs =>
        exact ⟨c, cs, rfl, opens_of_isDigit (isDigit_of_mem_toDigits (hds ▸ List.mem_cons_self))⟩
  | double x => exact h.elim
  | string s => exact ⟨_, _, by rw [Value.chars, quote, List.cons_append], by decide⟩
  | array vs => exact ⟨_, _, by rw [Value.chars], by decide⟩
  | object ms => exact ⟨_, _, by rw [Value.chars], by decide⟩

variable {fuel : Nat}

lemma skipSpace_of_not_space {c : Char} {cs : List Char} (h : isSpace c = false) :
    skipSpace (c :: cs) = c :: cs := by
  simp [skipSpace, h]

lemma quote_append (s : String) :
    quote s ++ rest = '"' :: (s.toList.flatMap escapeChar ++ '"' :: rest) := by
  simp [quote]

lemma readValue_quote (s : String) :
    readValue (fuel + 1) (quote s ++ rest) = (.string (.of s), some rest) := by
  rw [quote_append, readValue, skipSpace_of_not_space (by decide)]
  simp [readPieces_flatMap, Quoted.of]

lemma readValue_int (h : Stops rest) (n : Int) :
    readValue (fuel + 1) ((toString n).toList ++ rest) = (.number (.ofInt n), some rest) := by
  rw [toList_toString_int, Numeral.ofInt]
  split
  · next hn =>
    rw [List.cons_append, readValue, skipSpace_of_not_space (by decide)]
    simp [readNumeral_toDigits h, hn]
  · next hn =>
    have hnumeral := readNumeral_toDigits h false n.natAbs
    cases hds : Nat.toDigits 10 n.natAbs with
    | nil => exact absurd hds Nat.toDigits_ne_nil
    | cons c cs =>
      have hc : isDigit c = true := isDigit_of_mem_toDigits (hds ▸ List.mem_cons_self)
      rw [hds, List.cons_append] at hnumeral
      rw [List.cons_append, readValue, skipSpace_of_not_space (opens_of_isDigit hc).1]
      simp [hc, hnumeral, hn, ne_of_isDigit hc (show isDigit '"' = false by decide),
        ne_of_isDigit hc (show isDigit '[' = false by decide),
        ne_of_isDigit hc (show isDigit '\x7b' = false by decide),
        ne_of_isDigit hc (show isDigit 'n' = false by decide),
        ne_of_isDigit hc (show isDigit 't' = false by decide),
        ne_of_isDigit hc (show isDigit 'f' = false by decide),
        ne_of_isDigit hc (show isDigit '-' = false by decide)]

variable {first : Bool} {v : Value} {tail : List Char} {d : Doc} {cut : Option Fault}
  {end? : Option (List Char)}

lemma readItems_item {ds : List Doc} (h : v.Exact)
    (hv : readValue fuel (v.chars ++ tail) = (d, some tail))
    (hvs : readItems fuel false tail = (ds, cut, end?)) :
    readItems (fuel + 1) first ((if first then [] else [',']) ++ v.chars ++ tail) =
      (d :: ds, cut, end?) := by
  cases first with
  | true =>
    obtain ⟨c, cs, hchars, hspace, hbracket, -⟩ := exists_opens h
    rw [hchars, List.cons_append] at hv
    rw [if_pos rfl, List.nil_append, hchars, List.cons_append, readItems,
      skipSpace_of_not_space hspace]
    simp [hbracket, hv, hvs]
  | false =>
    rw [if_neg Bool.false_ne_true, List.singleton_append, List.cons_append, readItems,
      skipSpace_of_not_space (by decide)]
    simp [hv, hvs]

lemma readMembers_member {ms : List (Doc × Doc)} (k : String)
    (hv : readValue (fuel + 1) (v.chars ++ tail) = (d, some tail))
    (hms : readMembers (fuel + 1) false tail = (ms, cut, end?)) :
    readMembers (fuel + 1 + 1) first
      ((if first then [] else [',']) ++ quote k ++ ':' :: v.chars ++ tail) =
        ((.string (.of k), d) :: ms, cut, end?) := by
  have hkey : readValue (fuel + 1) (quote k ++ ':' :: (v.chars ++ tail)) =
      (.string (.of k), some (':' :: (v.chars ++ tail))) := readValue_quote k
  have hcolon : skipSpace (':' :: (v.chars ++ tail)) = ':' :: (v.chars ++ tail) :=
    skipSpace_of_not_space (by decide)
  rw [List.append_assoc, List.append_assoc, List.cons_append]
  cases first with
  | true =>
    rw [quote_append] at hkey
    rw [if_pos rfl, List.nil_append, quote_append, readMembers,
      skipSpace_of_not_space (by decide)]
    simp [hkey, hcolon, hv, hms]
  | false =>
    rw [if_neg Bool.false_ne_true, List.singleton_append, readMembers,
      skipSpace_of_not_space (by decide)]
    simp [hkey, hcolon, hv, hms]

lemma stops_itemChars (vs : List Value) : Stops (itemChars false vs ++ rest) := by
  cases vs with
  | nil =>
    rintro c ⟨⟩
    decide
  | cons v vs =>
    rw [itemChars]
    rintro c ⟨⟩
    decide

lemma stops_memberChars (ms : List (String × Value)) : Stops (memberChars false ms ++ rest) := by
  cases ms with
  | nil =>
    rintro c ⟨⟩
    decide
  | cons m ms =>
    rw [memberChars]
    rintro c ⟨⟩
    decide

lemma length_itemChars_pos (vs : List Value) : 0 < (itemChars false vs).length := by
  cases vs <;> simp [itemChars]

lemma length_memberChars_pos (ms : List (String × Value)) :
    0 < (memberChars false ms).length := by
  cases ms <;> simp [memberChars]

lemma length_chars_pos (h : v.Exact) : 0 < v.chars.length := by
  obtain ⟨c, cs, hchars, -⟩ := exists_opens h
  simp [hchars]

mutual

theorem readValue_chars : ∀ (v : Value) {fuel : Nat} {rest : List Char}, v.Exact → Stops rest →
    v.chars.length ≤ fuel → readValue fuel (v.chars ++ rest) = (v.doc, some rest)
  | v, 0, _, hexact, _, hfuel => absurd (length_chars_pos hexact) (Nat.not_lt.mpr hfuel)
  | .null, _ + 1, _, _, _, _ => by
    rw [Value.chars]
    rfl
  | .bool true, _ + 1, _, _, _, _ => by
    rw [Value.chars]
    rfl
  | .bool false, _ + 1, _, _, _, _ => by
    rw [Value.chars]
    rfl
  | .int n, _ + 1, _, _, hrest, _ => by
    rw [Value.chars]
    exact readValue_int hrest n
  | .string s, _ + 1, _, _, _, _ => by
    rw [Value.chars]
    exact readValue_quote s
  | .array vs, fuel + 1, rest, hexact, _, hfuel => by
    rw [Value.chars, List.length_cons] at hfuel
    rw [Value.chars, List.cons_append, readValue, skipSpace_of_not_space (by decide)]
    have hitems : readItems fuel true (itemChars true vs ++ rest) =
        (itemDocs vs, none, some rest) := readItems_chars vs true hexact (by omega)
    simp [hitems, Value.doc]
  | .object ms, fuel + 1, rest, hexact, _, hfuel => by
    rw [Value.chars, List.length_cons] at hfuel
    rw [Value.chars, List.cons_append, readValue, skipSpace_of_not_space (by decide)]
    have hmembers : readMembers fuel true (memberChars true ms ++ rest) =
        (memberDocs ms, none, some rest) := readMembers_chars ms true hexact (by omega)
    simp [hmembers, Value.doc]

theorem readItems_chars : ∀ (vs : List Value) {fuel : Nat} {rest : List Char} (first : Bool),
    ExactItems vs → (itemChars first vs).length ≤ fuel →
      readItems fuel first (itemChars first vs ++ rest) = (itemDocs vs, none, some rest)
  | [], 0, _, _, _, hfuel => by simp [itemChars] at hfuel
  | [], _ + 1, _, _, _, _ => by
    rw [itemChars]
    rfl
  | v :: vs, fuel, rest, first, hexact, hfuel => by
    have hv := length_chars_pos hexact.1
    have hvs := length_itemChars_pos vs
    rw [itemChars, List.length_append, List.length_append] at hfuel
    obtain ⟨fuel, rfl⟩ : ∃ n, fuel = n + 1 := ⟨fuel - 1, by omega⟩
    rw [itemChars, List.append_assoc _ _ rest]
    exact readItems_item hexact.1
      (readValue_chars v hexact.1 (stops_itemChars vs) (by omega))
      (readItems_chars vs false hexact.2 (by omega))

theorem readMembers_chars : ∀ (ms : List (String × Value)) {fuel : Nat} {rest : List Char}
    (first : Bool), ExactMembers ms → (memberChars first ms).length ≤ fuel →
      readMembers fuel first (memberChars first ms ++ rest) = (memberDocs ms, none, some rest)
  | [], 0, _, _, _, hfuel => by simp [memberChars] at hfuel
  | [], _ + 1, _, _, _, _ => by
    rw [memberChars]
    rfl
  | (k, v) :: ms, fuel, rest, first, hexact, hfuel => by
    have hv := length_chars_pos hexact.1
    have hms := length_memberChars_pos ms
    rw [memberChars, List.length_append, List.length_append, List.length_cons] at hfuel
    obtain ⟨fuel, rfl⟩ : ∃ n, fuel = n + 1 + 1 := ⟨fuel - 2, by omega⟩
    rw [memberChars, List.append_assoc _ _ rest]
    exact readMembers_member k
      (readValue_chars v hexact.1 (stops_memberChars ms) (by omega))
      (readMembers_chars ms false hexact.2 (by omega))

end

/-- **Written values are read back**: the text of a value without doubles is the text of its
document and nothing more. -/
theorem readDoc_render {v : Value} (h : v.Exact) : readDoc v.render = (v.doc, some []) := by
  have hstops : Stops [] := nofun
  have hlength : v.render.length = v.chars.length := String.length_ofList
  have hread := readValue_chars v h hstops (show v.chars.length ≤ 2 * v.render.length + 2 by omega)
  rw [List.append_nil] at hread
  rw [readDoc, Value.render, String.toList_ofList]
  exact hread

end Whereto.Json
