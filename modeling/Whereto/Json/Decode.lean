import Whereto.Json.Number
import Whereto.Json.Reader

/-!
Typed decoding of documents. A decoder reports the first problem from left to right: a document
of another type is read to its end before it is called a mismatch if it is a word, a number or a
string, and not at all if it is an array or an object.

A record is written as an object with its fields in any order, or as an array of its fields in
order. Fields may have several names; each field may be given once. Unknown members count only
for their form.
-/

namespace Whereto.Json

abbrev Decoder (α : Type) := Doc → Except Fault α

/-- The characters of a string. Two units that form a surrogate pair are one character; half a
pair is malformed. -/
def pieceChars (cut : Option Fault) : List Piece → Except Fault (List Char)
  | [] =>
    match cut with
    | some f => .error f
    | none => .ok []
  | .plain c :: ps => (pieceChars cut ps).map (c :: ·)
  | .unit high :: ps =>
    if high < 0xD800 ∨ 0xDFFF < high then (pieceChars cut ps).map (Char.ofNat high :: ·)
    else if 0xDC00 ≤ high then .error .malformed
    else
      match ps with
      | .unit low :: more =>
        if 0xDC00 ≤ low ∧ low ≤ 0xDFFF then
          let n := 0x10000 + (high - 0xD800) * 0x400 + (low - 0xDC00)
          (pieceChars cut more).map (Char.ofNat n :: ·)
        else .error .malformed
      | .plain _ :: _ => .error .malformed
      | [] => .error (cut.getD .malformed)

def Quoted.text (q : Quoted) : Except Fault String :=
  (pieceChars q.cut q.pieces).map String.ofList

/-- The text of the key of a member; only a string can be one. -/
def keyText : Doc → Except Fault String
  | .string q => q.text
  | .missing f => .error f
  | _ => .error .malformed

/-- The fault of a document that has the wrong type. -/
def Doc.mismatch : Doc → Fault
  | .missing f => f
  | .word _ cut => cut.getD .mismatch
  | .number n =>
    match n.read with
    | .error f => f
    | .ok _ => .mismatch
  | .string q =>
    match q.text with
    | .error f => f
    | .ok _ => .mismatch
  | .array _ _ => .mismatch
  | .object _ _ => .mismatch

namespace Decoder

def string : Decoder String
  | .string q => q.text
  | d => .error d.mismatch

def bool : Decoder Bool
  | .word .true none => .ok true
  | .word .false none => .ok false
  | d => .error d.mismatch

/-- Naturals below a limit, written without point and exponent. -/
def natBelow (limit : Nat) : Decoder Nat
  | .number n =>
    match n.read with
    | .error f => .error f
    | .ok (.natural k) => if k < limit then .ok k else .error .mismatch
    | .ok _ => .error .mismatch
  | d => .error d.mismatch

def uint16 : Decoder UInt16 := fun d => (natBelow UInt16.size d).map UInt16.ofNat

def uint32 : Decoder UInt32 := fun d => (natBelow UInt32.size d).map UInt32.ofNat

def float : Decoder Float
  | .number n => n.read.map Number.toFloat
  | d => .error d.mismatch

def unit : Decoder Unit
  | .word .null none => .ok ()
  | d => .error d.mismatch

def optional {α : Type} (d : Decoder α) : Decoder (Option α)
  | .word .null none => .ok none
  | .word .null (some f) => .error f
  | doc => (d doc).map some

def items {α : Type} (d : Decoder α) (cut : Option Fault) : List Doc → Except Fault (List α)
  | [] =>
    match cut with
    | some f => .error f
    | none => .ok []
  | doc :: docs => do
    let x ← d doc
    let xs ← items d cut docs
    return x :: xs

def list {α : Type} (d : Decoder α) : Decoder (List α)
  | .array docs cut => items d cut docs
  | d => .error d.mismatch

/-- What is wrong with the end of an array from which `n` items were taken. -/
def tailFault? (n : Nat) (docs : List Doc) (cut : Option Fault) : Option Fault :=
  if n < docs.length then some .malformed else cut

/-- An array of exactly two items. -/
def pair {α : Type} (d : Decoder α) : Decoder (α × α)
  | .array docs cut =>
    match docs with
    | x :: y :: _ => do
      let a ← d x
      let b ← d y
      match tailFault? 2 docs cut with
      | some f => .error f
      | none => .ok (a, b)
    | [x] => do
      let _ ← d x
      .error (cut.getD .mismatch)
    | [] => .error (cut.getD .mismatch)
  | doc => .error doc.mismatch

/-- One of several words, each also written as an object with null under that word. -/
def choice {α : Type} (named? : String → Option α) : Decoder α
  | .string q => do
    let name ← q.text
    match named? name with
    | some a => .ok a
    | none => .error .mismatch
  | .object members cut =>
    match members with
    | [] => .error (cut.getD .malformed)
    | (key, value) :: more => do
      let name ← keyText key
      match named? name with
      | none => .error .mismatch
      | some a =>
        unit value
        if more.isEmpty then
          match cut with
          | some f => .error f
          | none => .ok a
        else .error .malformed
  | .missing f => .error f
  | _ => .error .malformed

/-- What is wrong with a document under a decoder. -/
def fault? {α : Type} (d : Decoder α) (doc : Doc) : Option Fault :=
  match d doc with
  | .error f => some f
  | .ok _ => none

end Decoder

/-- A field of a record, with the names it may be given under, and whether it has to be given in
an object and in an array. -/
structure FieldRule where
  names : List String
  inObject : Bool
  inArray : Bool
  fault? : Doc → Option Fault

/-- A record decoder: its fields, and how the record is made from what was given for them. -/
structure RecordDecoder (α : Type) where
  rules : List FieldRule
  build : List (Option Doc) → Except Fault α

namespace RecordDecoder

variable {α β : Type}

def pure (a : α) : RecordDecoder α := ⟨[], fun _ => .ok a⟩

/-- The fields of both, with the result of one applied to that of the other. -/
def ap (f : RecordDecoder (α → β)) (x : RecordDecoder α) : RecordDecoder β :=
  ⟨f.rules ++ x.rules, fun slots => do
    let g ← f.build (slots.take f.rules.length)
    let a ← x.build (slots.drop f.rules.length)
    return g a⟩

instance : Functor RecordDecoder := ⟨fun f x => ap (pure f) x, fun a x => ap (pure fun _ => a) x⟩

instance : Seq RecordDecoder := ⟨fun f x => ap f (x ())⟩

/-- A field that has to be given. -/
def field (names : List String) (d : Decoder α) : RecordDecoder α :=
  ⟨[⟨names, true, true, d.fault?⟩], fun
    | [some doc] => d doc
    | _ => .error .mismatch⟩

/-- A field with a value for when it is not given. -/
def fieldOr (names : List String) (d : Decoder α) (default : α) : RecordDecoder α :=
  ⟨[⟨names, false, false, d.fault?⟩], fun
    | [some doc] => d doc
    | _ => .ok default⟩

/-- A field that an object need not give. -/
def field? (names : List String) (d : Decoder α) : RecordDecoder (Option α) :=
  ⟨[⟨names, false, true, d.optional.fault?⟩], fun
    | [some doc] => d.optional doc
    | _ => .ok none⟩

/-- The position of the field with a name. -/
def position? (rules : List FieldRule) (name : String) : Option Nat :=
  rules.findIdx? fun r => r.names.contains name

/-- The first problem among the members of an object; `seen` holds the fields already given. -/
def membersFault? (rules : List FieldRule) (seen : List Nat) : List (Doc × Doc) → Option Fault
  | [] => none
  | (key, value) :: ms =>
    match keyText key with
    | .error f => some f
    | .ok name =>
      match position? rules name with
      | none => value.fault?.or (membersFault? rules seen ms)
      | some i =>
        if seen.contains i then some .mismatch
        else ((rules[i]?.bind (·.fault? value))).or (membersFault? rules (i :: seen) ms)

/-- What the members give for a field. -/
def given? (rule : FieldRule) (members : List (Doc × Doc)) : Option Doc :=
  members.findSome? fun m =>
    match keyText m.1 with
    | .ok name => if rule.names.contains name then some m.2 else none
    | .error _ => none

/-- Fields given by name. -/
def namedSlots (rules : List FieldRule) (members : List (Doc × Doc)) (cut : Option Fault) :
    Except Fault (List (Option Doc)) :=
  match (membersFault? rules [] members).or cut with
  | some f => .error f
  | none =>
    let slots := rules.map fun r => given? r members
    if (rules.zip slots).any fun p => p.1.inObject && p.2.isNone then .error .mismatch
    else .ok slots

/-- Fields given by position. Fields that need not be given may be missing at the end. -/
def orderedSlots (cut : Option Fault) : List FieldRule → List Doc → Except Fault (List (Option Doc))
  | [], [] =>
    match cut with
    | some f => .error f
    | none => .ok []
  | [], _ :: _ => .error .malformed
  | r :: rs, [] =>
    match cut with
    | some f => .error f
    | none => if r.inArray then .error .mismatch else (orderedSlots cut rs []).map (none :: ·)
  | r :: rs, d :: ds =>
    match r.fault? d with
    | some f => .error f
    | none => (orderedSlots cut rs ds).map (some d :: ·)

/-- What a document gives for the fields of a record. -/
def slots (rules : List FieldRule) : Doc → Except Fault (List (Option Doc))
  | .object members cut => namedSlots rules members cut
  | .array docs cut => orderedSlots cut rules docs
  | d => .error d.mismatch

def decoder (r : RecordDecoder α) : Decoder α := fun doc => do
  let s ← slots r.rules doc
  r.build s

end RecordDecoder

/-- Decodes a whole text. Only space may follow the document. -/
def decodeText {α : Type} (d : Decoder α) (text : String) : Except Fault α := do
  let (doc, rest) := readDoc text
  let a ← d doc
  match rest with
  | some cs => if cs.all isSpace then .ok a else .error .malformed
  | none => .error .malformed

end Whereto.Json
