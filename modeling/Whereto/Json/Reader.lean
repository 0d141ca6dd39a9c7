import Whereto.Decimal.Read
import Whereto.Json.Doc

/-!
From text to documents. Reading never fails: where the text is not a document, the document says
what stood there, and nothing after it is read.
-/

namespace Whereto.Json

open Decimal (isDigit)

def isSpace (c : Char) : Bool := c == ' ' || c == '\n' || c == '\t' || c == '\r'

def skipSpace (cs : List Char) : List Char := cs.dropWhile isSpace

/-- The fault of a text that should go on with something else than `cs`. -/
def faultAt : List Char → Fault
  | [] => .early
  | _ => .malformed

def hexValue? (c : Char) : Option Nat :=
  let n := c.toNat
  if 0x30 ≤ n ∧ n ≤ 0x39 then some (n - 0x30)
  else if 0x41 ≤ n ∧ n ≤ 0x46 then some (n - 0x37)
  else if 0x61 ≤ n ∧ n ≤ 0x66 then some (n - 0x57)
  else none

def hexUnit? (a b c d : Char) : Option Nat := do
  let w ← hexValue? a
  let x ← hexValue? b
  let y ← hexValue? c
  let z ← hexValue? d
  return ((w * 16 + x) * 16 + y) * 16 + z

/-- The character that a backslash before `c` stands for. -/
def escaped? (c : Char) : Option Char :=
  if c = '"' then some '"'
  else if c = '\\' then some '\\'
  else if c = '/' then some '/'
  else if c = 'b' then some '\x08'
  else if c = 'f' then some '\x0c'
  else if c = 'n' then some '\n'
  else if c = 'r' then some '\r'
  else if c = 't' then some '\t'
  else none

def byteCount (cs : List Char) : Nat := cs.foldl (· + ·.utf8Size) 0

def Quoted.cons (p : Piece) (r : Quoted × Option (List Char)) : Quoted × Option (List Char) :=
  (⟨p :: r.1.pieces, r.1.cut⟩, r.2)

def Quoted.broken (f : Fault) : Quoted × Option (List Char) := (⟨[], some f⟩, none)

/-- The pieces of a string after its opening quote, and the text after the closing one. -/
def readPieces : List Char → Quoted × Option (List Char)
  | [] => Quoted.broken .early
  | c :: cs =>
    if c = '"' then (⟨[], none⟩, some cs)
    else if c = '\\' then
      match cs with
      | [] => Quoted.broken .early
      | e :: rest =>
        if e = 'u' then
          match rest with
          | w :: x :: y :: z :: tail =>
            match hexUnit? w x y z with
            | some n => Quoted.cons (.unit n) (readPieces tail)
            | none => Quoted.broken .malformed
          | _ => Quoted.broken (if byteCount rest < 4 then .early else .malformed)
        else
          match escaped? e with
          | some x => Quoted.cons (.plain x) (readPieces rest)
          | none => Quoted.broken .malformed
    else if c.toNat < 0x20 then Quoted.broken .malformed
    else Quoted.cons (.plain c) (readPieces cs)

/-- The exponent of a number, from the text after its digits. -/
def readExponent (n : Numeral) : List Char → Numeral × Option (List Char)
  | [] => (n, some [])
  | c :: cs =>
    if c = 'e' ∨ c = 'E' then
      let (negative, rest) := Decimal.readSign cs
      let ds := rest.takeWhile isDigit
      let tail := rest.dropWhile isDigit
      if ds.isEmpty then (⟨n.negative, n.whole, n.fraction, none, some (faultAt tail)⟩, none)
      else (⟨n.negative, n.whole, n.fraction, some (negative, ds), none⟩, some tail)
    else (n, some (c :: cs))

/-- The digits after the point and the exponent. -/
def readFraction (n : Numeral) : List Char → Numeral × Option (List Char)
  | [] => (n, some [])
  | c :: cs =>
    if c = '.' then
      let ds := cs.takeWhile isDigit
      let tail := cs.dropWhile isDigit
      if ds.isEmpty then (⟨n.negative, n.whole, none, none, some (faultAt tail)⟩, none)
      else readExponent ⟨n.negative, n.whole, some ds, none, none⟩ tail
    else readExponent n (c :: cs)

/-- A number after its sign. A zero does not start a longer number. -/
def readNumeral (negative : Bool) (cs : List Char) : Numeral × Option (List Char) :=
  let ds := cs.takeWhile isDigit
  let tail := cs.dropWhile isDigit
  match ds with
  | [] => (⟨negative, [], none, none, some (faultAt tail)⟩, none)
  | '0' :: _ :: _ => (⟨negative, ['0'], none, none, some .malformed⟩, none)
  | _ => readFraction ⟨negative, ds, none, none, none⟩ tail

/-- The rest of a word after its first letter. -/
def readLetters : List Char → List Char → Option Fault × Option (List Char)
  | [], cs => (none, some cs)
  | _ :: _, [] => (some .early, none)
  | w :: ws, c :: cs => if c = w then readLetters ws cs else (some .malformed, none)

def readWord (word : Word) (letters : List Char) (cs : List Char) : Doc × Option (List Char) :=
  let (cut, rest) := readLetters letters cs
  (.word word cut, rest)

mutual

/-- The document at the start of a text and the text after it, if the document is complete. -/
def readValue : Nat → List Char → Doc × Option (List Char)
  | 0, _ => (.missing .malformed, none)
  | fuel + 1, cs =>
    match skipSpace cs with
    | [] => (.missing .early, none)
    | c :: rest =>
      if c = '"' then
        let (q, tail) := readPieces rest
        (.string q, tail)
      else if c = '[' then
        let (items, cut, tail) := readItems fuel true rest
        (.array items cut, tail)
      else if c = '\x7b' then
        let (members, cut, tail) := readMembers fuel true rest
        (.object members cut, tail)
      else if c = 'n' then readWord .null ['u', 'l', 'l'] rest
      else if c = 't' then readWord .true ['r', 'u', 'e'] rest
      else if c = 'f' then readWord .false ['a', 'l', 's', 'e'] rest
      else if c = '-' then
        let (n, tail) := readNumeral true rest
        (.number n, tail)
      else if isDigit c then
        let (n, tail) := readNumeral false (c :: rest)
        (.number n, tail)
      else (.missing .malformed, none)

/-- The items of an array after its bracket or, if some were read already, after the last of
them. -/
def readItems : Nat → Bool → List Char → List Doc × Option Fault × Option (List Char)
  | 0, _, _ => ([], some .malformed, none)
  | fuel + 1, first, cs =>
    match skipSpace cs with
    | [] => ([], some .early, none)
    | c :: rest =>
      if c = ']' then ([], none, some rest)
      else if !first && c != ',' then ([], some .malformed, none)
      else
        let (d, tail) := readValue fuel (if first then c :: rest else rest)
        match tail with
        | none => ([d], none, none)
        | some tail =>
          let (ds, cut, tail) := readItems fuel false tail
          (d :: ds, cut, tail)

/-- The members of an object, in the same way. -/
def readMembers : Nat → Bool → List Char → List (Doc × Doc) × Option Fault × Option (List Char)
  | 0, _, _ => ([], some .malformed, none)
  | fuel + 1, first, cs =>
    match skipSpace cs with
    | [] => ([], some .early, none)
    | c :: rest =>
      if c = '\x7d' then ([], none, some rest)
      else if !first && c != ',' then ([], some .malformed, none)
      else
        match readValue fuel (if first then c :: rest else rest) with
        | (.string q, some tail) =>
          match skipSpace tail with
          | [] => ([(.string q, .missing .early)], none, none)
          | colon :: tail =>
            if colon = ':' then
              let (value, tail) := readValue fuel tail
              match tail with
              | none => ([(.string q, value)], none, none)
              | some tail =>
                let (ms, cut, tail) := readMembers fuel false tail
                ((.string q, value) :: ms, cut, tail)
            else ([(.string q, .missing .malformed)], none, none)
        | (key, _) => ([(key, .missing .malformed)], none, none)

end

/-- The document that starts a text, and what follows it. Every level of reading takes a
character, so twice the length of the text bounds the depth. -/
def readDoc (text : String) : Doc × Option (List Char) :=
  readValue (2 * text.length + 2) text.toList

end Whereto.Json
