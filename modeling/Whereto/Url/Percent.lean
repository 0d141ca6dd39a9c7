/-!
Percent encoding. A character that may not stand in a part of a URL is written as its UTF-8
bytes, each as a percent sign and two hexadecimal digits.
-/

namespace Whereto.Url

/-- A digit of base sixteen, in upper case. -/
def hexChar (n : Nat) : Char := (Nat.toDigits 16 n).headD '0' |>.toUpper

def hexValue? (c : Char) : Option Nat :=
  let n := c.toNat
  if 0x30 ≤ n ∧ n ≤ 0x39 then some (n - 0x30)
  else if 0x41 ≤ n ∧ n ≤ 0x46 then some (n - 0x37)
  else if 0x61 ≤ n ∧ n ≤ 0x66 then some (n - 0x57)
  else none

namespace Percent

def encodeByte (b : UInt8) : List Char := ['%', hexChar (b.toNat / 16), hexChar (b.toNat % 16)]

/-- The encoding of a character of a set; other characters stand for themselves. -/
def encodeChar (set : Char → Bool) (c : Char) : List Char :=
  if set c then (String.utf8EncodeChar c).flatMap encodeByte else [c]

def encode (set : Char → Bool) (cs : List Char) : List Char := cs.flatMap (encodeChar set)

/-- The bytes that a text stands for. A percent sign without two digits stands for itself. -/
def decode : List Char → List UInt8
  | [] => []
  | '%' :: x :: y :: cs =>
    match hexValue? x, hexValue? y with
    | some a, some b => (a * 16 + b).toUInt8 :: decode cs
    | _, _ => String.utf8EncodeChar '%' ++ decode (x :: y :: cs)
  | c :: cs => String.utf8EncodeChar c ++ decode cs

/-- The text that the bytes encode, if they are UTF-8. -/
def decodeText? (cs : List Char) : Option String :=
  String.fromUTF8? ⟨(decode cs).toArray⟩

end Percent

/-! The characters that are encoded in the parts of a URL. -/

/-- Control characters, and all that is not ASCII. -/
def isControl (c : Char) : Bool := c.toNat < 0x20 || 0x7E < c.toNat

def inFragment (c : Char) : Bool :=
  isControl c || c = ' ' || c = '"' || c = '<' || c = '>' || c.toNat = 0x60

def inPath (c : Char) : Bool :=
  inFragment c || c = '#' || c = '?' || c = '\x7b' || c = '\x7d'

/-- In a segment that is added to a path, what would end the segment is encoded too. -/
def inSegment (isSpecial : Bool) (c : Char) : Bool :=
  inPath c || c = '/' || c = '%' || (isSpecial && c = '\\')

def inQuery (isSpecial : Bool) (c : Char) : Bool :=
  isControl c || c = ' ' || c = '"' || c = '#' || c = '<' || c = '>' || (isSpecial && c = '\'')

/-- The characters that stand for themselves in a form. -/
def isFormChar (c : Char) : Bool :=
  ('a' ≤ c && c ≤ 'z') || ('A' ≤ c && c ≤ 'Z') || ('0' ≤ c && c ≤ '9') || c = '*' || c = '-' ||
    c = '.' || c = '_'

/-- A character of a form; a space is written as a plus sign. -/
def encodeFormChar (c : Char) : List Char :=
  if c = ' ' then ['+'] else Percent.encodeChar (fun c => !isFormChar c) c

def encodeForm (cs : List Char) : List Char := cs.flatMap encodeFormChar

end Whereto.Url
