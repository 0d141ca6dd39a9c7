import Whereto.Decimal.Style
import Whereto.Keyed

/-!
Values to be written as JSON, and their compact text.
-/

namespace Whereto.Json

inductive Value where
  | null
  | bool (b : Bool)
  | int (n : Int)
  | double (x : Float)
  | string (s : String)
  | array (items : List Value)
  | object (members : List (String × Value))
  deriving Inhabited

/-- An object with its members in ascending order of keys. -/
def Value.sorted (members : List (String × Value)) : Value :=
  .object (Keyed.ofList members)

def Value.strings (ss : List String) : Value := .array (ss.map .string)

def Value.text? : Option String → Value
  | some s => .string s
  | none => .null

/-- Numbers keep `.0`, ties go to the even decimal, and the exponents from -5 to 15 are
written without an exponent part. -/
def numberStyle : Decimal.Style := ⟨.toEven, true, some (-5, 16)⟩

def hexDigit (n : Nat) : Char := (Nat.toDigits 16 n).headD '0'

/-- A character within quotes. Quotes, backslashes and control characters are escaped. -/
def escapeChar (c : Char) : List Char :=
  if c = '"' then ['\\', '"']
  else if c = '\\' then ['\\', '\\']
  else if c = '\x08' then ['\\', 'b']
  else if c = '\x0c' then ['\\', 'f']
  else if c = '\n' then ['\\', 'n']
  else if c = '\r' then ['\\', 'r']
  else if c = '\t' then ['\\', 't']
  else if c.toNat < 0x20 then
    ['\\', 'u', '0', '0', hexDigit (c.toNat / 16), hexDigit (c.toNat % 16)]
  else [c]

def quote (s : String) : List Char := '"' :: s.toList.flatMap escapeChar ++ ['"']

mutual

def Value.chars : Value → List Char
  | .null => ['n', 'u', 'l', 'l']
  | .bool true => ['t', 'r', 'u', 'e']
  | .bool false => ['f', 'a', 'l', 's', 'e']
  | .int n => (toString n).toList
  | .double x =>
    if x.isFinite then (numberStyle.render x).toList else ['n', 'u', 'l', 'l']
  | .string s => quote s
  | .array vs => '[' :: itemChars true vs
  | .object ms => '\x7b' :: memberChars true ms

/-- The items of an array up to its closing bracket. -/
def itemChars (first : Bool) : List Value → List Char
  | [] => [']']
  | v :: vs => (if first then [] else [',']) ++ v.chars ++ itemChars false vs

/-- The members of an object up to its closing brace. -/
def memberChars (first : Bool) : List (String × Value) → List Char
  | [] => ['\x7d']
  | (k, v) :: ms =>
    (if first then [] else [',']) ++ quote k ++ ':' :: v.chars ++ memberChars false ms

end

/-- The compact text of a value. Numbers that are not finite are written as null. -/
def Value.render (v : Value) : String := String.ofList v.chars

end Whereto.Json
