/-!
Documents as they were read. A document keeps how each string and number was written and where
the text broke off, so that decoding can report the first problem from left to right. `fault?`
says what is wrong with the form of a document, whatever it is decoded as.
-/

namespace Whereto.Json

/-- What is wrong with a text: it ended too early, it is malformed, or it is well formed but does
not have the wanted type. -/
inductive Fault where
  | early
  | malformed
  | mismatch
  deriving DecidableEq, Repr

/-- A piece of a string: a character, or a UTF-16 unit given by its number. -/
inductive Piece where
  | plain (c : Char)
  | unit (n : Nat)
  deriving DecidableEq, Repr

/-- A string as written, and what cut it off if it has no closing quote. -/
structure Quoted where
  pieces : List Piece
  cut : Option Fault
  deriving DecidableEq, Repr

/-- A number as written: digits before and after the point, and sign and digits of the exponent. -/
structure Numeral where
  negative : Bool
  whole : List Char
  fraction : Option (List Char)
  exponent : Option (Bool × List Char)
  cut : Option Fault
  deriving DecidableEq, Repr

inductive Word where
  | null
  | true
  | false
  deriving DecidableEq, Repr

/-- A document as read. Arrays and objects carry what stood in place of their closing bracket;
the key of a member is whatever stood in its place. -/
inductive Doc where
  | missing (fault : Fault)
  | word (word : Word) (cut : Option Fault)
  | number (numeral : Numeral)
  | string (quoted : Quoted)
  | array (items : List Doc) (cut : Option Fault)
  | object (members : List (Doc × Doc)) (cut : Option Fault)

/-- What is wrong with a key of which only the form counts. -/
def Doc.keyFault? : Doc → Option Fault
  | .string q => q.cut
  | .missing f => some f
  | _ => some .malformed

mutual

/-- What is wrong with the form of a document. A number cut short is malformed wherever the text
ends. -/
def Doc.fault? : Doc → Option Fault
  | .missing f => some f
  | .word _ cut => cut
  | .number n => n.cut.map fun _ => .malformed
  | .string q => q.cut
  | .array items cut => (itemsFault? items).or cut
  | .object members cut => (membersFault? members).or cut

def itemsFault? : List Doc → Option Fault
  | [] => none
  | d :: ds => d.fault?.or (itemsFault? ds)

def membersFault? : List (Doc × Doc) → Option Fault
  | [] => none
  | (key, value) :: ms => key.keyFault?.or (value.fault?.or (membersFault? ms))

end

end Whereto.Json
