import Whereto.Domain.Mapping
import Whereto.Domain.Punycode
import Whereto.Text.Direction
import Whereto.Text.Joining
import Whereto.Text.Mark

/-!
The labels of a domain name, between its points. A label that is not ASCII is written in Punycode
after a prefix; however it is written, it has to be one that the mapping can have given, it does
not start with a mark, and what is in it fits together.
-/

namespace Whereto.Domain

/-! Labels in Punycode. -/

/-- What a label starts with that stands for another one. -/
def codedPrefix : List Char := ['x', 'n', '-', '-']

def isCoded (label : List Char) : Bool := codedPrefix.isPrefixOf label

/-- The longest label that is decoded, and the longest that is encoded. -/
def longestCode : Nat := 2000
def longestLabel : Nat := 1000

/-- The label that a label stands for. A label that is plain ASCII stands for itself only. -/
def decode? (label : List Char) : Option (List Char) :=
  if isCoded label then
    let code := label.drop codedPrefix.length
    if code.isEmpty || code.getLast? = some '-' || longestCode < code.length ||
        !code.all Text.isAscii then none
    else (Punycode.decode? code).filter fun cs => isMapped cs && !isCoded cs
  else some label

/-- The label in ASCII. -/
def encode (label : List Char) : List Char :=
  if label.all Text.isAscii then label else codedPrefix ++ Punycode.encode label

/-! Joiners. -/

/-- The character that keeps its neighbours from joining, and the one that joins them. -/
def nonJoiner : Char := '\u200c'
def joiner : Char := '\u200d'

/-- Whether a letter joins, when characters through which letters join are passed over. -/
def meetsJoining (joins : Char → Bool) (cs : List Char) : Bool :=
  match cs with
  | [] => false
  | c :: rest => joins c || (Text.isTransparent c && meetsJoining joins rest)

/-- A joiner follows a virama; a nonjoiner may also part two letters that would join. -/
def joinerFits (before : List Char) (c : Char) (after : List Char) : Bool :=
  before.head?.any (fun b => Text.combiningClass b = Text.viramaClass) ||
    (c = nonJoiner && meetsJoining Text.joinsForward before &&
      meetsJoining Text.joinsBackward after)

/-- Whether the joiners of a text fit that follows the reversed text `before`. -/
def joinersFit (before : List Char) : List Char → Bool
  | [] => true
  | c :: cs =>
    (if c = joiner || c = nonJoiner then joinerFits before c cs else true) &&
      joinersFit (c :: before) cs

/-! Directions. -/

/-- What may stand in a label that runs from left to right. -/
def fitsLeft : Text.Direction → Bool
  | .leftToRight => true
  | .europeanNumber => true
  | .nonspacing => true
  | .neutral => true
  | _ => false

/-- What may stand at the end of such a label, but for marks. -/
def endsLeft : Text.Direction → Bool
  | .leftToRight => true
  | .europeanNumber => true
  | _ => false

/-- What may stand in a label that runs from right to left. -/
def fitsRight : Text.Direction → Bool
  | .rightToLeft => true
  | .arabicNumber => true
  | .europeanNumber => true
  | .nonspacing => true
  | .neutral => true
  | _ => false

/-- What may stand at the end of such a label, but for marks. -/
def endsRight : Text.Direction → Bool
  | .rightToLeft => true
  | .arabicNumber => true
  | .europeanNumber => true
  | _ => false

/-- The last direction that is not the one of a mark. -/
def lastDirection? (ds : List Text.Direction) : Option Text.Direction :=
  ds.reverse.find? (· ≠ .nonspacing)

/-- Whether the directions of a label may stand in one name with some that run from right to
left. A label from right to left has digits of one kind only. -/
def directionsFit : List Text.Direction → Bool
  | [] => true
  | .leftToRight :: ds => ds.all fitsLeft && (lastDirection? ds).all endsLeft
  | .rightToLeft :: ds =>
    ds.all fitsRight && (lastDirection? ds).all endsRight &&
      !(ds.contains .arabicNumber && ds.contains .europeanNumber)
  | _ => false

/-! Labels. -/

/-- Whether a decoded label can be one of a name, whatever the others are. -/
def isLabel (label : List Char) : Bool :=
  label.head?.all (!Text.isMark ·) && joinersFit [] label &&
    (label.all Text.isAscii || label.length ≤ longestLabel)

end Whereto.Domain
