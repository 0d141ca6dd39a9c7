import Whereto.Text.Case

/-!
Lower case of a text. All characters map on their own but the capital sigma, which becomes a
final sigma at the end of a word.
-/

namespace Whereto.Text

def capitalSigma : Char := '\u03a3'
def smallSigma : Char := '\u03c3'
def finalSigma : Char := '\u03c2'

/-- Whether the first character that is not transparent to case has case. -/
def meetsCased (cs : List Char) : Bool :=
  match cs.dropWhile isCaseIgnorable with
  | c :: _ => isCased c
  | [] => false

/-- A word ends between the reversed text `before` and the text `after`. -/
def endsWord (before after : List Char) : Bool := meetsCased before && !meetsCased after

/-- The lower case of `cs`, which follows the reversed text `before`. -/
def lowerFrom (before : List Char) : List Char → List Char
  | [] => []
  | c :: cs =>
    let here :=
      if c = capitalSigma then [if endsWord before cs then finalSigma else smallSigma]
      else lowerChar c
    here ++ lowerFrom (c :: before) cs

def lowercase (s : String) : String := String.ofList (lowerFrom [] s.toList)

end Whereto.Text
