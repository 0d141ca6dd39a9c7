/-!
White space: the characters with the Unicode property White_Space, and trimming by them.
-/

namespace Whereto.Text

/-- The characters with the property White_Space. -/
def isBlank (c : Char) : Bool :=
  let n := c.toNat
  (9 ≤ n && n ≤ 13) || n == 0x20 || n == 0x85 || n == 0xA0 || n == 0x1680 ||
    (0x2000 ≤ n && n ≤ 0x200A) || n == 0x2028 || n == 0x2029 || n == 0x202F ||
    n == 0x205F || n == 0x3000

def trimStart (cs : List Char) : List Char := cs.dropWhile isBlank

def trimEnd (cs : List Char) : List Char := (cs.reverse.dropWhile isBlank).reverse

/-- The text without white space at either end. -/
def trim (s : String) : String := String.ofList (trimEnd (trimStart s.toList))

/-- A text is blank when it holds nothing but white space. -/
def blank (s : String) : Bool := s.toList.all isBlank

/-- The option without a blank text. -/
def nonBlank? (s : Option String) : Option String := s.filter (!blank ·)

end Whereto.Text
