/-!
Texts in pieces: cut at a separator, and joined by a comma and a space.
-/

namespace Whereto.Text

/-- The pieces between the separators, one more than there are separators. -/
def cut (separator : Char) : List Char → List (List Char)
  | [] => [[]]
  | c :: cs =>
    if c = separator then [] :: cut separator cs
    else
      match cut separator cs with
      | [] => [[c]]
      | piece :: pieces => (c :: piece) :: pieces

theorem cut_ne_nil (separator : Char) (cs : List Char) : cut separator cs ≠ [] := by
  cases cs with
  | nil => simp [cut]
  | cons c cs =>
    simp only [cut]
    split
    · simp
    · split <;> simp

/-- The parts with a comma and a space between them. -/
def joined : List String → String
  | [] => ""
  | [part] => part
  | part :: parts => part ++ ", " ++ joined parts

end Whereto.Text
