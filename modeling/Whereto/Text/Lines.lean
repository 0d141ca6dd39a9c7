/-!
Lines. A line ends with a line feed, which may follow a carriage return; the last line may have
no end.
-/

namespace Whereto.Text

/-- The lines of a text, each with its end. -/
def physicalLines : List Char → List (List Char)
  | [] => []
  | c :: cs =>
    if c = '\n' then [c] :: physicalLines cs
    else
      match physicalLines cs with
      | [] => [[c]]
      | l :: ls => (c :: l) :: ls

/-- The text without the end of its line. -/
def chomp (cs : List Char) : List Char :=
  match cs.reverse with
  | '\n' :: '\r' :: rest => rest.reverse
  | '\n' :: rest => rest.reverse
  | _ => cs

/-- The lines of a text without their ends. -/
def lines (s : String) : List String :=
  (physicalLines s.toList).map fun l => String.ofList (chomp l)

end Whereto.Text
