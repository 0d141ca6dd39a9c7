import Whereto.Place.Destination
import Whereto.Place.Suggestion

/-!
The destination field and the list below it. Every lookup is made under a ticket; only the ticket
of the latest generation may change the list.
-/

namespace Whereto

/-- A query with the generation it was issued in. -/
structure Ticket where
  query : String
  generation : Nat
  deriving DecidableEq, Repr

structure Field where
  text : String
  precise : Bool
  suggestions : List Suggestion
  isOpen : Bool
  generation : Nat
  deriving DecidableEq, Repr

namespace Field

def empty : Field := ⟨"", false, [], false, 0⟩

/-- Whether a text is too short to be looked up. -/
def isShort (minChars : Nat) (text : String) : Bool := text.length < minChars

/-- Supersedes all tickets. -/
def supersede (f : Field) : Field := { f with generation := f.generation + 1 }

/-- A keystroke. A text that is too short has no suggestions. -/
def setText (minChars : Nat) (text : String) (f : Field) : Field :=
  let g := if isShort minChars text then { f.supersede with suggestions := [], isOpen := false }
    else f
  { g with text := text, precise := false }

/-- A ticket that supersedes all others. -/
def issue (query : String) (f : Field) : Ticket × Field :=
  (⟨query, f.generation + 1⟩, f.supersede)

/-- Shows a list; an empty list is not opened. -/
def display (ss : List Suggestion) (f : Field) : Field :=
  { f with suggestions := ss, isOpen := !ss.isEmpty }

/-- Takes over a suggestion and closes the list. -/
def select (s : Suggestion) (f : Field) : Field :=
  { f.supersede with text := s.value, precise := s.source = .geolocation, isOpen := false }

def dismiss (f : Field) : Field := { f with isOpen := false }

/-- Opens the list again if there is one. -/
def focus (f : Field) : Field := if f.suggestions.isEmpty then f else { f with isOpen := true }

/-- The destination that the field holds, if it can be used. -/
def submit? (f : Field) : Option Destination := Destination.resolve? (Text.trim f.text) f.precise

end Field

end Whereto
