import Whereto.Picker.Debouncer
import Whereto.Picker.Machine

/-!
Typing sessions. Typed texts go into the field at once and through a debouncer into an inbox; a
text that comes out of the inbox is looked up if the field still holds it.
-/

namespace Whereto

/-- The texts that were typed and not looked up yet. -/
structure Typing where
  debouncer : Debouncer String
  inbox : List String
  deriving DecidableEq, Repr

/-- A picker with the session that types into it, as long as there is one. -/
structure Session where
  picker : Picker
  typing : Option Typing

namespace Session

open Picker (Input Output)

/-- A picker that nobody types into. -/
def bare (p : Picker) : Session := ⟨p, none⟩

def start (p : Picker) (quiet : Nat) : Session := ⟨p, some ⟨.new quiet, []⟩⟩

def step (s : Session) (i : Input) : Session × List Output :=
  let (p, out) := s.picker.step i
  ({ s with picker := p }, out)

def typeText (s : Session) (now : Nat) (text : String) : Session × List Output :=
  let (s, out) := s.step (.setText text)
  ({ s with typing := s.typing.map fun t => { t with debouncer := t.debouncer.push now text } },
    out)

/-- Moves a text that is due into the inbox. -/
def fire (s : Session) (now : Nat) : Session :=
  { s with typing := s.typing.map fun t =>
    let (d, text) := t.debouncer.fire now
    ⟨d, t.inbox ++ text.toList⟩ }

/-- Looks the first text of the inbox up, unless the field holds another text by now. -/
def pump (s : Session) : Session × List Output :=
  match s.typing with
  | some ⟨d, query :: rest⟩ =>
    let s := { s with typing := some ⟨d, rest⟩ }
    if query = s.picker.field.text then s.step (.dispatch query) else (s, [])
  | _ => (s, [])

/-- Lets a text that is due through. -/
def tick (s : Session) (now : Nat) : Session × List Output := (s.fire now).pump

/-- The session ends; what it had not looked up yet is forgotten. -/
def endTyping (s : Session) : Session := { s with typing := none }

/-- The time at which a typed text is due. -/
def due? (s : Session) : Option Nat := s.typing.bind fun t => t.debouncer.due?

end Session

end Whereto
