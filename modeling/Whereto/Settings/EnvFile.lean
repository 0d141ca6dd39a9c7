import Whereto.Settings.Environment
import Whereto.Text.Alphanumeric
import Whereto.Text.Blank
import Whereto.Text.Lines

/-!
Files that set variables, one `NAME=value` a line. Quotes and backslashes may carry a value over
the end of a line; a dollar sign puts the value of another variable in. A line that is malformed
ends the file. A variable that is set already keeps its value.
-/

namespace Whereto.EnvFile

open Text (isBlank trimStart trimEnd physicalLines chomp)

/-! Lines. -/

/-- Where a text stands that is read to the end of an assignment. -/
inductive Quoting where
  | plain
  | escaped
  | afterBlank
  | weak
  | weakEscaped
  | strong
  | strongEscaped
  | comment
  deriving DecidableEq, Repr

def Quoting.next : Quoting → Char → Quoting
  | .plain, c =>
    if isBlank c && c != '\n' && c != '\r' then .afterBlank
    else if c = '\\' then .escaped
    else if c = '"' then .weak
    else if c = '\'' then .strong
    else .plain
  | .escaped, _ => .plain
  | .afterBlank, c =>
    if c = '#' then .comment
    else if c = '\\' then .escaped
    else if c = '"' then .weak
    else if c = '\'' then .strong
    else .plain
  | .weak, c => if c = '\\' then .weakEscaped else if c = '"' then .plain else .weak
  | .weakEscaped, _ => .weak
  | .strong, c => if c = '\\' then .strongEscaped else if c = '\'' then .plain else .strong
  | .strongEscaped, _ => .strong
  | .comment, _ => .comment

/-- What comes before a comment, and where the text stands at its end. -/
def beforeComment (q : Quoting) : List Char → List Char × Quoting
  | [] => ([], q)
  | c :: cs =>
    match q.next c with
    | .comment => ([], .comment)
    | next =>
      let (kept, last) := beforeComment next cs
      (c :: kept, last)

/-! Values. -/

/-- What the next character of a value belongs to. -/
inductive Part where
  | plain
  | escaped
  | strong
  | ending
  | comment
  | name (reversed : List Char)
  | braced (reversed : List Char)
  deriving DecidableEq, Repr

/-- A value that is being read: what it is so far, backwards, and whether it is in double
quotes. -/
structure Reading where
  part : Part
  weak : Bool
  output : List Char
  deriving DecidableEq, Repr

namespace Reading

def push (r : Reading) (c : Char) : Reading := { r with output := c :: r.output }

def goTo (r : Reading) (p : Part) : Reading := { r with part := p }

/-- Puts the value of a variable in. -/
def substitute (env : Environment) (r : Reading) (reversed : List Char) : Reading :=
  let value := (env.get? (String.ofList reversed.reverse)).getD ""
  { r with output := value.toList.reverse ++ r.output }

/-- A character outside single quotes, names and comments. -/
def readPlain (r : Reading) (c : Char) : Reading :=
  if c = '$' then r.goTo (.name [])
  else if r.weak then
    if c = '"' then { r with weak := false }
    else if c = '\\' then r.goTo .escaped
    else r.push c
  else if c = '\'' then r.goTo .strong
  else if c = '"' then { r with weak := true }
  else if c = '\\' then r.goTo .escaped
  else if c = ' ' ∨ c = '\t' then r.goTo .ending
  else r.push c

/-- The next character of a value, if the value can go on with it. -/
def read? (env : Environment) (r : Reading) (c : Char) : Option Reading :=
  match r.part with
  | .comment => some r
  | .ending =>
    if c = ' ' ∨ c = '\t' then some r else if c = '#' then some (r.goTo .comment) else none
  | .escaped =>
    if c = '\\' ∨ c = '\'' ∨ c = '"' ∨ c = '$' ∨ c = ' ' then some ((r.push c).goTo .plain)
    else if c = 'n' then some ((r.push '\n').goTo .plain)
    else none
  | .strong => some (if c = '\'' then r.goTo .plain else r.push c)
  | .name reversed =>
    if Text.isAlphanumeric c then some (r.goTo (.name (c :: reversed)))
    else if c = '\x7b' ∧ reversed.isEmpty then some (r.goTo (.braced []))
    else
      let r := r.substitute env reversed
      some (if c = '$' then r.goTo (.name []) else (r.push c).goTo .plain)
  | .braced reversed =>
    some (if c = '\x7d' then (r.substitute env reversed).goTo .plain
      else r.goTo (.braced (c :: reversed)))
  | .plain => some (r.readPlain c)

/-- The value, if nothing is left open. -/
def finish? (env : Environment) (r : Reading) : Option String :=
  let text (r : Reading) := String.ofList r.output.reverse
  if r.weak then none
  else
    match r.part with
    | .strong => none
    | .braced _ => none
    | .name reversed => some (text (r.substitute env reversed))
    | _ => some (text r)

end Reading

def readValue? (env : Environment) (cs : List Char) : Option String :=
  (cs.foldlM (Reading.read? env) ⟨.plain, false, []⟩).bind (Reading.finish? env)

/-! Assignments. -/

def startsName (c : Char) : Bool := ('a' ≤ c && c ≤ 'z') || ('A' ≤ c && c ≤ 'Z') || c = '_'

def inName (c : Char) : Bool := startsName c || ('0' ≤ c && c ≤ '9') || c = '.'

/-- A name, and what follows it. -/
def readName? (cs : List Char) : Option (List Char × List Char) :=
  match cs with
  | c :: _ => if startsName c then some (cs.takeWhile inName, cs.dropWhile inName) else none
  | [] => none

/-- What follows an equals sign. -/
def afterEquals? (cs : List Char) : Option (List Char) :=
  match trimStart cs with
  | '=' :: rest => some rest
  | _ => none

/-- A name and the text of its value. The word `export` may stand before the name. -/
def readAssignment? (cs : List Char) : Option (List Char × List Char) := do
  let (name, rest) ← readName? cs
  match afterEquals? rest with
  | some value => return (name, value)
  | none =>
    if name = ['e', 'x', 'p', 'o', 'r', 't'] then do
      let (name, rest) ← readName? (trimStart rest)
      let value ← afterEquals? rest
      return (name, value)
    else none

def startsComment (cs : List Char) : Bool := cs.isEmpty || cs.head? = some '#'

/-- The environment after a line, if the line is well formed. -/
def readLine? (env : Environment) (line : List Char) : Option Environment :=
  let cs := trimStart (trimEnd line)
  if startsComment cs then some env
  else do
    let (name, rest) ← readAssignment? cs
    let rest := trimStart rest
    let value ← if startsComment rest then some "" else readValue? env rest
    return env.setIfUnset (String.ofList name) value

/-! Files. -/

/-- A file that is being loaded: the line that goes on, and the environment so far. -/
structure Loading where
  line : List Char
  quoting : Quoting
  env : Environment
  stopped : Bool

namespace Loading

/-- A line is complete. -/
def take (s : Loading) (line : List Char) : Loading :=
  match readLine? s.env line with
  | some env => ⟨[], .plain, env, false⟩
  | none => { s with stopped := true }

def next (s : Loading) (l : List Char) : Loading :=
  if s.stopped then s
  else
    let whole := s.line ++ l
    if (trimStart whole).head? = some '#' then ⟨[], .plain, s.env, false⟩
    else
      let (kept, q) := beforeComment s.quoting l
      match q with
      | .plain => s.take (chomp whole)
      | .comment => s.take (s.line ++ kept)
      | q => { s with line := whole, quoting := q }

end Loading

/-- The mark that may start a file. -/
def byteOrderMark : Char := '\ufeff'

def withoutMark (cs : List Char) : List Char :=
  match cs with
  | c :: rest => if c = byteOrderMark then rest else cs
  | [] => []

/-- The environment with the variables that a file sets. -/
def load (env : Environment) (text : String) : Environment :=
  let lines := physicalLines (withoutMark text.toList)
  (lines.foldl Loading.next ⟨[], .plain, env, false⟩).env

end Whereto.EnvFile
