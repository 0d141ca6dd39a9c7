import Whereto.Picker.Reporting

/-!
A session on a virtual clock. Questions are answered by the world, at once or after a while or
never; time passes only when nothing is left to do. Answers and texts that are due are taken in
the order of their times.
-/

namespace Whereto

/-- A session with the time, what is due when, the jobs that were spawned and have not begun, and
all that came out so far, the latest first. -/
structure Timeline where
  monitored : Monitored
  clock : Nat
  agenda : List (Nat × Picker.Input)
  spawned : List Nat
  trace : List (Nat × Picker.Output)

namespace Timeline

open Picker (Input Output)

variable {m : Type → Type} [Monad m]

/-- How the world answers: after how many milliseconds, and what. -/
abbrev World (m : Type → Type) := Question → m (Option (Nat × Reply))

def new (s : Session) : Timeline := ⟨⟨s, none⟩, 0, [], [], []⟩

def session (t : Timeline) : Session := t.monitored.session

def picker (t : Timeline) : Picker := t.session.picker

def telemetry (t : Timeline) : Option Telemetry := t.monitored.telemetry

/-- The timeline with other telemetry, or without any. -/
def attach (t : Timeline) (x : Option Telemetry) : Timeline :=
  { t with monitored := { t.monitored with telemetry := x } }

/-- Puts an input on the agenda, behind others of the same time. -/
def schedule (due : Nat) (i : Input) : List (Nat × Input) → List (Nat × Input)
  | [] => [(due, i)]
  | x :: xs => if due < x.1 then (due, i) :: x :: xs else x :: schedule due i xs

/-- Enters an answer that takes a while into the agenda. The time for finding a position is
limited. -/
def plan (t : Timeline) (job : Nat) (q : Question) (answer : Option (Nat × Reply)) : Timeline :=
  let limit := match q with
    | .position options => some options.timeoutMs
    | _ => none
  let entry := match answer, limit with
    | some (delay, r), some limit =>
      if delay ≤ limit then some (delay, Input.reply job r) else some (limit, Input.expire job)
    | some (delay, r), none => some (delay, Input.reply job r)
    | none, some limit => some (limit, Input.expire job)
    | none, none => none
  match entry with
  | some (delay, i) => { t with agenda := schedule (t.clock + delay) i t.agenda }
  | none => t

def input (t : Timeline) (i : Input) : Timeline × List Output :=
  let (m, out) := t.monitored.input i
  ({ t with monitored := m }, out)

/-- Something that the session does with nothing to report. -/
def silent (t : Timeline) (f : Session → Session × List Output) : Timeline × List Output :=
  let (m, out) := t.monitored.silent f
  ({ t with monitored := m }, out)

/-- Works through outputs in order. A question that is answered at once goes on before the rest
is looked at; spawned jobs begin after all else. -/
def absorb (world : World m) : Nat → Timeline → List Output → m Timeline
  | 0, t, _ => pure t
  | fuel + 1, t, [] =>
    match t.spawned with
    | [] => pure t
    | job :: jobs =>
      let (t, out) := { t with spawned := jobs }.input (.begin job)
      absorb world fuel t out
  | fuel + 1, t, o :: out =>
    let t := { t with trace := (t.clock, o) :: t.trace }
    match o with
    | .spawned job _ => absorb world fuel { t with spawned := t.spawned ++ [job] } out
    | .ask job q => do
      match ← world q with
      | some (0, r) =>
        let (t, first) := t.input (.reply job r)
        absorb world fuel t (first ++ out)
      | answer => absorb world fuel (t.plan job q answer) out
    | _ => absorb world fuel t out

/-- More than the number of outputs that can come of some outputs: a job gives only a few. -/
def patience (t : Timeline) (out : List Output) : Nat :=
  16 * (t.picker.jobs.length + t.spawned.length + out.length + 4)

def react (world : World m) (t : Timeline) (out : List Output) : m Timeline :=
  absorb world (t.patience out) t out

def feed (world : World m) (t : Timeline) (i : Input) : m Timeline :=
  let (t, out) := t.input i
  t.react world out

/-- The time at which something is due. -/
def due? (t : Timeline) : Option Nat :=
  match t.agenda.head?.map (·.1), t.session.due? with
  | some a, some b => some (min a b)
  | a, b => a.or b

/-- Does what is due at a time. -/
def attend (world : World m) (t : Timeline) (due : Nat) : m Timeline :=
  let t := { t with clock := due }
  match t.agenda with
  | (at', i) :: rest =>
    if at' ≤ due then { t with agenda := rest }.feed world i
    else
      let (t, out) := t.silent (·.tick due)
      t.react world out
  | [] =>
    let (t, out) := t.silent (·.tick due)
    t.react world out

/-- More than the number of things that can become due. -/
def steps (t : Timeline) : Nat := 16 * (t.picker.jobs.length + t.agenda.length + 4)

def advanceFor (world : World m) : Nat → Timeline → Nat → m Timeline
  | 0, t, _ => pure t
  | fuel + 1, t, target =>
    match t.due? with
    | some due =>
      if due ≤ target then do
        let t ← t.attend world due
        advanceFor world fuel t target
      else pure { t with clock := target }
    | none => pure { t with clock := target }

/-- Lets the time pass up to a target, and does all that is due by then. -/
def advance (world : World m) (t : Timeline) (target : Nat) : m Timeline :=
  advanceFor world t.steps t target

/-- What a job answered when it finished. -/
def answer? (t : Timeline) (job : Nat) : Option Answer :=
  t.trace.findSome? fun o =>
    match o.2 with
    | .finish j a => if j = job then some a else none
    | _ => none

def awaitFor (world : World m) : Nat → Timeline → Nat → m Timeline
  | 0, t, _ => pure t
  | fuel + 1, t, job =>
    if (t.answer? job).isSome then pure t
    else
      match t.due? with
      | some due => do
        let t ← t.attend world due
        awaitFor world fuel t job
      | none => pure t

/-- Lets the time pass until a job has finished. -/
def await (world : World m) (t : Timeline) (job : Nat) : m Timeline := do
  let t ← awaitFor world t.steps t job
  t.advance world t.clock

/-- Starts a call; its job has the number that comes next. -/
def spawn (world : World m) (t : Timeline) (c : Call) : m (Timeline × Nat) := do
  let job := t.picker.nextJob
  let t ← t.feed world (.start c)
  let t ← t.advance world t.clock
  return (t, job)

/-- Starts a call and waits for its answer. -/
def call (world : World m) (t : Timeline) (c : Call) : m (Timeline × Option Answer) := do
  let job := t.picker.nextJob
  let t ← t.feed world (.start c)
  let t ← t.await world job
  return (t, t.answer? job)

/-- An input from outside, and all that can be done at once because of it. -/
def act (world : World m) (t : Timeline) (i : Input) : m Timeline := do
  let t ← t.feed world i
  t.advance world t.clock

def typeText (world : World m) (t : Timeline) (text : String) : m Timeline := do
  let (t, out) := t.silent (·.typeText t.clock text)
  let t ← t.react world out
  t.advance world t.clock

/-- Goes on with another session. -/
def switch (t : Timeline) (s : Session) : Timeline :=
  { t with monitored := { t.monitored with session := s } }

def endTyping (t : Timeline) : Timeline := t.switch t.session.endTyping

def wait (world : World m) (t : Timeline) (ms : Nat) : m Timeline := t.advance world (t.clock + ms)

/-- Types a text and looks it up; says whether it was shown. -/
def search (world : World m) (t : Timeline) (text : String) : m (Timeline × Bool) := do
  let t ← t.act world (.setText text)
  let (t, answer) ← t.call world (.handle text)
  return (t, answer = some (.applied true))

/-- The field if it can be used. -/
def submit (world : World m) (t : Timeline) : m (Timeline × Option Destination) := do
  let destination := t.picker.field.submit?
  return (← t.act world .submit, destination)

/-- Goes on with an empty field. -/
def renew (t : Timeline) : Timeline := t.switch (.bare { t.picker with field := .empty })

/-- Types texts one after the other without a pause into an empty field, and waits until they
are looked up. -/
def typeAll (world : World m) (t : Timeline) (quiet : Nat) (texts : List String) :
    m Timeline := do
  let t := t.switch (.start { t.picker with field := .empty } quiet)
  let t ← texts.foldlM (fun t text => t.typeText world text) t
  let t ← t.wait world quiet
  return t.endTyping

/-- All that came out in order, and a timeline that starts to collect anew. -/
def collect (t : Timeline) : List (Nat × Output) × Timeline :=
  (t.trace.reverse, { t with trace := [] })

end Timeline

end Whereto
