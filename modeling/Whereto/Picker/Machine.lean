import Whereto.Picker.Job
import Whereto.Text.Lowercase

/-!
The picker as a machine. It holds the destination field, the predictor of the places service
once that is loaded, the position of the device, and the jobs that are under way. An input, be it
from the user or an answer that a job waited for, changes the picker and gives outputs in order.
The machine knows no time: in which order inputs come is up to whoever runs it.
-/

namespace Whereto

/-- The predictor of the places service. It is loaded when it is first needed, by one job at a
time; others that need it wait in line. -/
structure Primary where
  /-- The load that gave the predictor. -/
  client : Option Nat
  /-- The background job that loads the predictor. -/
  background : Option Nat
  /-- The job that runs a load. -/
  loading : Option Nat
  /-- The jobs that wait for it, first come first. -/
  waiting : List Nat
  /-- How many loads were started. -/
  loads : Nat
  deriving DecidableEq, Repr

namespace Primary

def unloaded : Primary := ⟨none, none, none, [], 0⟩

/-- Loaded once, before anybody asked. -/
def ready : Primary := ⟨some 1, none, none, [], 1⟩

def isReady (p : Primary) : Bool := p.client.isSome

end Primary

structure PickerOptions where
  minChars : Nat
  position : PositionOptions
  deriving DecidableEq, Repr

/-- The field, the sources and the jobs that wait for something. -/
structure Picker where
  options : PickerOptions
  field : Field
  primary : Primary
  locator : Locator
  jobs : List (Nat × Stage)
  nextJob : Nat

namespace Picker

inductive Input where
  | setText (text : String)
  | issue (query : String)
  | dispatch (query : String)
  | select (s : Suggestion)
  | selectIndex (index : Nat)
  | dismiss
  | focus
  | submit
  | warmUp
  | start (call : Call)
  | begin (job : Nat)
  | reply (job : Nat) (r : Reply)
  | expire (job : Nat)
  | cancel (job : Nat)

inductive Output where
  | issued (ticket : Ticket)
  | picked (suggestion : Option Suggestion)
  | submitted (destination : Option Destination)
  | started (job : Nat)
  | spawned (job : Nat) (errand : Errand)
  | ask (job : Nat) (question : Question)
  | finish (job : Nat) (answer : Answer)
  | note (n : Note)

/-- A picker after an input, with what came out. -/
abbrev Step := Picker × List Output

def new (options : PickerOptions) (primary : Primary) : Picker :=
  ⟨options, .empty, primary, .idle, [], 0⟩

def isShort (p : Picker) (text : String) : Bool := Field.isShort p.options.minChars text

def stage? (p : Picker) (job : Nat) : Option Stage := p.jobs.lookup job

/-- The job is no longer under way. -/
def retire (p : Picker) (job : Nat) : Picker :=
  { p with jobs := p.jobs.filter fun j => j.1 ≠ job }

/-- The job goes on to a stage. -/
def enter (p : Picker) (job : Nat) (s : Stage) : Picker :=
  { p with jobs := (job, s) :: (p.retire job).jobs }

def await (p : Picker) (job : Nat) (s : Stage) (q : Question) : Step :=
  (p.enter job s, [.ask job q])

def done (p : Picker) (job : Nat) (a : Answer) : Step := (p.retire job, [.finish job a])

/-- A step that follows another one. -/
def andThen (s : Step) (f : Picker → Step) : Step :=
  let (q, out) := f s.1
  (q, s.2 ++ out)

/-- A new job that has not begun yet. -/
def spawn (p : Picker) (e : Errand) : Step :=
  ({ p with jobs := (p.nextJob, .spawned e) :: p.jobs, nextJob := p.nextJob + 1 },
    [.spawned p.nextJob e])

/-! Loading the predictor. -/

/-- Spawns the background job, unless there is one or nothing to load. -/
def warmUp (p : Picker) : Step :=
  if p.primary.isReady || p.primary.background.isSome then (p, [])
  else { p with primary := { p.primary with background := some p.nextJob } }.spawn .load

def startLoad (p : Picker) (job : Nat) : Step :=
  let q := { p with primary := { p.primary with
    loading := some job, loads := p.primary.loads + 1 } }
  q.await job .loading .load

/-- The job leaves the line with what came of the load. -/
def leave (p : Picker) (job : Nat) (failure : Option Failure) : Step :=
  let q := if p.primary.background = some job then
      { p with primary := { p.primary with background := none } }
    else p
  q.done job (.ready failure)

/-- Loads the predictor, or waits for the load under way. -/
def ensureReady (p : Picker) (job : Nat) : Step :=
  if p.primary.isReady then p.leave job none
  else
    match p.primary.loading with
    | none => p.startLoad job
    | some _ =>
      ({ p with primary := { p.primary with waiting := p.primary.waiting ++ [job] } }.enter job
        .queued, [])

/-- The next in line loads. -/
def loadNext (p : Picker) : Step :=
  match p.primary.waiting with
  | [] => ({ p with primary := { p.primary with loading := none } }, [])
  | job :: rest => { p with primary := { p.primary with waiting := rest } }.startLoad job

def loadDone (p : Picker) (job : Nat) : Step :=
  let line := job :: p.primary.waiting
  let q := { p with primary := { p.primary with
    client := some p.primary.loads, loading := none, waiting := [] } }
  line.foldl (fun s j => andThen s (leave · j none)) (q, [])

def loadFailed (p : Picker) (job : Nat) (e : Failure) : Step :=
  andThen (p.leave job (some e)) loadNext

/-! Looking up suggestions. -/

/-- Ends a lookup. Suggestions that came too late are dropped. -/
def conclude (p : Picker) (job : Nat) (purpose : Purpose) (ss : List Suggestion) : Step :=
  match purpose with
  | .display t =>
    if t.generation = p.field.generation then
      let notes := if p.isShort t.query then []
        else [.note (.resolved t.query (ss.head?.map (·.source)) ss.length)]
      ({ p with field := p.field.display ss }.retire job, notes ++ [.finish job (.applied true)])
    else
      (p.retire job, [.note (.discarded t.query t.generation p.field.generation),
        .finish job (.applied false)])
  | .offer => p.done job (.offered ss)
  | .predictOnly => p.done job (.offered ss)

/-- Asks the city directory. -/
def search (p : Picker) (job : Nat) (query : String) (purpose : Purpose) : Step :=
  p.await job (.searching purpose) (.cities (Text.lowercase query))

/-- What follows when the predictor has nothing to offer. -/
def fallBack (p : Picker) (job : Nat) (query : String) (purpose : Purpose) : Step :=
  match purpose with
  | .predictOnly => p.conclude job purpose []
  | _ => p.search job query purpose

def lookup (p : Picker) (job : Nat) (query : String) (purpose : Purpose) : Step :=
  match p.primary.client with
  | some client => p.await job (.predicting query purpose) (.predict client query)
  | none => andThen p.warmUp (fallBack · job query purpose)

def complete (p : Picker) (job : Nat) (t : Ticket) : Step :=
  if p.isShort t.query then p.conclude job (.display t) [] else p.lookup job t.query (.display t)

def usable : Except Failure (List Prediction) → List Suggestion
  | .ok ps => ps.filterMap Prediction.suggestion?
  | .error _ => []

def directoryEntries : Except Failure (List CityRecord) → List Suggestion
  | .ok rs => rs.map CityRecord.suggestion
  | .error _ => []

/-! Locating the device. -/

/-- Ends a lookup of the position; to fill the field, what the locator knows is picked. -/
def settle (p : Picker) (job : Nat) (fill : Bool) : Step :=
  if fill then
    match p.locator.error with
    | some e =>
      (p.retire job, [.note (.locatingFailed e.message), .finish job (.picked none)])
    | none =>
      match p.locator.suggestion? with
      | some s => ({ p with field := p.field.select s }.done job (.picked (some s)))
      | none => p.done job (.picked none)
  else p.done job .nothing

/-- Looks the position up, unless that is being done already. -/
def locate (p : Picker) (job : Nat) (fill : Bool) : Step :=
  if p.locator.locating then p.settle job fill
  else
    { p with locator := p.locator.begin }.await job (.positioning fill)
      (.position p.options.position)

def locatingFailed (p : Picker) (job : Nat) (fill : Bool) (e : LocatingFault) : Step :=
  { p with locator := p.locator.fail e }.settle job fill

/-! Inputs. -/

def start (p : Picker) (call : Call) : Step :=
  let job := p.nextJob
  let q := { p with nextJob := job + 1 }
  andThen (q, [.started job]) fun q =>
    match call with
    | .complete t => q.complete job t
    | .handle query =>
      let (t, field) := q.field.issue query
      { q with field := field }.complete job t
    | .lookup query => q.lookup job query .offer
    | .predict query => q.lookup job query .predictOnly
    | .fallback query => q.search job query .offer
    | .ensureReady => q.ensureReady job
    | .locate => q.locate job false
    | .useLocation => q.locate job true

/-- A spawned job begins. -/
def begin (p : Picker) (job : Nat) : Step :=
  match p.stage? job with
  | some (.spawned .load) => p.ensureReady job
  | some (.spawned (.complete t)) => p.complete job t
  | _ => (p, [])

/-- An answer to a job. One that does not belong to its stage has no effect. -/
def reply (p : Picker) (job : Nat) (r : Reply) : Step :=
  match p.stage? job, r with
  | some .loading, .loaded (.ok ()) => p.loadDone job
  | some .loading, .loaded (.error e) => p.loadFailed job e
  | some (.predicting query purpose), .predictions result =>
    let ss := usable result
    if ss.isEmpty then p.fallBack job query purpose else p.conclude job purpose ss
  | some (.searching purpose), .cities result => p.conclude job purpose (directoryEntries result)
  | some (.positioning fill), .position (.ok c) => p.await job (.describing c fill) (.address c)
  | some (.positioning fill), .position (.error e) => p.locatingFailed job fill e
  | some (.describing c fill), .address result =>
    { p with locator := p.locator.found ⟨c, Address.describe c result.toOption⟩ }.settle job fill
  | _, _ => (p, [])

/-- The time for finding the position is over. -/
def expire (p : Picker) (job : Nat) : Step :=
  match p.stage? job with
  | some (.positioning fill) => p.locatingFailed job fill .timeout
  | _ => (p, [])

/-- A job is dropped where it stands. The background job belongs to nobody and is never
dropped. -/
def cancel (p : Picker) (job : Nat) : Step :=
  if p.primary.background = some job then (p, [])
  else
    match p.stage? job with
    | none => (p, [])
    | some .loading => (p.retire job).loadNext
    | some .queued =>
      ({ p with primary := { p.primary with
        waiting := p.primary.waiting.filter (· ≠ job) } }.retire job, [])
    | some (.positioning _) => ({ p with locator := p.locator.giveUp }.retire job, [])
    | some (.describing _ _) => ({ p with locator := p.locator.giveUp }.retire job, [])
    | some _ => (p.retire job, [])

def issue (p : Picker) (query : String) : Step :=
  let (t, field) := p.field.issue query
  ({ p with field := field }, [.issued t])

/-- Issues a ticket and leaves its lookup to a job of its own. -/
def dispatch (p : Picker) (query : String) : Step :=
  let (t, field) := p.field.issue query
  { p with field := field }.spawn (.complete t)

def selectIndex (p : Picker) (index : Nat) : Step :=
  match p.field.suggestions[index]? with
  | some s => ({ p with field := p.field.select s }, [.picked (some s)])
  | none => (p, [.picked none])

def submit (p : Picker) : Step :=
  match p.field.submit? with
  | some d => (p, [.submitted (some d)])
  | none => (p, [.note (.rejected (Text.trim p.field.text)), .submitted none])

def step (p : Picker) : Input → Step
  | .setText text => ({ p with field := p.field.setText p.options.minChars text }, [])
  | .issue query => p.issue query
  | .dispatch query => p.dispatch query
  | .select s => ({ p with field := p.field.select s }, [])
  | .selectIndex index => p.selectIndex index
  | .dismiss => ({ p with field := p.field.dismiss }, [])
  | .focus => ({ p with field := p.field.focus }, [])
  | .submit => p.submit
  | .warmUp => p.warmUp
  | .start call => p.start call
  | .begin job => p.begin job
  | .reply job r => p.reply job r
  | .expire job => p.expire job
  | .cancel job => p.cancel job

/-- A run of inputs with all that came out. -/
def run (p : Picker) (inputs : List Input) : Step :=
  inputs.foldl (fun s i => andThen s (step · i)) (p, [])

end Picker

end Whereto
