import Whereto.Proofs.Observer
import Whereto.Proofs.Session.Moves
import Whereto.Proofs.Telemetry.Reporting

/-!
Sessions that are monitored. A move of a monitored session is that of the session; its notes are
told to the telemetry on the way, and all else is said. So an observer of the session cannot tell
whether there is any telemetry, even if somebody switches the recorder on and off meanwhile or takes
its files away.
-/

namespace Whereto

open Picker (Output)

/-- A move at a time. Before it something may happen to the recorder, and what the move notes is
recorded at a moment. -/
structure Deed where
  time : ℕ
  move : Move
  moment : Moment
  meanwhile : Recorder → Recorder

/-- The telemetry when the move begins. -/
def Deed.affect (d : Deed) (x : Telemetry) : Telemetry :=
  { x with recorder := d.meanwhile x.recorder, moment := fun _ => d.moment }

/-- What is seen of a step: when it is, what is said, and the session after it. -/
structure Scene where
  time : ℕ
  said : List Output
  session : Session

namespace Monitored

/-- A move at a time. -/
def move (m : Monitored) : ℕ × Move → Monitored × List Output
  | (_, .input i) => m.input i
  | (now, .type text) => m.silent (·.typeText now text)
  | (now, .fire) => m.silent fun s => (s.fire now, [])
  | (_, .pump) => m.silent (·.pump)
  | (_, .leave) => m.silent fun s => (s.endTyping, [])

def step (m : Monitored) (d : Deed) : Monitored × List Output :=
  move ⟨m.session, m.telemetry.map d.affect⟩ (d.time, d.move)

/-- The session without telemetry. -/
def bare (m : Monitored) : Monitored := ⟨m.session, none⟩

/-- A step and what is seen of it. -/
def scene (m : Monitored) (d : Deed) : Id (Monitored × Scene) :=
  let (m, said) := m.step d
  (m, ⟨d.time, said, m.session⟩)

variable {m : Monitored}

/-- What a step of the session comes to when its notes are told. -/
def told (x : Option Telemetry) (s : Session × List Output) : Monitored × List Output :=
  (⟨s.1, x.map (·.tellAll (s.2.filterMap Output.note?))⟩, s.2.filter Output.isSaid)

lemma input_eq (m : Monitored) (i : Picker.Input) :
    m.input i = told m.telemetry (m.session.step i) := by
  rw [input, Reporting.step_eq]
  rfl

/-- What is said at a move is not noted, except at an input. -/
lemma silent_eq {f : Session → Session × List Output}
    (h : ∀ o ∈ (f m.session).2, o.isSaid = true) : m.silent f = told m.telemetry (f m.session) := by
  have hsaid : Reporting.told m.telemetry ((f m.session).1.picker, (f m.session).2) =
      (⟨(f m.session).1.picker, m.telemetry⟩, (f m.session).2) := Reporting.told_of_said h
  simp only [Reporting.told, Prod.mk.injEq, Reporting.mk.injEq, true_and] at hsaid
  simp only [silent, told, hsaid]

lemma said_pump (s : Session) : ∀ o ∈ s.pump.2, o.isSaid = true := by
  have dispatched (query : String) : ∀ o ∈ (s.picker.step (.dispatch query)).2,
      o.isSaid = true := by
    simp [Picker.step, Picker.dispatch, Picker.spawn, Output.isSaid]
  rcases Session.pump_cases s with ⟨query, -, -, -, hout⟩ | ⟨-, -, -, hout⟩ | ⟨-, hpump⟩
  · rw [hout]
    exact dispatched query
  · simp [hout]
  · simp [hpump]

/-- **A move of a monitored session** is that of the session; its notes are told, and all else is
said. -/
theorem move_eq (m : Monitored) (d : ℕ × Move) :
    m.move d = told m.telemetry (m.session.move d) := by
  obtain ⟨now, mv⟩ := d
  cases mv with
  | input i => exact input_eq m i
  | type text => exact silent_eq (f := (·.typeText now text)) nofun
  | fire => exact silent_eq (f := fun s => (s.fire now, [])) nofun
  | pump => exact silent_eq (said_pump m.session)
  | leave => exact silent_eq (f := fun s => (s.endTyping, [])) nofun

lemma session_step (m : Monitored) (d : Deed) :
    (m.step d).1.session = (m.session.move (d.time, d.move)).1 := by
  rw [step, move_eq]
  rfl

lemma said_step (m : Monitored) (d : Deed) :
    (m.step d).2 = (m.session.move (d.time, d.move)).2.filter Output.isSaid := by
  rw [step, move_eq]
  rfl

lemma telemetry_step (m : Monitored) (d : Deed) : (m.step d).1.telemetry =
    m.telemetry.map fun x => (d.affect x).tellAll
      ((m.session.move (d.time, d.move)).2.filterMap Output.note?) := by
  rw [step, move_eq, told, Option.map_map]
  rfl

lemma map_scene (m : Monitored) (d : Deed) :
    Prod.map bare id (m.scene d) = m.bare.scene d := by
  simp only [scene, step, move_eq]
  rfl

/-! ### Courses of monitored sessions -/

/-- The session of a course, apart from its telemetry. -/
def sessions (c : Course step) : Course Session.move where
  start := c.start.session
  input n := ((c.input n).time, (c.input n).move)

@[simp] lemma state_sessions (c : Course step) (n : ℕ) :
    (sessions c).state n = (c.state n).session := by
  induction n with
  | zero => rfl
  | succ n ih =>
    rw [Course.state_succ, ih, Course.state_succ, session_step]
    rfl

end Monitored

end Whereto
