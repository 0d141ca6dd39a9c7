import Whereto.Proofs.Telemetry.Detached
import Whereto.Service.Services

/-!
Telemetry is never seen. Of a picker, a session, a timeline, a rehearsal and the services as a whole
an observer sees the same with any telemetry as without, whatever happens to the recorder meanwhile:
what operations give, all that is said and asked and when, and the state that is left.
-/

namespace Whereto

open Picker (Input Output)

variable {m : Type → Type} [Monad m]

/-! ### Timelines and rehearsals -/

namespace Timeline

/-- An act before which something may happen to the telemetry; what is seen of it is its outcome and
the timeline. -/
def sight (world : World m) (t : Timeline) (a : Act × (Telemetry → Telemetry)) :
    m (Timeline × Outcome × Timeline) := do
  let (t, outcome) ← (t.attach (t.telemetry.map a.2)).play world a.1
  return (t, outcome, t.detach)

lemma map_sight [LawfulMonad m] (world : World m) (t : Timeline)
    (a : Act × (Telemetry → Telemetry)) : detached <$> t.sight world a = t.detach.sight world a :=
  map_bind_congr (map_play world (t.attach (t.telemetry.map a.2)) a.1) fun _ => map_pure ..

end Timeline

namespace Rehearsal

/-- The rehearsal without a recorder. -/
def bare (r : Rehearsal) : Rehearsal := ⟨r.timeline.detach, r.script, none, 0⟩

/-- An act before which something may happen to the recorder; what is seen of it is its outcome, the
timeline and what is left of the script. -/
def sight (moment : ℕ → Moment) (r : Rehearsal) (a : Act × (Recorder → Recorder)) :
    Id (Rehearsal × Outcome × Timeline × Script) :=
  let (r, outcome) := { r with recorder := r.recorder.map a.2 }.perform moment a.1
  (r, outcome, r.timeline, r.script)

/-- An act without a recorder. -/
lemma perform_bare (moment : ℕ → Moment) (r : Rehearsal) (a : Act) :
    r.bare.perform moment a = Prod.map bare id (r.perform moment a) := by
  let telemetry : Option Telemetry :=
    r.recorder.map fun recorder => ⟨recorder, moment, r.moments, []⟩
  have played := congrArg (StateT.run · r.script)
    (Timeline.map_play Script.answer (r.timeline.attach telemetry) a)
  simp only [StateT.run_map, Timeline.detach_attach] at played
  have hperform : r.bare.perform moment a =
      (fun x : (Timeline × Outcome) × Script =>
        (⟨x.1.1.attach none, x.2, x.1.1.telemetry.map (·.recorder),
          (x.1.1.telemetry.map (·.used)).getD 0⟩, x.1.2))
        ((r.timeline.detach.play Script.answer a).run r.script) := rfl
  rw [hperform, ← played]
  rfl

lemma map_sight (moment : ℕ → Moment) (r : Rehearsal) (a : Act × (Recorder → Recorder)) :
    Prod.map bare id (r.sight moment a) = r.bare.sight moment a := by
  have hperform := perform_bare moment { r with recorder := r.recorder.map a.2 } a.1
  exact (congrArg (fun x => (x.1, x.2, x.1.timeline, x.1.script)) hperform).symm

end Rehearsal

/-! ### Services -/

/-- What is asked of the services. -/
inductive Task where
  | input (i : Input)
  | call (c : Call)
  | search (text : String)
  | submit
  | renew
  | session (texts : List String)
  | shutdown

/-- What a task gives. -/
inductive Finding where
  | nothing
  | answered (a : Option Answer)
  | shown (b : Bool)
  | destination (d : Option Destination)
  deriving DecidableEq

namespace Timeline

/-- The task of a timeline that reports to nobody. -/
def work (world : World m) (quiet : ℕ) (t : Timeline) : Task → m (Timeline × Finding)
  | .input i => do return (← t.act world i, .nothing)
  | .call c => Prod.map id .answered <$> t.call world c
  | .search text => Prod.map id .shown <$> t.search world text
  | .submit => Prod.map id .destination <$> t.submit world
  | .renew => return (t.renew, .nothing)
  | .session texts => do return (← t.typeAll world quiet texts, .nothing)
  | .shutdown => return (t, .nothing)

/-- A task, and what is seen of it: what it gives and the timeline. There is no recorder that
anything could happen to. -/
def finding (world : World m) (quiet : ℕ) (t : Timeline) (a : Task × (Recorder → Recorder)) :
    m (Timeline × Finding × Timeline) := do
  let (t, found) ← t.work world quiet a.1
  return (t, found, t)

end Timeline

namespace Services

def work (net : Network m) (moment : ℕ → Moment) (s : Services) : Task → m (Services × Finding)
  | .input i => do return (← s.act net moment i, .nothing)
  | .call c => Prod.map id .answered <$> s.call net moment c
  | .search text => Prod.map id .shown <$> s.search net moment text
  | .submit => Prod.map id .destination <$> s.submit net moment
  | .renew => return (s.renew, .nothing)
  | .session texts => do return (← s.session net moment texts, .nothing)
  | .shutdown => return (s.shutdown moment, .nothing)

/-- A task before which something may happen to the recorder, and what is seen of it: what it gives
and the timeline. -/
def finding (net : Network m) (moment : ℕ → Moment) (s : Services)
    (a : Task × (Recorder → Recorder)) : m (Services × Finding × Timeline) := do
  let (s, found) ← { s with recorder := a.2 s.recorder }.work net moment a.1
  return (s, found, s.timeline.detach)

/-- The settings and the timeline without telemetry. -/
def bare (s : Services) : Settings × Timeline := (s.settings, s.timeline.detach)

lemma bare_resume (s : Services) (t : Timeline) : (s.resume t).bare = (s.settings, t.detach) := by
  unfold resume
  split <;> rfl

variable [LawfulMonad m] {α : Type}

/-- What does not depend on telemetry is done by the services as by their timeline alone. -/
lemma map_run (s : Services) (moment : ℕ → Moment) {f : Timeline → m (Timeline × α)}
    (hf : ∀ t, Timeline.detached <$> f t = f t.detach) :
    Prod.map bare id <$> s.run moment f =
      Prod.map (Prod.mk s.settings) id <$> f s.timeline.detach := by
  have hbare := hf (s.timeline.attach (some ⟨s.recorder, moment, s.moments, []⟩))
  rw [Timeline.detach_attach] at hbare
  rw [← hbare, run, map_bind, Functor.map_map, ← bind_pure_comp]
  refine bind_congr fun x => ?_
  rw [map_pure]
  exact congrArg (fun b => pure (b, x.2)) (bare_resume s x.1)

lemma map_act (s : Services) (net : Network m) (moment : ℕ → Moment) (i : Input) :
    bare <$> s.act net moment i =
      Prod.mk s.settings <$> s.timeline.detach.act (world s.settings net) i := by
  have hact (t : Timeline) :
      Timeline.detached <$> (do return (← t.act (world s.settings net) i, ())) =
        do return (← t.detach.act (world s.settings net) i, ()) :=
    map_bind_congr (Timeline.map_act _ t i) fun _ => map_pure ..
  have hrun := congrArg (Prod.fst <$> ·) (s.map_run moment hact)
  simpa [act] using hrun

lemma map_session (s : Services) (net : Network m) (moment : ℕ → Moment) (texts : List String) :
    bare <$> s.session net moment texts = Prod.mk s.settings <$>
      s.timeline.detach.typeAll (world s.settings net) s.settings.debounceMs texts := by
  have htyped (t : Timeline) :
      Timeline.detached <$> (do
          return (← t.typeAll (world s.settings net) s.settings.debounceMs texts, ())) =
        do return (← t.detach.typeAll (world s.settings net) s.settings.debounceMs texts, ()) :=
    map_bind_congr (Timeline.map_typeAll _ t _ texts) fun _ => map_pure ..
  have hrun := congrArg (Prod.fst <$> ·) (s.map_run moment htyped)
  simpa [session] using hrun

/-- What is found is found as by the timeline alone. -/
lemma map_found (s : Services) (moment : ℕ → Moment) (g : α → Finding)
    {f : Timeline → m (Timeline × α)} (hf : ∀ t, Timeline.detached <$> f t = f t.detach) :
    Prod.map bare id <$> Prod.map id g <$> s.run moment f =
      Prod.map (Prod.mk s.settings) id <$> Prod.map id g <$> f s.timeline.detach := by
  have hrun := congrArg (Functor.map (Prod.map id g)) (s.map_run moment hf)
  simp only [Functor.map_map] at hrun ⊢
  exact hrun

lemma map_work (s : Services) (net : Network m) (moment : ℕ → Moment) (task : Task) :
    Prod.map bare id <$> s.work net moment task = Prod.map (Prod.mk s.settings) id <$>
      s.timeline.detach.work (world s.settings net) s.settings.debounceMs task := by
  cases task with
  | input i =>
    have hact := congrArg (Functor.map (·, Finding.nothing)) (s.map_act net moment i)
    simpa [work, Timeline.work] using hact
  | call c => exact s.map_found moment _ fun t => Timeline.map_call _ t c
  | search text => exact s.map_found moment _ fun t => Timeline.map_search _ t text
  | submit => exact s.map_found moment _ fun t => Timeline.map_submit _ t
  | session texts =>
    have hsession := congrArg (Functor.map (·, Finding.nothing)) (s.map_session net moment texts)
    simpa [work, Timeline.work] using hsession
  | renew =>
    simp only [work, Timeline.work, map_pure]
    rfl
  | shutdown =>
    simp only [work, Timeline.work, map_pure]
    rfl

/-- What is seen of the services is what is seen of their timeline. -/
lemma sights_finding (net : Network m) (moment : ℕ → Moment)
    (conduct : List (Finding × Timeline) → Task × (Recorder → Recorder)) (s : Services) (n : ℕ) :
    sights (finding net moment) conduct s n =
      sights (Timeline.finding (world s.settings net) s.settings.debounceMs) conduct
        s.timeline.detach n := by
  let both (x : Settings × Timeline) (a : Task × (Recorder → Recorder)) :
      m ((Settings × Timeline) × Finding × Timeline) :=
    Prod.map (Prod.mk x.1) id <$> x.2.finding (world x.1 net) x.1.debounceMs a
  have hservices (s : Services) (a : Task × (Recorder → Recorder)) :
      Prod.map bare id <$> s.finding net moment a = both s.bare a := by
    have hwork := congrArg
      (Functor.map fun x : (Settings × Timeline) × Finding => (x.1, x.2, x.1.2))
      (map_work { s with recorder := a.2 s.recorder } net moment a.1)
    simpa [finding, Timeline.finding, both, bare] using hwork
  rw [sights_view hservices]
  exact (sights_view (fun _ _ => rfl) conduct s.timeline.detach n).symm

end Services

/-! ### The theorem -/

/-- **Telemetry is never seen.** A picker that reports takes the steps of the picker, a session that
is monitored those of the session, and both say what is not noted. Of a session, of a timeline in
any world, of a rehearsal and of the services an observer who decides by all that was seen what
happens next, and what becomes of the recorder meanwhile, sees the same with telemetry as
without. -/
theorem seen_without_recorder [LawfulMonad m] :
    (∀ (r : Reporting) (i : Input), (r.step i).1.picker = (r.picker.step i).1 ∧
      (r.step i).2 = (r.picker.step i).2.filter Output.isSaid) ∧
    (∀ (s : Monitored) (d : Deed),
      (s.step d).1.session = (s.session.move (d.time, d.move)).1 ∧
      (s.step d).2 = (s.session.move (d.time, d.move)).2.filter Output.isSaid) ∧
    (∀ (conduct : List Scene → Deed) (s : Session) (x : Telemetry) (n : ℕ),
      sights (m := Id) Monitored.scene conduct ⟨s, some x⟩ n =
        sights (m := Id) Monitored.scene conduct ⟨s, none⟩ n) ∧
    (∀ (world : Timeline.World m)
        (conduct : List (Outcome × Timeline) → Act × (Telemetry → Telemetry)) (t : Timeline)
        (x : Telemetry) (n : ℕ),
      sights (Timeline.sight world) conduct (t.attach (some x)) n =
        sights (Timeline.sight world) conduct (t.attach none) n) ∧
    (∀ (moment : ℕ → Moment)
        (conduct : List (Outcome × Timeline × Script) → Act × (Recorder → Recorder))
        (r : Rehearsal) (recorder : Recorder) (n : ℕ),
      sights (m := Id) (Rehearsal.sight moment) conduct { r with recorder := some recorder } n =
        sights (m := Id) (Rehearsal.sight moment) conduct { r with recorder := none } n) ∧
    ∀ (net : Network m) (moment : ℕ → Moment)
        (conduct : List (Finding × Timeline) → Task × (Recorder → Recorder)) (s : Services) (n : ℕ),
      sights (Services.finding net moment) conduct s n =
        sights (Timeline.finding (Services.world s.settings net) s.settings.debounceMs) conduct
          (s.timeline.attach none) n := by
  refine ⟨fun r i => ?_, fun s d => ⟨s.session_step d, s.said_step d⟩, fun conduct s x n => ?_, fun world conduct t x n => ?_,
    fun moment conduct r recorder n => ?_, fun net moment conduct s n => ?_⟩
  · rw [Reporting.step_eq]
    exact ⟨rfl, rfl⟩
  · exact sights_view (m := Id) Monitored.map_scene conduct ⟨s, some x⟩ n
  · exact sights_view (Timeline.map_sight world) conduct (t.attach (some x)) n
  · have unseen := sights_view (m := Id) (Rehearsal.map_sight moment) conduct
    exact (unseen { r with recorder := some recorder } n).trans
      (unseen { r with recorder := none } n).symm
  · exact s.sights_finding net moment conduct n

/-- A world that writes down what it is asked about. -/
def askedWorld : Timeline.World (StateM (List String))
  | .predict _ input => do
    modify (· ++ [input])
    return some (5, .predictions (.ok [⟨"Berlin", ["Berlin", "Germany"]⟩]))
  | .position _ => do
    modify (· ++ ["position"])
    return some (0, .position (.error .denied))
  | _ => return none

/-- A lookup, a position that is asked for in vain, and an empty field that is submitted twice; the
second time the recorder is switched off. -/
def errands (seen : List (Outcome × Timeline)) : Act × (Telemetry → Telemetry) :=
  match seen.length with
  | 0 => (.call (.handle "berl"), id)
  | 1 => (.call .useLocation, id)
  | 2 => (.input .submit, id)
  | _ => (.input .submit, (·.setEnabled false))

/-- A recorder without its directory, which tries to store every event at once. -/
def stranded : Telemetry :=
  ⟨⟨⟨true, 1, ⟨1000, 2⟩⟩, true, [], none⟩, fun _ => ⟨"noon", "1"⟩, 0, []⟩

/-- The errands, what is seen of them and what the world was asked about. -/
def errandsRun (x : Option Telemetry) : (Timeline × List (Outcome × Timeline)) × List String :=
  (watch (Timeline.sight askedWorld) errands
    ((Timeline.new (.bare (.new ⟨2, ⟨10000, true⟩⟩ .ready))).attach x) 4).run []

/-- Nothing can be stored, and nobody sees it. -/
theorem stranded_unseen :
    (errandsRun (some stranded)).1.1.telemetry.map (·.warnings) =
      some [("suggestions_resolved", .missing), ("geolocation_failed", .missing),
        ("destination_rejected", .missing)] ∧
    (errandsRun (some stranded)).1.2.map (·.1.answer) =
      [some (.applied true), some (.picked none), none, none] ∧
    (errandsRun (some stranded)).2 = ["berl", "position"] ∧
    (errandsRun (some stranded)).1.2 = (errandsRun none).1.2 ∧
    (errandsRun (some stranded)).2 = (errandsRun none).2 := by
  obtain ⟨-, -, -, hseen, -, -⟩ := seen_without_recorder (m := StateM (List String))
  have unseen := congrArg (StateT.run · []) (hseen askedWorld errands
    (Timeline.new (.bare (.new ⟨2, ⟨10000, true⟩⟩ .ready))) stranded 4)
  simp only [sights, StateT.run_map] at unseen
  obtain ⟨sameSights, sameQuestions⟩ := Prod.mk.inj unseen
  exact ⟨by decide +kernel, by decide +kernel, by decide +kernel, sameSights, sameQuestions⟩

end Whereto
