import Whereto.Picker.Rehearsal
import Whereto.Proofs.Telemetry.Monitored

/-!
Timelines with their telemetry taken off. It makes no difference whether the telemetry is taken off
before something is done or after it: the same comes out, the world is asked the same questions at
the same times, and the same timeline is left. This is shown from the input upwards, with one lemma
for each operation of a timeline.
-/

namespace Whereto

namespace Timeline

open Picker (Input Output)

variable {m : Type → Type} [Monad m] [LawfulMonad m] {α : Type}

/-- The timeline without telemetry. -/
def detach (t : Timeline) : Timeline := t.attach none

/-- What an operation gives, with the timeline that it leaves without telemetry. -/
def detached : Timeline × α → Timeline × α := Prod.map detach id

@[simp] lemma detach_attach (t : Timeline) (x : Option Telemetry) :
    (t.attach x).detach = t.detach := rfl

/-! ### What is done at once -/

lemma input_detach (t : Timeline) (i : Input) : t.detach.input i = detached (t.input i) := by
  simp only [input, Monitored.input_eq]
  rfl

lemma plan_detach (t : Timeline) (job : ℕ) (q : Question) (answer : Option (ℕ × Reply)) :
    t.detach.plan job q answer = (t.plan job q answer).detach := by
  unfold plan
  dsimp only
  split <;> rfl

/-! ### What the world has a part in -/

variable (world : World m)

lemma map_absorb (fuel : ℕ) (t : Timeline) (out : List Output) :
    detach <$> absorb world fuel t out = absorb world fuel t.detach out := by
  induction fuel generalizing t out with
  | zero => exact map_pure ..
  | succ fuel ih =>
    cases out with
    | nil =>
      have hspawned : t.detach.spawned = t.spawned := rfl
      simp only [absorb, hspawned]
      cases t.spawned with
      | nil => exact map_pure ..
      | cons job jobs =>
        have hinput := input_detach { t with spawned := jobs } (.begin job)
        exact (ih ..).trans (congrArg (fun x => absorb world fuel x.1 x.2) hinput.symm)
    | cons o out =>
      cases o with
      | ask job q =>
        simp only [absorb, map_bind]
        refine bind_congr fun answer => ?_
        split
        · next r =>
          have hreply := input_detach { t with trace := (t.clock, .ask job q) :: t.trace }
            (.reply job r)
          exact (ih ..).trans
            (congrArg (fun x => absorb world fuel x.1 (x.2 ++ out)) hreply.symm)
        · exact (ih ..).trans (congrArg (absorb world fuel · out) (plan_detach ..).symm)
      | _ => exact ih ..

lemma map_react (t : Timeline) (out : List Output) :
    detach <$> t.react world out = t.detach.react world out := map_absorb world _ t out

lemma map_feed (t : Timeline) (i : Input) : detach <$> t.feed world i = t.detach.feed world i := by
  rw [feed, feed, input_detach]
  exact map_react world ..

lemma map_attend (t : Timeline) (due : ℕ) :
    detach <$> t.attend world due = t.detach.attend world due := by
  obtain ⟨monitored, clock, agenda, spawned, trace⟩ := t
  cases agenda with
  | nil => exact map_react world ..
  | cons entry rest =>
    by_cases hdue : entry.1 ≤ due
    · simp only [attend, hdue, if_true, detach, attach]
      exact map_feed world ..
    · simp only [attend, hdue, if_false, detach, attach]
      exact map_react world ..

lemma map_advanceFor (fuel : ℕ) (t : Timeline) (target : ℕ) :
    detach <$> advanceFor world fuel t target = advanceFor world fuel t.detach target := by
  induction fuel generalizing t with
  | zero => exact map_pure ..
  | succ fuel ih =>
    have hdue : t.detach.due? = t.due? := rfl
    simp only [advanceFor, hdue]
    cases t.due? with
    | none => exact map_pure ..
    | some due =>
      by_cases hreached : due ≤ target
      · simp only [hreached, if_true]
        exact map_bind_congr (map_attend world t due) ih
      · simp only [hreached, if_false]
        exact map_pure ..

lemma map_advance (t : Timeline) (target : ℕ) :
    detach <$> t.advance world target = t.detach.advance world target :=
  map_advanceFor world _ t target

lemma map_awaitFor (fuel : ℕ) (t : Timeline) (job : ℕ) :
    detach <$> awaitFor world fuel t job = awaitFor world fuel t.detach job := by
  induction fuel generalizing t with
  | zero => exact map_pure ..
  | succ fuel ih =>
    have hanswer : t.detach.answer? job = t.answer? job := rfl
    have hdue : t.detach.due? = t.due? := rfl
    simp only [awaitFor, hanswer, hdue]
    by_cases hanswered : (t.answer? job).isSome
    · simp only [hanswered, if_true]
      exact map_pure ..
    · simp only [hanswered]
      cases t.due? with
      | none => exact map_pure ..
      | some due => exact map_bind_congr (map_attend world t due) ih

lemma map_await (t : Timeline) (job : ℕ) :
    detach <$> t.await world job = t.detach.await world job :=
  map_bind_congr (map_awaitFor world _ t job) fun t => map_advance world t t.clock

/-! ### Operations -/

lemma map_act (t : Timeline) (i : Input) : detach <$> t.act world i = t.detach.act world i :=
  map_bind_congr (map_feed world t i) fun t => map_advance world t t.clock

lemma map_typeText (t : Timeline) (text : String) :
    detach <$> t.typeText world text = t.detach.typeText world text :=
  map_bind_congr (map_react world _ _) fun t => map_advance world t t.clock

lemma map_wait (t : Timeline) (ms : ℕ) : detach <$> t.wait world ms = t.detach.wait world ms :=
  map_advance world t _

lemma map_spawn (t : Timeline) (c : Call) :
    detached <$> t.spawn world c = t.detach.spawn world c :=
  map_bind_congr (map_feed world t _) fun t =>
    map_bind_congr (map_advance world t t.clock) fun _ => map_pure ..

lemma map_call (t : Timeline) (c : Call) : detached <$> t.call world c = t.detach.call world c :=
  map_bind_congr (map_feed world t _) fun t =>
    map_bind_congr (map_await world t _) fun _ => map_pure ..

lemma map_search (t : Timeline) (text : String) :
    detached <$> t.search world text = t.detach.search world text :=
  map_bind_congr (map_act world t _) fun t =>
    map_bind_congr (map_call world t _) fun _ => map_pure ..

lemma map_submit (t : Timeline) : detached <$> t.submit world = t.detach.submit world :=
  map_bind_congr (map_act world t _) fun _ => map_pure ..

lemma map_typeAll (t : Timeline) (quiet : ℕ) (texts : List String) :
    detach <$> t.typeAll world quiet texts = t.detach.typeAll world quiet texts := by
  have typed (t : Timeline) : detach <$> texts.foldlM (fun t text => t.typeText world text) t =
      texts.foldlM (fun t text => t.typeText world text) t.detach := by
    induction texts generalizing t with
    | nil => exact map_pure ..
    | cons text texts ih =>
      simp only [List.foldlM_cons]
      exact map_bind_congr (map_typeText world t text) ih
  exact map_bind_congr (typed _) fun t =>
    map_bind_congr (map_wait world t quiet) fun _ => map_pure ..

/-- **Rehearsed steps**: whatever is done in a step, switching the recorder included, comes to the
same without telemetry. -/
theorem map_play (t : Timeline) (a : Act) :
    detached <$> t.play world a = t.detach.play world a := by
  cases a with
  | input i => exact map_bind_congr (map_act world t i) fun _ => map_pure ..
  | typeText text => exact map_bind_congr (map_typeText world t text) fun _ => map_pure ..
  | endTyping => exact map_pure ..
  | wait ms => exact map_bind_congr (map_wait world t ms) fun _ => map_pure ..
  | call c => exact map_bind_congr (map_call world t c) fun _ => map_pure ..
  | spawn c => exact map_bind_congr (map_spawn world t c) fun _ => map_pure ..
  | enable on => exact map_pure ..

end Timeline

end Whereto
