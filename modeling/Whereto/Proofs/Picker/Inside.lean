import Mathlib.Logic.Function.Basic
import Whereto.Proofs.Picker.Sound

/-!
What happens inside a picker: its predictor, its locator, the stages of its jobs, and what comes
out that belongs to them. The field is left out. What a step can do inside is said once, and what
holds of all steps is read off it.
-/

namespace Whereto

namespace Stage

/-- Whether the predictor is loaded, or is to be. -/
def isLoad : Stage → Bool
  | spawned .load | loading | queued => true
  | _ => false

/-- Whether suggestions are looked up, or are to be. -/
def isSearch : Stage → Bool
  | spawned (.complete _) | predicting _ _ | searching _ => true
  | _ => false

/-- What was asked by a job that is at a stage. -/
inductive Asks : Stage → Question → Prop
  | loading : Asks .loading .load
  | predicting {client : Nat} {query : String} {purpose : Purpose} :
      Asks (.predicting query purpose) (.predict client query)
  | searching {purpose : Purpose} {term : String} : Asks (.searching purpose) (.cities term)
  | positioning {fill : Bool} {options : PositionOptions} :
      Asks (.positioning fill) (.position options)
  | describing {x : Coordinates} {fill : Bool} : Asks (.describing x fill) (.address x)

end Stage

namespace Picker

/-- Whether an output belongs to the inside: a background job, a question, or the end of a call
that waited for the predictor. -/
def Output.isInner : Output → Bool
  | .spawned _ .load | .ask _ _ | .finish _ (.ready _) => true
  | _ => false

structure Inside where
  primary : Primary
  locator : Locator
  stage : Nat → Option Stage
  told : List Output

/-- The inside of a picker that nothing happens to. -/
def inside (p : Picker) : Inside := ⟨p.primary, p.locator, p.stage?, []⟩

@[simp] lemma primary_inside (p : Picker) : p.inside.primary = p.primary := rfl

@[simp] lemma stage_inside (p : Picker) (job : Nat) : p.inside.stage job = p.stage? job := rfl

def Step.inside (r : Step) : Inside := { r.1.inside with told := r.2.filter Output.isInner }

lemma mem_inside {r : Step} {o : Output} (ho : o.isInner = true) :
    o ∈ r.inside.told ↔ o ∈ r.2 := by
  simp [Step.inside, ho]

namespace Inside

variable (v : Inside)

/-- A job gets to a stage, or it is over, and something comes out. -/
def put (job : Nat) (s : Option Stage) (out : List Output) : Inside :=
  { v with stage := Function.update v.stage job s, told := v.told ++ out }

/-- Some jobs learn what came of a load. -/
def leave (line : List Nat) (failure : Option Failure) : Inside where
  primary := { v.primary with background := v.primary.background.filter (· ∉ line) }
  locator := v.locator
  stage job := if job ∈ line then none else v.stage job
  told := v.told ++ line.map fun job => .finish job (.ready failure)

/-- A job runs a load. -/
def load (job : Nat) : Inside :=
  { v with primary := { v.primary with
      loading := some job, loads := v.primary.loads + 1 } }.put job (some .loading)
    [.ask job .load]

/-- The next in line runs a load. -/
def next : Inside :=
  match v.primary.waiting with
  | [] => { v with primary := { v.primary with loading := none } }
  | job :: rest => { v with primary := { v.primary with waiting := rest } }.load job

variable {v} in
lemma next_nil (h : v.primary.waiting = []) :
    v.next = { v with primary := { v.primary with loading := none } } := by
  rw [next, h]

variable {v} in
lemma next_cons {job : Nat} {rest : List Nat} (h : v.primary.waiting = job :: rest) :
    v.next = { v with primary := { v.primary with waiting := rest } }.load job := by
  rw [next, h]

@[simp] lemma put_stage_self {job : Nat} {s : Option Stage} {out : List Output} :
    (v.put job s out).stage job = s := Function.update_self ..

lemma put_stage {j job : Nat} {s : Option Stage} {out : List Output} (h : j ≠ job) :
    (v.put job s out).stage j = v.stage j := Function.update_of_ne h ..

lemma next_locator : v.next.locator = v.locator := by
  unfold next
  split <;> rfl

lemma next_stage {j : Nat} (h : j ∉ v.primary.waiting) : v.next.stage j = v.stage j := by
  cases hline : v.primary.waiting with
  | nil => rw [next_nil hline]
  | cons job rest =>
    have hne : j ≠ job := fun hj => h (by simp [hline, hj])
    rw [next_cons hline]
    exact put_stage _ hne

lemma leave_nil (failure : Option Failure) : v.leave [] failure = v := by
  have hfilter : v.primary.background.filter (· ∉ []) = v.primary.background := by
    cases v.primary.background <;> simp
  simp only [leave, hfilter]
  simp

lemma leave_singleton (job : Nat) (failure : Option Failure) : v.leave [job] failure =
    { v with primary := { v.primary with
        background := v.primary.background.filter (· ≠ job) } }.put job none
      [.finish job (.ready failure)] := by
  have hstage : (fun j => if j = job then none else v.stage j) =
      Function.update v.stage job none := by
    ext1 j
    by_cases hj : j = job
    · simp [hj]
    · rw [if_neg hj, Function.update_of_ne hj]
  simp [leave, put, hstage]

lemma leave_leave (l₁ l₂ : List Nat) (failure : Option Failure) :
    (v.leave l₁ failure).leave l₂ failure = v.leave (l₁ ++ l₂) failure := by
  have hstage (j : Nat) : (if j ∈ l₂ then none else if j ∈ l₁ then none else v.stage j) =
      if j ∈ l₁ ++ l₂ then none else v.stage j := by
    by_cases h₁ : j ∈ l₁ <;> by_cases h₂ : j ∈ l₂ <;> simp [h₁, h₂]
  simp [leave, hstage, Option.filter_filter]

end Inside

/-! ### The inside of single operations -/

variable (p : Picker) (job : Nat)

variable {p job} in
/-- One job is moved, and nothing else is touched. -/
lemma inside_eq_put {q : Picker} {s : Option Stage} (hjob : q.stage? job = s)
    (hother : ∀ j, j ≠ job → q.stage? j = p.stage? j) (hprimary : q.primary = p.primary)
    (hlocator : q.locator = p.locator) : q.inside = p.inside.put job s [] := by
  have hstage : q.stage? = Function.update p.stage? job s := by
    ext1 j
    by_cases hj : j = job
    · rw [hj, hjob, Function.update_self]
    · rw [hother j hj, Function.update_of_ne hj]
  simp only [inside, hstage, hprimary, hlocator]
  rfl

lemma inside_retire : (p.retire job).inside = p.inside.put job none [] :=
  inside_eq_put (stage?_retire_self p) (fun _ hj => stage?_retire p hj) rfl rfl

lemma inside_enter (s : Stage) : (p.enter job s).inside = p.inside.put job (some s) [] :=
  inside_eq_put (stage?_enter_self p) (fun _ hj => stage?_enter p hj) rfl rfl

lemma inside_spawn (e : Errand) : (p.spawn e).inside =
    p.inside.put p.nextJob (some (.spawned e))
      ([.spawned p.nextJob e].filter Output.isInner) := by
  have hput := inside_eq_put (stage?_spawn_self p e) (fun _ hj => stage?_spawn p e hj) rfl rfl
  rw [Step.inside, hput]
  rfl

lemma inside_await (s : Stage) (q : Question) :
    (p.await job s q).inside = p.inside.put job (some s) [.ask job q] := by
  rw [Step.inside, await, inside_enter]
  rfl

/-- A job that is over without having waited for the predictor. -/
lemma inside_over {out : List Output} (h : out.filter Output.isInner = []) :
    Step.inside (p.retire job, out) = p.inside.put job none [] := by
  rw [Step.inside, inside_retire, h]
  rfl

/-- The second of two steps has its outputs after those of the first one. -/
lemma inside_andThen (r : Step) (f : Picker → Step) : (andThen r f).inside =
    { (f r.1).inside with told := r.inside.told ++ (f r.1).inside.told } := by
  simp [andThen, Step.inside]

lemma inside_andThen_put (r : Step) {f : Picker → Step} {s : Option Stage} {out : List Output}
    (hf : ∀ q, (f q).inside = q.inside.put job s out) :
    (andThen r f).inside = r.inside.put job s out := by
  rw [inside_andThen, hf]
  rfl

/-! ### Loading the predictor -/

lemma inside_leave (failure : Option Failure) :
    (p.leave job failure).inside = p.inside.leave [job] failure := by
  have hdone (q : Picker) : (q.done job (.ready failure)).inside =
      q.inside.put job none [.finish job (.ready failure)] := by
    rw [Step.inside, done, inside_retire]
    rfl
  have hfilter : p.primary.background.filter (· ≠ job) =
      if p.primary.background = some job then none else p.primary.background := by
    cases p.primary.background with
    | none => rfl
    | some b => by_cases hb : b = job <;> simp [hb, Option.filter_some]
  rw [Picker.leave, hdone, Inside.leave_singleton]
  simp only [inside, hfilter]
  split <;> rfl

lemma inside_startLoad : (p.startLoad job).inside = p.inside.load job := by
  rw [startLoad, inside_await]
  rfl

lemma inside_loadNext : p.loadNext.inside = p.inside.next := by
  unfold loadNext
  split
  · rename_i hline
    rw [Inside.next_nil hline]
    rfl
  · rename_i hline
    rw [Inside.next_cons hline, inside_startLoad]
    rfl

lemma inside_loadFailed (e : Failure) :
    (p.loadFailed job e).inside = (p.inside.leave [job] (some e)).next := by
  rw [loadFailed, inside_andThen, inside_loadNext, ← inside_leave]
  cases hline : (p.leave job (some e)).1.primary.waiting with
  | nil =>
    rw [Inside.next_nil hline, Inside.next_nil hline]
    simp [Step.inside, inside]
  | cons j rest =>
    rw [Inside.next_cons hline, Inside.next_cons hline]
    simp [Step.inside, inside, Inside.load, Inside.put]

lemma inside_line (line : List Nat) (r : Step) :
    (line.foldl (fun s j => andThen s (leave · j none)) r).inside = r.inside.leave line none := by
  induction line generalizing r with
  | nil => rw [List.foldl_nil, Inside.leave_nil]
  | cons j line ih =>
    have hone : (andThen r (leave · j none)).inside = r.inside.leave [j] none := by
      rw [inside_andThen, inside_leave]
      simp [Step.inside, inside, Inside.leave]
    rw [List.foldl_cons, ih, hone, Inside.leave_leave, List.singleton_append]

/-- The load has succeeded: the predictor is there, and all that waited for it are served. -/
def Inside.ready (v : Inside) (job : Nat) : Inside :=
  { v with primary := { v.primary with
      client := some v.primary.loads, loading := none, waiting := [] } }.leave
    (job :: v.primary.waiting) none

lemma inside_loadDone : (p.loadDone job).inside = p.inside.ready job := by
  rw [loadDone, inside_line]
  rfl

lemma inside_warmUp : p.warmUp.inside =
    if p.primary.isReady || p.primary.background.isSome then p.inside
    else { p.inside with primary := { p.primary with background := some p.nextJob } }.put p.nextJob
      (some (.spawned .load)) [.spawned p.nextJob .load] := by
  unfold warmUp
  split
  · rfl
  · rw [inside_spawn]
    rfl

/-! ### Looking up -/

lemma inside_conclude (purpose : Purpose) (found : List Suggestion) :
    (p.conclude job purpose found).inside = p.inside.put job none [] := by
  cases purpose with
  | display t =>
    unfold conclude
    dsimp only
    split
    · exact inside_over { p with field := p.field.display found } job (by split <;> rfl)
    · exact inside_over p job rfl
  | offer => exact inside_over p job rfl
  | predictOnly => exact inside_over p job rfl

lemma inside_settle (fill : Bool) : (p.settle job fill).inside = p.inside.put job none [] := by
  unfold settle
  split
  · split
    · exact inside_over p job rfl
    · split
      · rename_i s _
        exact inside_over { p with field := p.field.select s } job rfl
      · exact inside_over p job rfl
  · exact inside_over p job rfl

end Picker

end Whereto
