import Mathlib.Algebra.GroupWithZero.Nat
import Mathlib.Algebra.Order.BigOperators.Group.List
import Mathlib.Algebra.Order.Group.Nat
import Whereto.Proofs.Picker.Trail

/-!
Trails as courses. Where a trail rests, the course has an input for a job that does not exist, and
such an input does nothing; so whatever holds of all courses of the picker holds of its trails.
-/

namespace Whereto.Picker

/-- The number of no job. -/
def unused (p : Picker) : Nat := (p.jobs.map (·.1)).sum + 1

variable {p : Picker} {r : Trail} {n : ℕ}

lemma stage?_unused (p : Picker) : p.stage? p.unused = none := by
  rw [stage?, List.lookup_eq_none_iff]
  intro x hx
  have hle : x.1 ≤ (p.jobs.map (·.1)).sum := List.le_sum_of_mem (List.mem_map_of_mem hx)
  have hne : p.unused ≠ x.1 := by
    rw [unused]
    omega
  simpa using hne

lemma step_unused (p : Picker) : p.step (.begin p.unused) = (p, []) := by
  rw [step, begin, stage?_unused]

namespace Trail

/-- The course that goes through a trail. -/
def played (r : Trail) : Course Picker.step where
  start := r.state 0
  input n := (r.input n).getD (.begin (r.state n).unused)

lemma step_played (r : Trail) (n : ℕ) :
    (r.state n).step (r.played.input n) = (r.state (n + 1), r.output n) := by
  rw [r.step]
  simp only [played, output]
  cases r.input n with
  | some i => rfl
  | none => exact step_unused _

@[simp] lemma state_played (r : Trail) (n : ℕ) : r.played.state n = r.state n := by
  induction n with
  | zero => rfl
  | succ n ih => rw [Course.state_succ, ih, step_played]

lemma output_played (r : Trail) (n : ℕ) : r.played.output n = r.output n := by
  rw [Course.output, state_played, step_played]

lemma input_played {i : Input} (h : r.input n = some i) : r.played.input n = i := by
  simp [played, h]

/-- What the course takes, but for inputs to a job that does not exist, the trail took. -/
lemma input_of_played {i : Input} (h : r.played.input n = i) (hi : ∀ job, i ≠ .begin job) :
    r.input n = some i := by
  subst h
  cases hn : r.input n with
  | some i => rw [input_played hn]
  | none =>
    refine absurd ?_ (hi (r.state n).unused)
    simp [played, hn]

end Trail

end Whereto.Picker
