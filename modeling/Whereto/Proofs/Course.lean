import Mathlib.Order.Basic
import Mathlib.Order.Nat

/-!
Courses: a machine takes one input after the other, without end. What holds of all courses at all
positions holds of all finite runs, since every run is the beginning of a course.
-/

namespace Whereto

variable {σ ι ο : Type}

/-- A state to start from, and the input at every position. -/
structure Course (step : σ → ι → σ × ο) where
  start : σ
  input : ℕ → ι

namespace Course

variable {step : σ → ι → σ × ο}

/-- The state before the input at a position. -/
def state (c : Course step) : ℕ → σ
  | 0 => c.start
  | n + 1 => (step (c.state n) (c.input n)).1

/-- What comes of the input at a position. -/
def output (c : Course step) (n : ℕ) : ο := (step (c.state n) (c.input n)).2

variable {c : Course step}

lemma state_zero : c.state 0 = c.start := rfl

lemma state_succ (n : ℕ) : c.state (n + 1) = (step (c.state n) (c.input n)).1 := rfl

/-- What the steps between two positions keep. -/
lemma keep {P : σ → Prop} {m n : ℕ} (hmn : m ≤ n) (hm : P (c.state m))
    (hstep : ∀ k, m ≤ k → k < n → P (c.state k) → P (c.state (k + 1))) : P (c.state n) := by
  induction n, hmn using Nat.le_induction with
  | base => exact hm
  | succ k hk ih =>
    exact hstep k hk (by omega) (ih fun i hi hik => hstep i hi (by omega))

/-- **Invariants**: what every step keeps and what holds at one position holds at later ones. -/
theorem invariant {P : σ → Prop} (hstep : ∀ s i, P s → P (step s i).1) {m n : ℕ} (hmn : m ≤ n)
    (hm : P (c.state m)) : P (c.state n) :=
  keep hmn hm fun k _ _ hk => hstep _ (c.input k) hk

/-- A course with one more input before it. -/
def cons (s : σ) (i : ι) (c : Course step) : Course step where
  start := s
  input
    | 0 => i
    | n + 1 => c.input n

lemma state_cons {s : σ} {i : ι} (h : c.start = (step s i).1) (n : ℕ) :
    (cons s i c).state (n + 1) = c.state n := by
  induction n with
  | zero => exact h.symm
  | succ n ih =>
    rw [state_succ, ih]
    rfl

end Course

end Whereto
