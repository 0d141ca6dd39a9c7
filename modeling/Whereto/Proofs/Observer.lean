import Mathlib.Data.Nat.Notation

/-!
Observers of a machine. Somebody does one thing after the other and decides by all that was seen so
far what to do next. What a view of the states leaves out is never seen, if the view before a step
determines the view after it and what the step shows.
-/

namespace Whereto

variable {m : Type → Type} [Monad m]

/-- Computations whose first parts agree after a map agree as a whole, if the rest asks only for
what the map keeps. -/
lemma map_bind_congr [LawfulMonad m] {α β γ δ : Type} {f : α → β} {e : γ → δ} {x : m α} {y : m β}
    {g : α → m γ} {g' : β → m δ} (hx : f <$> x = y) (hg : ∀ a, e <$> g a = g' (f a)) :
    e <$> (x >>= g) = y >>= g' := by
  rw [← hx, map_bind, bind_map_left]
  exact bind_congr hg

variable {σ τ ι ο : Type}

/-- The first steps of a machine, and what was seen of them. -/
def watch (step : σ → ι → m (σ × ο)) (conduct : List ο → ι) (s : σ) : ℕ → m (σ × List ο)
  | 0 => pure (s, [])
  | n + 1 => do
    let (s, seen) ← watch step conduct s n
    let (s, o) ← step s (conduct seen)
    return (s, seen ++ [o])

/-- What is seen of the first steps. -/
def sights (step : σ → ι → m (σ × ο)) (conduct : List ο → ι) (s : σ) (n : ℕ) : m (List ο) :=
  (·.2) <$> watch step conduct s n

variable [LawfulMonad m] {step : σ → ι → m (σ × ο)} {step' : τ → ι → m (τ × ο)} {view : σ → τ}

lemma map_watch (h : ∀ s i, Prod.map view id <$> step s i = step' (view s) i)
    (conduct : List ο → ι) (s : σ) (n : ℕ) :
    Prod.map view id <$> watch step conduct s n = watch step' conduct (view s) n := by
  induction n with
  | zero => exact map_pure ..
  | succ n ih =>
    exact map_bind_congr ih fun x => map_bind_congr (h x.1 (conduct x.2)) fun _ => map_pure ..

/-- **What a view leaves out is not seen.** -/
theorem sights_view (h : ∀ s i, Prod.map view id <$> step s i = step' (view s) i)
    (conduct : List ο → ι) (s : σ) (n : ℕ) :
    sights step conduct s n = sights step' conduct (view s) n := by
  rw [sights, sights, ← map_watch h, Functor.map_map]
  rfl

end Whereto
