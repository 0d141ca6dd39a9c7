/-!
Debouncing. A value is emitted once a quiet period has passed since it was pushed and no other
value was pushed meanwhile; a value that was superseded is never emitted.
-/

namespace Whereto

/-- A debouncer with the value that waits and the time at which it is due. -/
structure Debouncer (α : Type) where
  quiet : Nat
  pending : Option (α × Nat)
  deriving DecidableEq, Repr

namespace Debouncer

variable {α : Type}

def new (quiet : Nat) : Debouncer α := ⟨quiet, none⟩

def push (d : Debouncer α) (now : Nat) (a : α) : Debouncer α :=
  { d with pending := some (a, now + d.quiet) }

/-- The time at which a value is due. -/
def due? (d : Debouncer α) : Option Nat := d.pending.map (·.2)

/-- Emits the value that is due by now. -/
def fire (d : Debouncer α) (now : Nat) : Debouncer α × Option α :=
  match d.pending with
  | some (a, due) => if due ≤ now then ({ d with pending := none }, some a) else (d, none)
  | none => (d, none)

end Debouncer

/-- A debouncer with its two ends: whoever pushes values may drop it, and whoever receives them
may leave. What was emitted stays in the channel until it is received. -/
structure DebounceLine (α : Type) where
  debouncer : Debouncer α
  channel : List α
  dropped : Bool
  abandoned : Bool
  deriving DecidableEq, Repr

namespace DebounceLine

variable {α : Type}

def new (quiet : Nat) : DebounceLine α := ⟨.new quiet, [], false, false⟩

/-- Both ends are there. -/
def isOpen (l : DebounceLine α) : Bool := !l.dropped && !l.abandoned

/-- Nothing more will be received. -/
def closed (l : DebounceLine α) : Bool := l.dropped && l.channel.isEmpty || l.abandoned

/-- Time passes: what is due by now is emitted. -/
def pass (l : DebounceLine α) (now : Nat) : DebounceLine α :=
  if l.isOpen then
    let (d, a) := l.debouncer.fire now
    { l with debouncer := d, channel := l.channel ++ a.toList }
  else l

def push (l : DebounceLine α) (now : Nat) (a : α) : DebounceLine α :=
  if l.isOpen then
    let l := l.pass now
    { l with debouncer := l.debouncer.push now a }
  else l

/-- All that was emitted by now and not received before. -/
def receive (l : DebounceLine α) (now : Nat) : DebounceLine α × List α :=
  if l.abandoned then (l, [])
  else
    let l := l.pass now
    ({ l with channel := [] }, l.channel)

/-- The value that waits is dropped as well. -/
def drop (l : DebounceLine α) : DebounceLine α :=
  { l with dropped := true, debouncer := { l.debouncer with pending := none } }

def abandon (l : DebounceLine α) : DebounceLine α := { l with abandoned := true }

end DebounceLine

end Whereto
