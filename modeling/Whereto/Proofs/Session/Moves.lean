import Whereto.Picker.Session
import Whereto.Proofs.Picker.Trail

/-!
A typing session over time. Whatever happens to a session is a move: an input to its picker, a
typed text, a timer of the debouncer, a turn of the pump, or the end of the session. To the picker
every move is one input or none, so the picker of a course of moves goes through a trail.
-/

namespace Whereto

open Picker (Input Output Trail)

inductive Move where
  | input (i : Input)
  | type (text : String)
  | fire
  | pump
  | leave

namespace Session

/-- A move at a time. -/
def move (s : Session) : ℕ × Move → Session × List Output
  | (_, .input i) => s.step i
  | (now, .type text) => s.typeText now text
  | (now, .fire) => (s.fire now, [])
  | (_, .pump) => s.pump
  | (_, .leave) => (s.endTyping, [])

/-- The texts that were typed and not looked up yet, in their order. -/
def waiting (s : Session) : List String :=
  match s.typing with
  | some t => t.inbox ++ (t.debouncer.pending.map (·.1)).toList
  | none => []

/-- The first text of the inbox, if it is still the text of the field. -/
def ready? (s : Session) : Option String :=
  match s.typing with
  | some ⟨_, query :: _⟩ => if query = s.picker.field.text then some query else none
  | _ => none

/-- What the picker is asked to do by a move. -/
def asks (s : Session) : Move → Option Input
  | .input i => some i
  | .type text => some (.setText text)
  | .pump => s.ready?.map .dispatch
  | .fire | .leave => none

variable {s : Session} {m : Move} {now : ℕ}

lemma ready?_of_typing {d : Debouncer String} {inbox : List String} {query : String}
    (h : s.typing = some ⟨d, query :: inbox⟩) :
    s.ready? = if query = s.picker.field.text then some query else none := by
  rw [ready?, h]

lemma text_of_ready? {query : String} (h : s.ready? = some query) :
    s.picker.field.text = query := by
  unfold ready? at h
  split at h
  · split at h
    · rename_i heq
      cases h
      exact heq.symm
    · cases h
  · cases h

/-- The pump takes a text from the inbox, and lets the picker look it up if it is ready. -/
lemma pump_cases (s : Session) :
    (∃ query, s.ready? = some query ∧ s.waiting = query :: s.pump.1.waiting ∧
      s.pump.1.picker = (s.picker.step (.dispatch query)).1 ∧
      s.pump.2 = (s.picker.step (.dispatch query)).2) ∨
    (s.ready? = none ∧ s.pump.1.waiting = s.waiting.tail ∧ s.pump.1.picker = s.picker ∧
      s.pump.2 = []) ∨
    (s.ready? = none ∧ s.pump = (s, [])) := by
  unfold pump
  split
  · rename_i d query rest htyping
    rw [ready?_of_typing htyping]
    by_cases hq : query = s.picker.field.text
    · refine .inl ⟨query, by simp [hq], ?_⟩
      simp [hq, waiting, htyping, step]
    · exact .inr (.inl (by simp [hq, waiting, htyping]))
  · rename_i hno
    refine .inr (.inr ⟨?_, rfl⟩)
    unfold ready?
    split
    · rename_i d query rest htyping
      exact absurd htyping (hno d query rest)
    · rfl

/-- **The picker of a session** takes what it is asked to do by a move. -/
theorem picker_move (s : Session) (now : ℕ) (m : Move) :
    (s.move (now, m)).1.picker = s.picker.after (s.asks m) := by
  cases m with
  | pump =>
    rcases pump_cases s with ⟨query, hready, -, hpicker, -⟩ | ⟨hready, -, hpicker, -⟩ |
      ⟨hready, hpump⟩
    · simp [move, asks, hready, hpicker, Picker.after]
    · simp [move, asks, hready, hpicker, Picker.after]
    · simp [move, asks, hready, hpump, Picker.after]
  | _ => rfl

lemma output_move (s : Session) (now : ℕ) (m : Move) :
    (s.move (now, m)).2 = match s.asks m with
      | some i => (s.picker.step i).2
      | none => [] := by
  cases m with
  | pump =>
    rcases pump_cases s with ⟨query, hready, -, -, hout⟩ | ⟨hready, -, -, hout⟩ |
      ⟨hready, hpump⟩
    · simp [move, asks, hready, hout]
    · simp [move, asks, hready, hout]
    · simp [move, asks, hready, hpump]
  | _ => rfl

section

variable {c : Course move} {n : ℕ}

lemma mem_output {o : Output} : o ∈ c.output n ↔
    ∃ i, (c.state n).asks (c.input n).2 = some i ∧ o ∈ ((c.state n).picker.step i).2 := by
  have hout : c.output n = _ := output_move (c.state n) (c.input n).1 (c.input n).2
  rw [hout]
  cases (c.state n).asks (c.input n).2 <;> simp

lemma state_move {m : Move} (hm : (c.input n).2 = m) :
    c.state (n + 1) = ((c.state n).move ((c.input n).1, m)).1 := by
  subst hm
  rfl

lemma picker_succ {i : Input} (hi : (c.state n).asks (c.input n).2 = some i) :
    (c.state (n + 1)).picker = ((c.state n).picker.step i).1 := by
  have hpicker : (c.state (n + 1)).picker = _ :=
    picker_move (c.state n) (c.input n).1 (c.input n).2
  rw [hpicker, hi]
  rfl

lemma picker_rest (hi : (c.state n).asks (c.input n).2 = none) :
    (c.state (n + 1)).picker = (c.state n).picker := by
  have hpicker : (c.state (n + 1)).picker = _ :=
    picker_move (c.state n) (c.input n).1 (c.input n).2
  rw [hpicker, hi]
  rfl

end

/-- The picker of a session over time. -/
def trail (c : Course move) : Trail :=
  ⟨fun n => (c.state n).picker, fun n => (c.state n).asks (c.input n).2,
    fun n => picker_move (c.state n) (c.input n).1 (c.input n).2⟩

@[simp] lemma state_trail (c : Course move) (n : ℕ) : (trail c).state n = (c.state n).picker := rfl

@[simp] lemma input_trail (c : Course move) (n : ℕ) :
    (trail c).input n = (c.state n).asks (c.input n).2 := rfl

lemma output_trail (c : Course move) (n : ℕ) : (trail c).output n = c.output n := by
  have hout : c.output n = _ := output_move (c.state n) (c.input n).1 (c.input n).2
  rw [hout]
  rfl

/-- What every input to the picker keeps holds of the picker of a session, if it did so at the
beginning. -/
lemma keep_picker {c : Course move} {P : Picker → Prop} (hP : ∀ p i, P p → P (p.step i).1)
    (h : P c.start.picker) (n : ℕ) : P (c.state n).picker :=
  Trail.invariant (r := trail c) hP (Nat.zero_le n) h

lemma isShort_state (c : Course move) (n : ℕ) (text : String) :
    (c.state n).picker.isShort text = c.start.picker.isShort text := by
  have hoptions : (c.state n).picker.options = c.start.picker.options := (trail c).options_eq n
  rw [Picker.isShort, Picker.isShort, hoptions]

/-- Only an input from outside starts a call. -/
lemma input_of_start {call : Call} (h : s.asks m = some (.start call)) :
    m = .input (.start call) := by
  cases m with
  | input i =>
    cases h
    rfl
  | type text => cases h
  | pump =>
    obtain ⟨query, -, h⟩ := Option.map_eq_some_iff.mp h
    cases h
  | fire => cases h
  | leave => cases h

/-! ### Waiting texts -/

lemma waiting_fire (s : Session) (now : ℕ) : (s.fire now).waiting = s.waiting := by
  unfold fire waiting Debouncer.fire
  cases s.typing with
  | none => rfl
  | some t =>
    obtain ⟨⟨quiet, pending⟩, inbox⟩ := t
    cases pending with
    | none => simp
    | some p =>
      by_cases hdue : p.2 ≤ now <;> simp [hdue]

lemma waiting_pump (s : Session) : s.pump.1.waiting ⊆ s.waiting := by
  rcases pump_cases s with ⟨query, -, hwaiting, -⟩ | ⟨-, hwaiting, -⟩ | ⟨-, hpump⟩
  · rw [hwaiting]
    exact List.subset_cons_self _ _
  · rw [hwaiting]
    exact fun _ h => List.mem_of_mem_tail h
  · rw [hpump]
    exact List.Subset.refl _

/-- Only typing makes another text wait. -/
lemma waiting_move (hm : ∀ text, m ≠ .type text) :
    (s.move (now, m)).1.waiting ⊆ s.waiting := by
  cases m with
  | input i => exact List.Subset.refl _
  | type text => exact absurd rfl (hm text)
  | fire =>
    change (s.fire now).waiting ⊆ _
    rw [waiting_fire]
    exact List.Subset.refl _
  | pump => exact waiting_pump s
  | leave => exact List.nil_subset _

/-- A text that is ready waits. -/
lemma mem_waiting_of_ready? {query : String} (h : s.ready? = some query) :
    query ∈ s.waiting := by
  rcases pump_cases s with ⟨query', hready, hwaiting, -⟩ | ⟨hready, -⟩ | ⟨hready, -⟩
  · obtain rfl : query' = query := by simpa [hready] using h
    rw [hwaiting]
    exact List.mem_cons_self
  · simp [hready] at h
  · simp [hready] at h

end Session

end Whereto
