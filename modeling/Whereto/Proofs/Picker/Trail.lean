import Whereto.Proofs.Course
import Whereto.Proofs.Picker.Effect
import Whereto.Proofs.Picker.Jobs

/-!
A picker over time. The generation of its field counts the inputs that supersede older tickets;
the numbers of jobs are given out once; and a job that ends its lookup was started under the
ticket that it ends with.
-/

namespace Whereto.Picker

/-- A picker that takes an input or rests. -/
def after (p : Picker) : Option Input → Picker
  | some i => (p.step i).1
  | none => p

/-- A picker over time: at every position it takes an input, or it rests. -/
structure Trail where
  state : ℕ → Picker
  input : ℕ → Option Input
  step : ∀ n, state (n + 1) = (state n).after (input n)

/-- What comes out at a position. -/
def Trail.output (r : Trail) (n : ℕ) : List Output :=
  match r.input n with
  | some i => ((r.state n).step i).2
  | none => []

/-- A course of the picker, at which it never rests. -/
def Trail.ofCourse (c : Course Picker.step) : Trail :=
  ⟨c.state, fun n => some (c.input n), fun _ => rfl⟩

variable {p : Picker} {i : Input} {r : Trail}

namespace Trail

/-- What every input keeps and what holds at one position holds at later ones. -/
lemma invariant {P : Picker → Prop} (hP : ∀ p i, P p → P (p.step i).1) {m n : ℕ} (hmn : m ≤ n)
    (hm : P (r.state m)) : P (r.state n) := by
  induction n, hmn using Nat.le_induction with
  | base => exact hm
  | succ n _ ih =>
    rw [r.step n]
    cases r.input n with
    | some i => exact hP _ i ih
    | none => exact ih

lemma monotone {f : Picker → ℕ} (hf : ∀ p i, f p ≤ f (p.step i).1) {m n : ℕ} (hmn : m ≤ n) :
    f (r.state m) ≤ f (r.state n) :=
  invariant (P := fun p => f (r.state m) ≤ f p) (fun p i h => h.trans (hf p i)) hmn le_rfl

lemma options_eq (r : Trail) (n : ℕ) : (r.state n).options = (r.state 0).options :=
  invariant (P := fun p => p.options = (r.state 0).options)
    (fun p i h => (onward_step p i).options.trans h) (Nat.zero_le n) rfl

lemma output_of_input {n : ℕ} (h : r.input n = some i) :
    r.output n = ((r.state n).step i).2 := by
  rw [output, h]

lemma state_of_input {n : ℕ} (h : r.input n = some i) :
    r.state (n + 1) = ((r.state n).step i).1 := by
  rw [r.step n, h]
  rfl

/-- The input at a position supersedes the tickets issued before it. -/
def Supersedes (r : Trail) (k : ℕ) : Prop :=
  ∃ i, r.input k = some i ∧ (r.state k).Supersedes i

@[simp] lemma state_ofCourse (c : Course Picker.step) : (ofCourse c).state = c.state := rfl

@[simp] lemma input_ofCourse (c : Course Picker.step) (n : ℕ) :
    (ofCourse c).input n = some (c.input n) := rfl

@[simp] lemma supersedes_ofCourse (c : Course Picker.step) (k : ℕ) :
    (ofCourse c).Supersedes k ↔ (c.state k).Supersedes (c.input k) := by
  simp [Supersedes]

/-- The input at a position starts a job under a ticket. -/
def Starts (r : Trail) (k : ℕ) (t : Ticket) : Prop :=
  ∃ i, r.input k = some i ∧ (r.state k).Starts i t

end Trail

/-! ### The generation -/

lemma supersedes_setText_iff {text : String} :
    p.Supersedes (.setText text) ↔ p.isShort text = true := by
  constructor
  · intro h
    cases h with
    | short h => exact h
    | selection h => cases h <;> simp_all [step]
  · exact .short

lemma generation_setText (p : Picker) (text : String) :
    (p.field.setText p.options.minChars text).generation =
      p.field.generation + if p.isShort text then 1 else 0 := by
  unfold Field.setText isShort
  split <;> rfl

/-- **The generation counts** the inputs that supersede older tickets. -/
theorem generation_step (p : Picker) (i : Input) :
    p.Supersedes i ∧ (p.step i).1.field.generation = p.field.generation + 1 ∨
      ¬ p.Supersedes i ∧ (p.step i).1.field.generation = p.field.generation := by
  have heffect := effect_step p i
  generalize (p.step i).1.field = f at heffect
  cases heffect with
  | @typed text =>
    rw [generation_setText, supersedes_setText_iff]
    by_cases hs : p.isShort text = true <;> simp [hs]
  | issued => exact .inl ⟨.issue, rfl⟩
  | dispatched => exact .inl ⟨.dispatch, rfl⟩
  | handled => exact .inl ⟨.handle, rfl⟩
  | cleared => exact .inl ⟨.handle, rfl⟩
  | selected h => exact .inl ⟨.selection h, rfl⟩
  | dismissed => exact .inr ⟨not_supersedes rfl (by simp [step, Step.view]), rfl⟩
  | focused =>
    refine .inr ⟨not_supersedes rfl (by simp [step, Step.view]), ?_⟩
    unfold Field.focus
    split <;> rfl
  | displayed _ _ keeps => exact .inr ⟨keeps, rfl⟩
  | same _ keeps => exact .inr ⟨keeps, rfl⟩

lemma generation_le_step (p : Picker) (i : Input) :
    p.field.generation ≤ (p.step i).1.field.generation := by
  rcases generation_step p i with ⟨-, h⟩ | ⟨-, h⟩ <;> omega

lemma generation_mono {m n : ℕ} (hmn : m ≤ n) :
    (r.state m).field.generation ≤ (r.state n).field.generation :=
  Trail.monotone (f := fun p => p.field.generation) generation_le_step hmn

lemma generation_trail (r : Trail) (k : ℕ) :
    r.Supersedes k ∧ (r.state (k + 1)).field.generation = (r.state k).field.generation + 1 ∨
      ¬ r.Supersedes k ∧
        (r.state (k + 1)).field.generation = (r.state k).field.generation := by
  rw [r.step k]
  cases hi : r.input k with
  | none => exact .inr ⟨by simp [Trail.Supersedes, hi], rfl⟩
  | some i => simpa [Trail.Supersedes, hi, after] using generation_step (r.state k) i

/-- An input that supersedes older tickets leaves an older generation behind. -/
lemma generation_lt_of_supersedes {k n : ℕ} (h : r.Supersedes k) (hkn : k < n) :
    (r.state k).field.generation < (r.state n).field.generation := by
  rcases generation_trail r k with ⟨-, hnext⟩ | ⟨hnot, -⟩
  · calc (r.state k).field.generation < (r.state k).field.generation + 1 := Nat.lt_succ_self _
      _ = (r.state (k + 1)).field.generation := hnext.symm
      _ ≤ (r.state n).field.generation := generation_mono hkn
  · exact absurd h hnot

/-- Between two positions the generation stays if and only if no input supersedes. -/
lemma generation_eq_iff {m n : ℕ} (hmn : m ≤ n) :
    (r.state n).field.generation = (r.state m).field.generation ↔
      ∀ k, m ≤ k → k < n → ¬ r.Supersedes k := by
  induction n, hmn using Nat.le_induction with
  | base => simp; omega
  | succ n hmn ih =>
    have hle := generation_mono (r := r) hmn
    rcases generation_trail r n with ⟨hsup, h⟩ | ⟨hnot, h⟩
    · constructor
      · intro heq
        omega
      · intro hall
        exact absurd hsup (hall n hmn (Nat.lt_succ_self n))
    · rw [h, ih]
      constructor
      · intro hall k hmk hkn
        rcases Nat.lt_succ_iff_lt_or_eq.mp hkn with hlt | rfl
        · exact hall k hmk hlt
        · exact hnot
      · exact fun hall k hmk hkn => hall k hmk (by omega)

/-! ### Where tickets come from -/

lemma nextJob_mono {m n : ℕ} (hmn : m ≤ n) : (r.state m).nextJob ≤ (r.state n).nextJob :=
  Trail.monotone (f := fun p => p.nextJob) (fun p i => (onward_step p i).nextJob) hmn

/-- A number is given out once. -/
lemma position_unique {m n : ℕ} (hm : (r.state m).nextJob < (r.state (m + 1)).nextJob)
    (hn : (r.state n).nextJob < (r.state (n + 1)).nextJob)
    (heq : (r.state m).nextJob = (r.state n).nextJob) : m = n := by
  rcases Nat.lt_trichotomy m n with h | h | h
  · have := nextJob_mono (r := r) (m := m + 1) h
    omega
  · exact h
  · have := nextJob_mono (r := r) (m := n + 1) h
    omega

lemma Trail.Starts.nextJob_lt {k : ℕ} {t : Ticket} (h : r.Starts k t) :
    (r.state k).nextJob < (r.state (k + 1)).nextJob := by
  obtain ⟨i, hi, hstart⟩ := h
  rw [r.step k, hi]
  exact hstart.nextJob_lt

lemma Trail.Starts.unique {k : ℕ} {t u : Ticket} (ht : r.Starts k t) (hu : r.Starts k u) :
    t = u := by
  obtain ⟨i, hi, ht⟩ := ht
  obtain ⟨j, hj, hu⟩ := hu
  obtain rfl : i = j := by simpa [hi] using hj
  cases ht <;> cases hu <;> rfl

/-- A job that looks suggestions up did so before, or it was started since. -/
lemma Carries.origin {m n job : ℕ} {t : Ticket} (hmn : m ≤ n) (h : (r.state n).Carries job t) :
    (r.state m).Carries job t ∨
      ∃ k, m ≤ k ∧ k < n ∧ job = (r.state k).nextJob ∧ r.Starts k t := by
  induction n, hmn using Nat.le_induction with
  | base => exact .inl h
  | succ n hmn ih =>
    have hlast : (r.state n).Carries job t ∨ job = (r.state n).nextJob ∧ r.Starts n t := by
      rw [r.step n] at h
      cases hi : r.input n with
      | none => exact .inl (by simpa [after, hi] using h)
      | some i =>
        rw [hi] at h
        exact h.of_step.imp_right fun hs => ⟨hs.1, i, hi, hs.2⟩
    rcases hlast with hold | ⟨hjob, hstart⟩
    · rcases ih hold with h | ⟨k, hmk, hkn, hk⟩
      · exact .inl h
      · exact .inr ⟨k, hmk, by omega, hk⟩
    · exact .inr ⟨n, hmn, by omega, hjob, hstart⟩

/-- A job that ends its lookup was under way before, or it was started since. -/
lemma Ends.origin {m n job : ℕ} {t : Ticket} (hmn : m ≤ n) (hi : r.input n = some i)
    (h : (r.state n).Ends i job t) :
    (r.state m).Carries job t ∨
      ∃ k, m ≤ k ∧ k ≤ n ∧ job = (r.state k).nextJob ∧ r.Starts k t := by
  have hcases : (r.state n).Carries job t ∨
      job = (r.state n).nextJob ∧ (r.state n).Starts i t := by
    cases h with
    | started => exact .inr ⟨rfl, .complete⟩
    | begun stage => exact .inl ⟨_, mem_of_stage? stage, rfl⟩
    | predicted stage => exact .inl ⟨_, mem_of_stage? stage, rfl⟩
    | searched stage => exact .inl ⟨_, mem_of_stage? stage, rfl⟩
  rcases hcases with hold | ⟨hjob, hstart⟩
  · rcases hold.origin hmn with h | ⟨k, hmk, hkn, hk⟩
    · exact .inl h
    · exact .inr ⟨k, hmk, by omega, hk⟩
  · exact .inr ⟨n, hmn, le_rfl, hjob, i, hi, hstart⟩

end Whereto.Picker
