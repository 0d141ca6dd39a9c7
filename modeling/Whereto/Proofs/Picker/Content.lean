import Whereto.Proofs.Picker.Location

/-!
What the field holds and what the list shows. The text of the field is what was put there last, by
typing or by a selection; and every suggestion of the list was found by a lookup, so it comes from
the places service or from the city directory, and never from the position of the device.
-/

namespace Whereto

namespace Picker

variable {p : Picker} {i : Input} {s : Suggestion} {r : Trail}

/-! ### The text -/

/-- The input puts a text into the field. -/
inductive Writes (p : Picker) : Input → Prop
  | typed {text : String} : Writes p (.setText text)
  | selected {i : Input} {s : Suggestion} (h : p.Selects i s) : Writes p i

/-- What is put into the field stays there until something else is. -/
lemma kept_of_not_writes (h : ¬ p.Writes i) : (p.step i).1.field.text = p.field.text ∧
    (p.step i).1.field.precise = p.field.precise := by
  have heffect := effect_step p i
  generalize (p.step i).1.field = f at heffect
  cases heffect with
  | typed => exact absurd .typed h
  | selected hsel => exact absurd (.selected hsel) h
  | focused =>
    unfold Field.focus
    split <;> exact ⟨rfl, rfl⟩
  | _ => exact ⟨rfl, rfl⟩

/-- The input at a position puts a text into the field. -/
def Trail.Writes (r : Trail) (k : ℕ) : Prop := ∃ i, r.input k = some i ∧ (r.state k).Writes i

/-- Nothing is put into the field between two positions. -/
def Trail.Keeps (r : Trail) (k n : ℕ) : Prop := ∀ j, k < j → j < n → ¬ r.Writes j

lemma Trail.kept (r : Trail) {n : ℕ} (h : ¬ r.Writes n) :
    (r.state (n + 1)).field.text = (r.state n).field.text ∧
      (r.state (n + 1)).field.precise = (r.state n).field.precise := by
  rw [r.step n]
  cases hi : r.input n with
  | none => exact ⟨rfl, rfl⟩
  | some i => exact kept_of_not_writes fun hw => h ⟨i, hi, hw⟩

lemma Trail.Keeps.succ {k n : ℕ} (h : r.Keeps k n) (hn : ¬ r.Writes n) : r.Keeps k (n + 1) := by
  intro j hkj hjn
  rcases Nat.lt_succ_iff_lt_or_eq.mp hjn with hlt | rfl
  · exact h j hkj hlt
  · exact hn

lemma Trail.Keeps.mono {k m n : ℕ} (h : r.Keeps k n) (hmn : m ≤ n) : r.Keeps k m :=
  fun j hkj hjm => h j hkj (Nat.lt_of_lt_of_le hjm hmn)

lemma Trail.Keeps.text {k m n : ℕ} (h : r.Keeps k n) (hkm : k < m) (hmn : m ≤ n) :
    (r.state n).field.text = (r.state m).field.text := by
  induction n, hmn using Nat.le_induction with
  | base => rfl
  | succ n hmn ih =>
    exact (r.kept (h n (by omega) (by omega))).1.trans (ih (h.mono (by omega)))

/-! ### The list -/

lemma suggestions_step (h : s ∈ (p.step i).1.field.suggestions) :
    s ∈ p.field.suggestions ∨ s ∈ i.found := by
  have heffect := effect_step p i
  generalize (p.step i).1.field = f at h heffect
  cases heffect with
  | typed =>
    unfold Field.setText at h
    split at h
    · cases h
    · exact .inl h
  | cleared => cases h
  | focused =>
    unfold Field.focus at h
    split at h <;> exact .inl h
  | displayed => exact .inr h
  | _ => exact .inl h

/-- **Suggestions are found** before they are shown. -/
theorem suggestions_origin {n : ℕ} (h0 : (r.state 0).field.suggestions = [])
    (h : s ∈ (r.state n).field.suggestions) :
    ∃ e i, e < n ∧ r.input e = some i ∧ s ∈ i.found := by
  induction n with
  | zero => simp [h0] at h
  | succ n ih =>
    have hold (h : s ∈ (r.state n).field.suggestions) :
        ∃ e i, e < n + 1 ∧ r.input e = some i ∧ s ∈ i.found := by
      obtain ⟨e, i, he, hi, hs⟩ := ih h
      exact ⟨e, i, by omega, hi, hs⟩
    rw [r.step n] at h
    cases hi : r.input n with
    | none => exact hold (by simpa [hi, after] using h)
    | some i =>
      rw [hi] at h
      rcases suggestions_step h with h | h
      · exact hold h
      · exact ⟨n, i, Nat.lt_succ_self n, hi, h⟩

/-- What is found was predicted by the places service, or stands in the city directory. -/
lemma found_cases (h : s ∈ i.found) :
    (∃ job predictions, i = .reply job (.predictions (.ok predictions)) ∧
      ∃ x ∈ predictions, x.suggestion? = some s) ∨
    ∃ job records, i = .reply job (.cities (.ok records)) ∧
      ∃ x ∈ records, s = x.suggestion := by
  cases i with
  | reply job reply =>
    cases reply with
    | predictions result =>
      cases result with
      | ok predictions =>
        exact .inl ⟨job, predictions, rfl, by simpa [Input.found, usable] using h⟩
      | error e => cases h
    | cities result =>
      cases result with
      | ok records =>
        refine .inr ⟨job, records, rfl, ?_⟩
        obtain ⟨x, hx, rfl⟩ := List.mem_map.mp h
        exact ⟨x, hx, rfl⟩
      | error e => cases h
    | _ => cases h
  | _ => cases h

lemma source_of_found (h : s ∈ i.found) : s.source ≠ .geolocation := by
  rcases found_cases h with ⟨-, -, -, x, -, hx⟩ | ⟨-, -, -, x, -, rfl⟩
  · unfold Prediction.suggestion? at hx
    dsimp only at hx
    split at hx
    · cases hx
    · cases hx
      nofun
  · nofun

end Picker

end Whereto
