import Whereto.Proofs.Picker.Turn

/-!
What inputs do to the field. Main statement: every step has one of a few effects on the field,
and those that supersede the tickets issued before are told apart by the input and by what comes
out.
-/

namespace Whereto.Picker

/-- The input puts a suggestion into the field. -/
inductive Selects (p : Picker) : Input → Suggestion → Prop
  | select {s : Suggestion} : Selects p (.select s) s
  | picked {i : Input} {s : Suggestion} (h : .picked (some s) ∈ (p.step i).2) : Selects p i s
  | located {i : Input} {job : Nat} {s : Suggestion}
      (h : .finish job (.picked (some s)) ∈ (p.step i).2) : Selects p i s

/-- The input supersedes the tickets issued before it. -/
inductive Supersedes (p : Picker) : Input → Prop
  | short {text : String} (h : p.isShort text = true) : Supersedes p (.setText text)
  | issue {query : String} : Supersedes p (.issue query)
  | handle {query : String} : Supersedes p (.start (.handle query))
  | dispatch {query : String} : Supersedes p (.dispatch query)
  | selection {i : Input} {s : Suggestion} (h : p.Selects i s) : Supersedes p i

/-- The field after an input. -/
inductive Effect (p : Picker) : Input → Field → Prop
  | typed {text : String} : Effect p (.setText text) (p.field.setText p.options.minChars text)
  | issued {query : String} : Effect p (.issue query) p.field.supersede
  | dispatched {query : String} : Effect p (.dispatch query) p.field.supersede
  | handled {query : String} (long : p.isShort query = false) :
      Effect p (.start (.handle query)) p.field.supersede
  | cleared {query : String} (short : p.isShort query = true) :
      Effect p (.start (.handle query)) (p.field.supersede.display [])
  | selected {i : Input} {s : Suggestion} (h : p.Selects i s) : Effect p i (p.field.select s)
  | dismissed : Effect p .dismiss p.field.dismiss
  | focused : Effect p .focus p.field.focus
  | displayed {i : Input} {job : Nat} {t : Ticket} (h : p.Ends i job t)
      (latest : t.generation = p.field.generation) (keeps : ¬ p.Supersedes i) :
      Effect p i (p.field.display i.found)
  | same {i : Input} (typed : ∀ text, i ≠ .setText text) (keeps : ¬ p.Supersedes i) :
      Effect p i p.field

/-- A caller is told that a suggestion went into the field. -/
def Output.Takes (o : Output) (s : Suggestion) : Prop :=
  o = .picked (some s) ∨ ∃ job, o = .finish job (.picked (some s))

variable {p : Picker} {i : Input}

lemma Output.Takes.tells {o : Output} {s : Suggestion} (ho : o.Takes s) : o.tells = true := by
  rcases ho with rfl | ⟨job, rfl⟩ <;> rfl

/-- The inputs that supersede older tickets, or may do so, whatever comes out. -/
def Input.isDirect : Input → Bool
  | .setText _ | .issue _ | .dispatch _ | .select _ | .start (.handle _) => true
  | _ => false

lemma Input.not_direct_of_work (hi : i.isWork = true) : i.isDirect = false := by
  cases i with
  | start call => cases call <;> first | rfl | cases hi
  | _ => first | rfl | cases hi

lemma not_supersedes (hi : i.isDirect = false)
    (h : ∀ o ∈ (p.step i).view.told, ∀ s, ¬ o.Takes s) : ¬ p.Supersedes i := by
  have hout : ∀ o ∈ (p.step i).2, ∀ s, ¬ o.Takes s :=
    fun o ho s hs => h o ((mem_told hs.tells).mpr ho) s hs
  intro hsup
  cases hsup with
  | selection hsel =>
    cases hsel with
    | select => cases hi
    | picked hp => exact hout _ hp _ (.inl rfl)
    | located hp => exact hout _ hp _ (.inr ⟨_, rfl⟩)
  | _ => cases hi

/-! ### Inputs to jobs -/

lemma ending_takes_none (p : Picker) (job : Nat) (t : Ticket) (found : List Suggestion) :
    ∀ o ∈ (p.ending job t found).told, ∀ s, ¬ o.Takes s := by
  unfold ending
  split
  · split <;> simp [Output.Takes]
  · simp [Output.Takes]

lemma settled_cases (p : Picker) (job : Nat) (fill : Bool) :
    (∃ s, p.settled job fill =
      ⟨p.field.select s, p.locator, [.finish job (.picked (some s))]⟩) ∨
    (p.settled job fill).field = p.field ∧
      ∀ o ∈ (p.settled job fill).told, ∀ s, ¬ o.Takes s := by
  unfold settled
  split
  · split
    · exact .inr ⟨rfl, by simp [Output.Takes]⟩
    · exact .inl ⟨_, rfl⟩
    · exact .inr ⟨rfl, by simp [Output.Takes]⟩
  · exact .inr ⟨rfl, by simp [still]⟩

lemma effect_work (hi : i.isWork = true) : p.Effect i (p.step i).1.field := by
  have htyped : ∀ text, i ≠ .setText text := by
    rintro text rfl
    cases hi
  have hquiet := not_supersedes (p := p) (Input.not_direct_of_work hi)
  have hsight := sight_step p hi
  change p.Effect i (p.step i).view.field
  generalize hv : (p.step i).view = v at hquiet hsight
  cases hsight with
  | still => exact .same htyped (hquiet (by simp [still]))
  | @ended _ job t h =>
    have hkeeps := hquiet (ending_takes_none p job t i.found)
    unfold ending
    split
    · rename_i hg
      exact .displayed h hg hkeeps
    · exact .same htyped hkeeps
  | locating idle => exact .same htyped (hquiet (by simp))
  | givenUp => exact .same htyped (hquiet (by simp))
  | @settled _ job fill l h =>
    rcases settled_cases { p with locator := l } job fill with ⟨s, hs⟩ | ⟨hf, hnone⟩
    · have hout : .finish job (.picked (some s)) ∈ (p.step i).2 :=
        (mem_told rfl).mp (by simp [hv, hs])
      rw [hs]
      exact .selected (.located hout)
    · rw [hf]
      exact .same htyped (hquiet hnone)

/-- The work of jobs selects a suggestion, or shows what was found, or leaves the field alone. -/
lemma field_work (hi : i.isWork = true) :
    (∃ x, p.Selects i x ∧ (p.step i).1.field = p.field.select x) ∨
    (∃ job t, p.Ends i job t ∧ t.generation = p.field.generation ∧
      (p.step i).1.field = p.field.display i.found) ∨
    (p.step i).1.field = p.field := by
  have heffect := effect_work (p := p) hi
  generalize (p.step i).1.field = f at heffect
  cases heffect with
  | selected h => exact .inl ⟨_, h, rfl⟩
  | displayed h latest => exact .inr (.inl ⟨_, _, h, latest, rfl⟩)
  | same => exact .inr (.inr rfl)
  | _ => cases hi

/-! ### All inputs -/

lemma effect_handle (p : Picker) (query : String) :
    p.Effect (.start (.handle query)) (p.start (.handle query)).1.field := by
  change p.Effect _ (p.start (.handle query)).view.field
  rw [view_start]
  dsimp only
  rw [view_complete]
  split
  · rename_i hs
    simp only [ending, Field.supersede, ↓reduceIte]
    exact .cleared hs
  · rename_i hs
    exact .handled (by simpa [isShort] using hs)

lemma effect_selectIndex (p : Picker) (index : Nat) :
    p.Effect (.selectIndex index) (p.selectIndex index).1.field := by
  cases hs : p.field.suggestions[index]? with
  | some s =>
    have hstep : p.selectIndex index =
        ({ p with field := p.field.select s }, [.picked (some s)]) := by
      simp [selectIndex, hs]
    rw [hstep]
    exact .selected (.picked (by simp [step, hstep]))
  | none =>
    have hstep : p.selectIndex index = (p, [.picked none]) := by simp [selectIndex, hs]
    rw [hstep]
    exact .same (by simp) (not_supersedes rfl (by simp [step, hstep, Step.view, Output.Takes]))

lemma effect_submit (p : Picker) : p.Effect .submit p.submit.1.field := by
  have hnone : ∀ o ∈ p.submit.view.told, ∀ s, ¬ o.Takes s := by
    unfold submit
    split <;> simp [Step.view, Output.tells, Output.Takes]
  have hf : p.submit.1.field = p.field := by
    unfold submit
    split <;> rfl
  rw [hf]
  exact .same (by simp) (not_supersedes rfl hnone)

/-- **What a step does to the field.** -/
theorem effect_step (p : Picker) (i : Input) : p.Effect i (p.step i).1.field := by
  cases i with
  | setText text => exact .typed
  | issue query => exact .issued
  | dispatch query => exact .dispatched
  | select s => exact .selected .select
  | selectIndex index => exact effect_selectIndex p index
  | dismiss => exact .dismissed
  | focus => exact .focused
  | submit => exact effect_submit p
  | start call =>
    cases call with
    | handle query => exact effect_handle p query
    | _ => exact effect_work rfl
  | _ => exact effect_work rfl

end Whereto.Picker
