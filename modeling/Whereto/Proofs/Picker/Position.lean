import Whereto.Proofs.Picker.Trail

/-!
Where positions come from. The device answers its position once to every job that asks for it, and
the locator knows only what the device has answered. One job asks at a time; a call that is made
meanwhile is over at once.
-/

namespace Whereto

/-- A lookup of the position begins by forgetting the error of the one before. -/
def Locator.IsSound (l : Locator) : Prop := l.locating = true → l.error = none

@[simp] lemma Locator.located_idle : idle.located = none := rfl

@[simp] lemma Locator.located_found (l : Locator) (x : Located) : (l.found x).located = some x :=
  rfl

namespace Picker

variable {p : Picker} {i : Input} {c : Course step}

/-! ### The locator -/

/-- The locator after an input. -/
inductive Locates (p : Picker) : Input → Locator → Prop
  | same {i : Input} : Locates p i p.locator
  | begun {i : Input} : Locates p i p.locator.begin
  | givenUp {i : Input} : Locates p i p.locator.giveUp
  | failed {i : Input} {e : LocatingFault} : Locates p i (p.locator.fail e)
  | found {job : ℕ} {x : Coordinates} {fill : Bool} {result : Except Failure Address}
      (stage : p.stage? job = some (.describing x fill)) :
      Locates p (.reply job (.address result))
        (p.locator.found ⟨x, Address.describe x result.toOption⟩)

lemma locator_ending (p : Picker) (job : ℕ) (t : Ticket) (found : List Suggestion) :
    (p.ending job t found).locator = p.locator := by
  unfold ending
  split <;> rfl

lemma locator_settled (p : Picker) (job : ℕ) (fill : Bool) :
    (p.settled job fill).locator = p.locator := by
  unfold settled
  split
  · split <;> rfl
  · rfl

lemma locates_work (hi : i.isWork = true) : p.Locates i (p.step i).1.locator := by
  have hsight := sight_step p hi
  change p.Locates i (p.step i).view.locator
  generalize (p.step i).view = v at hsight
  cases hsight with
  | still => exact .same
  | ended => rw [locator_ending]; exact .same
  | locating => exact .begun
  | givenUp => exact .givenUp
  | settled h =>
    rw [locator_settled]
    cases h with
    | known => exact .same
    | failed => exact .failed
    | expired => exact .failed
    | found stage => exact .found stage

lemma locator_handle (p : Picker) (query : String) :
    (p.start (.handle query)).1.locator = p.locator := by
  change (p.start (.handle query)).view.locator = _
  rw [view_start]
  dsimp only
  rw [view_complete]
  split
  · exact locator_ending _ _ _ _
  · rfl

/-- **What a step does to the locator.** -/
theorem locates_step (p : Picker) (i : Input) : p.Locates i (p.step i).1.locator := by
  cases i with
  | start call =>
    cases call with
    | handle query =>
      rw [step, locator_handle]
      exact .same
    | _ => exact locates_work rfl
  | selectIndex index =>
    simp only [step, selectIndex]
    split <;> exact .same
  | submit =>
    simp only [step, submit]
    split <;> exact .same
  | warmUp => exact locates_work rfl
  | begin job => exact locates_work rfl
  | reply job r => exact locates_work rfl
  | expire job => exact locates_work rfl
  | cancel job => exact locates_work rfl
  | _ => exact .same

lemma isSound_step (h : p.locator.IsSound) : (p.step i).1.locator.IsSound := by
  have hstep := locates_step p i
  generalize (p.step i).1.locator = l at hstep
  cases hstep with
  | same => exact h
  | begun => exact fun _ => rfl
  | givenUp => exact fun h => nomatch h
  | failed => exact fun h => nomatch h
  | found => exact fun _ => rfl

lemma isSound_locator (h0 : c.start.locator = .idle) (n : ℕ) : (c.state n).locator.IsSound :=
  Course.invariant (c := c) (P := fun p => p.locator.IsSound) (fun _ _ h => isSound_step h)
    (Nat.zero_le n) (by rw [Course.state_zero, h0]; exact fun h => nomatch h)

/-! ### Where positions come from -/

/-- The device answers its position to a job that asked for it. -/
def Finds (c : Course step) (e job : ℕ) (x : Coordinates) : Prop :=
  c.input e = .reply job (.position (.ok x)) ∧
    ∃ fill, (c.state e).stage? job = some (.positioning fill)

lemma start_unique {a b : ℕ} {call call' : Call} (ha : c.input a = .start call)
    (hb : c.input b = .start call') (h : (c.state a).nextJob = (c.state b).nextJob) : a = b := by
  have hlt {k : ℕ} {call : Call} (hk : c.input k = .start call) :
      (c.state k).nextJob < (c.state (k + 1)).nextJob := by
    rw [Course.state_succ, hk]
    exact nextJob_start _ _
  exact position_unique (r := .ofCourse c) (hlt ha) (hlt hb) h

/-- A job that asks for the position did so before, or it was started since, while nobody else
asked. -/
lemma positioning_origin {m n job : ℕ} {fill : Bool} (hmn : m ≤ n)
    (h : (job, .positioning fill) ∈ (c.state n).jobs) :
    (job, .positioning fill) ∈ (c.state m).jobs ∨
      ∃ k, m ≤ k ∧ k < n ∧ job = (c.state k).nextJob ∧ c.input k = .start (locateCall fill) ∧
        (c.state k).locator.locating = false := by
  induction n, hmn using Nat.le_induction with
  | base => exact .inl h
  | succ n hmn ih =>
    rcases (onward_step _ _).jobs _ _ h with hold | hentry
    · rcases ih hold with h | ⟨k, hmk, hkn, hk⟩
      · exact .inl h
      · exact .inr ⟨k, hmk, by omega, hk⟩
    · generalize hi : c.input n = i at hentry
      cases hentry with
      | other _ locating => simp [Stage.isLocating] at locating
      | started purpose => cases purpose
      | begun purpose => cases purpose
      | again purpose => cases purpose
      | positioning idle => exact .inr ⟨n, hmn, by omega, rfl, hi, idle⟩

/-- An address is looked up only for a position that the device answered to the same job. -/
lemma describing_origin {n job : ℕ} {x : Coordinates} {fill : Bool} (h0 : c.start.jobs = [])
    (h : (job, .describing x fill) ∈ (c.state n).jobs) :
    ∃ e, e < n ∧ c.input e = .reply job (.position (.ok x)) ∧
      (c.state e).stage? job = some (.positioning fill) := by
  induction n with
  | zero => simp [Course.state_zero, h0] at h
  | succ n ih =>
    rcases (onward_step _ _).jobs _ _ h with hold | hentry
    · obtain ⟨e, hen, he⟩ := ih hold
      exact ⟨e, by omega, he⟩
    · generalize hi : c.input n = i at hentry
      cases hentry with
      | other _ locating => simp [Stage.isLocating] at locating
      | started purpose => cases purpose
      | begun purpose => cases purpose
      | again purpose => cases purpose
      | describing stage => exact ⟨n, by omega, hi, stage⟩

/-- A job that was answered its position asked for it when it was started. -/
lemma Finds.started {e job : ℕ} {x : Coordinates} (h0 : c.start.jobs = [])
    (h : Finds c e job x) :
    ∃ k fill, k < e ∧ job = (c.state k).nextJob ∧ c.input k = .start (locateCall fill) := by
  obtain ⟨-, fill, hstage⟩ := h
  rcases positioning_origin (Nat.zero_le e) (mem_of_stage? hstage) with
    hmem | ⟨k, -, hke, hjob, hk, -⟩
  · simp [Course.state_zero, h0] at hmem
  · exact ⟨k, fill, hke, hjob, hk⟩

/-- A job is answered its position once: after that it does not ask for it any more. -/
lemma Finds.not_positioning {e n job : ℕ} {x : Coordinates} {fill : Bool}
    (h0 : c.start.jobs = []) (h : Finds c e job x) (hen : e < n) :
    (job, .positioning fill) ∉ (c.state n).jobs := by
  intro hmem
  obtain ⟨k, _, hke, hjob, hk⟩ := h.started h0
  rcases positioning_origin (m := e + 1) hen hmem with hold | ⟨k', hek', -, hjob', hk', -⟩
  · obtain ⟨hi, fill', hstage⟩ := h
    have hjobs : (c.state (e + 1)).jobs =
        (job, .describing x fill') :: ((c.state e).retire job).jobs := by
      rw [Course.state_succ, hi]
      simp only [step, reply, hstage]
      rfl
    rw [hjobs] at hold
    simp [retire] at hold
  · have := start_unique hk hk' (hjob ▸ hjob')
    omega

/-- What the locator knows, the device answered. -/
lemma located_origin {n : ℕ} {l : Located} (h0 : c.start.jobs = [])
    (hidle : c.start.locator = .idle) (h : (c.state n).locator.located = some l) :
    ∃ e job, e < n ∧ Finds c e job l.position := by
  induction n with
  | zero => simp [Course.state_zero, hidle] at h
  | succ n ih =>
    rw [Course.state_succ] at h
    have hstep := locates_step (c.state n) (c.input n)
    generalize ((c.state n).step (c.input n)).1.locator = l' at h hstep
    have hold (h : (c.state n).locator.located = some l) :
        ∃ e job, e < n + 1 ∧ Finds c e job l.position := by
      obtain ⟨e, job, he, hfinds⟩ := ih h
      exact ⟨e, job, by omega, hfinds⟩
    generalize c.input n = i at hstep
    cases hstep with
    | same => exact hold h
    | begun => exact hold h
    | givenUp => exact hold h
    | failed => exact hold h
    | @found job x fill _ stage =>
      obtain ⟨e, he, hi, hs⟩ := describing_origin h0 (mem_of_stage? stage)
      rw [Locator.located_found] at h
      cases h
      exact ⟨e, job, by omega, hi, fill, hs⟩

/-! ### Nobody asks -/

/-- No job looks the position up. -/
def NoneLocating (p : Picker) : Prop := ∀ job s, (job, s) ∈ p.jobs → s.isLocating = false

lemma NoneLocating.of_step {p : Picker} {i : Input} (h : p.NoneLocating)
    (hi : ∀ fill, i ≠ .start (locateCall fill)) : (p.step i).1.NoneLocating := by
  intro job s hmem
  rcases (onward_step p i).jobs job s hmem with hold | hentry
  · exact h job s hold
  · cases hentry with
    | other _ locating => exact locating
    | dispatched => rfl
    | started purpose => exact Stage.isLocating_of_purpose? purpose
    | begun purpose => exact Stage.isLocating_of_purpose? purpose
    | again purpose => exact Stage.isLocating_of_purpose? purpose
    | positioning => exact absurd rfl (hi _)
    | describing stage => cases h job _ (mem_of_stage? stage)

lemma NoneLocating.not_settles {p : Picker} {i : Input} {job : ℕ} {fill : Bool} {l : Locator}
    (h : p.NoneLocating) (hi : ∀ fill, i ≠ .start (locateCall fill)) :
    ¬ p.Settles i job fill l := by
  intro hs
  cases hs with
  | known => exact hi _ rfl
  | failed stage => cases h job _ (mem_of_stage? stage)
  | expired stage => cases h job _ (mem_of_stage? stage)
  | found stage => cases h job _ (mem_of_stage? stage)

end Picker

end Whereto
