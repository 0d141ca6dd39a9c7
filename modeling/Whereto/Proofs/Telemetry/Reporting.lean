import Whereto.Picker.Reporting
import Whereto.Proofs.Picker.Noted

/-!
Pickers that report refine pickers. A step of a picker that reports is a step of the picker whose
notes are told to the telemetry, in their order, and whose other outputs come out. So the telemetry
decides nothing: what comes of telling a note, a fault included, is never asked for.
-/

namespace Whereto

open Picker (Input Output)

/-- Notes are told one after the other. -/
def Telemetry.tellAll (x : Telemetry) (notes : List Note) : Telemetry := notes.foldl tell x

/-- Whether an output is said, and not noted. -/
def Picker.Output.isSaid : Output → Bool
  | .note _ => false
  | _ => true

lemma Picker.Output.isSaid_of_not_tells {o : Output} (h : o.tells = false) : o.isSaid = true := by
  cases o with
  | note n => cases h
  | _ => rfl

namespace Reporting

/-- What a step of the picker comes to when its notes are told. -/
def told (x : Option Telemetry) (s : Picker.Step) : Step :=
  (⟨s.1, x.map (·.tellAll (s.2.filterMap Output.note?))⟩, s.2.filter Output.isSaid)

variable {r : Reporting} {x : Option Telemetry} {p q : Picker} {n : Note} {o : Output}
  {out : List Output}

lemma told_note : told x (p, .note n :: out) = told (x.map (·.tell n)) (p, out) := by
  cases x with
  | none => rfl
  | some x => rfl

lemma told_said (h : o.isSaid = true) :
    told x (p, o :: out) = ((told x (p, out)).1, o :: (told x (p, out)).2) := by
  have hnote : o.note? = none := by
    cases o with
    | note n => cases h
    | _ => rfl
  simp [told, hnote, h]

lemma told_nil : told x (p, []) = (⟨p, x⟩, []) := by
  cases x <;> rfl

lemma told_of_said (h : ∀ o ∈ out, o.isSaid = true) : told x (p, out) = (⟨p, x⟩, out) := by
  induction out with
  | nil => exact told_nil
  | cons o out ih =>
    rw [told_said (h o List.mem_cons_self), ih fun o ho => h o (List.mem_cons_of_mem _ ho)]

/-- Where callers are told nothing, there is nothing to report. -/
lemma said_of_still {s : Picker.Step} (h : s.view = q.still) : ∀ o ∈ s.2, o.isSaid = true := by
  intro o ho
  have hnone : s.2.filter Output.tells = [] := congrArg Picker.View.told h
  have hquiet : o.tells = false := by simpa using List.filter_eq_nil_iff.mp hnone o ho
  exact o.isSaid_of_not_tells hquiet

lemma said_done (p : Picker) (job : ℕ) (a : Answer) :
    ∀ o ∈ (p.done job a).2, o.isSaid = true := by
  simp [Picker.done, Output.isSaid]

lemma silent_eq {f : Picker → Picker.Step} (h : ∀ o ∈ (f r.picker).2, o.isSaid = true) :
    r.silent f = told r.telemetry (f r.picker) := (told_of_said h).symm

lemma silent_of_still {f : Picker → Picker.Step} (h : (f r.picker).view = q.still) :
    r.silent f = told r.telemetry (f r.picker) := silent_eq (said_of_still h)

/-- The note is told, and then nothing more. -/
lemma silent_tell {f : Picker → Picker.Step} (h : ∀ o ∈ (f r.picker).2, o.isSaid = true) :
    (r.tell n).silent f = told r.telemetry ((f r.picker).1, .note n :: (f r.picker).2) := by
  obtain ⟨p, x⟩ := r
  rw [told_note, told_of_said h]
  cases x <;> rfl

/-! ### Operations -/

lemma conclude_eq (r : Reporting) (job : ℕ) (purpose : Purpose) (ss : List Suggestion) :
    r.conclude job purpose ss = told r.telemetry (r.picker.conclude job purpose ss) := by
  cases purpose with
  | display t =>
    unfold conclude apply Picker.conclude
    by_cases hlatest : t.generation = r.picker.field.generation
    · by_cases hshort : r.picker.isShort t.query = true
      · simp only [hlatest, hshort, if_true]
        exact silent_eq (said_done _ job _)
      · simp only [hlatest, hshort, if_true]
        exact silent_tell (r := ⟨{ r.picker with field := r.picker.field.display ss }, _⟩)
          (said_done _ job _)
    · simp only [hlatest, if_false]
      exact silent_tell (said_done _ job _)
  | offer => exact silent_eq (f := fun p => p.done job (.offered ss)) (said_done _ job _)
  | predictOnly => exact silent_eq (f := fun p => p.done job (.offered ss)) (said_done _ job _)

lemma complete_eq (r : Reporting) (job : ℕ) (t : Ticket) :
    r.complete job t = told r.telemetry (r.picker.complete job t) := by
  unfold complete Picker.complete
  split
  · exact conclude_eq r job (.display t) []
  · exact silent_of_still (Picker.view_lookup r.picker job t.query (.display t))

lemma settle_eq (r : Reporting) (job : ℕ) (fill : Bool) :
    r.settle job fill = told r.telemetry (r.picker.settle job fill) := by
  have quiet (h : ∀ o ∈ (r.picker.settle job fill).2, o.isSaid = true) :
      r.silent (·.settle job fill) = told r.telemetry (r.picker.settle job fill) := silent_eq h
  unfold settle
  unfold Picker.settle at quiet ⊢
  cases fill with
  | false => exact quiet (said_done _ job _)
  | true =>
    cases herror : r.picker.locator.error with
    | some e => exact silent_tell (f := fun p => p.done job (.picked none)) (said_done _ job _)
    | none =>
      simp only [herror] at quiet
      cases hfound : r.picker.locator.suggestion? with
      | some s =>
        simp only [hfound] at quiet
        exact quiet (said_done _ job _)
      | none =>
        simp only [hfound] at quiet
        exact quiet (said_done _ job _)

lemma locate_eq (r : Reporting) (job : ℕ) (fill : Bool) :
    r.locate job fill = told r.telemetry (r.picker.locate job fill) := by
  unfold locate
  split
  · next busy =>
    have hlocate : r.picker.locate job fill = r.picker.settle job fill := by
      rw [Picker.locate, if_pos busy]
    rw [hlocate]
    exact settle_eq r job fill
  · next free =>
    refine silent_eq fun o ho => ?_
    rw [Picker.locate, if_neg free] at ho
    cases List.mem_singleton.mp ho
    rfl

lemma locatingFailed_eq (r : Reporting) (job : ℕ) (fill : Bool) (e : LocatingFault) :
    r.locatingFailed job fill e = told r.telemetry (r.picker.locatingFailed job fill e) :=
  settle_eq { r with picker := { r.picker with locator := r.picker.locator.fail e } } job fill

/-! ### Inputs -/

lemma started_eq {f : Picker → Picker.Step} {g : Reporting → Step}
    (h : ∀ r : Reporting, g r = told r.telemetry (f r.picker)) (p : Picker) (x : Option Telemetry)
    (job : ℕ) : ((g ⟨p, x⟩).1, .started job :: (g ⟨p, x⟩).2) =
      told x (Picker.andThen (p, [.started job]) f) := by
  rw [h]
  exact (told_said rfl).symm

lemma start_eq (r : Reporting) (call : Call) :
    r.start call = told r.telemetry (r.picker.start call) := by
  obtain ⟨p, x⟩ := r
  have started (f : Picker → Picker.Step) (g : Reporting → Step)
      (h : ∀ r : Reporting, g r = told r.telemetry (f r.picker)) :=
    started_eq h { p with nextJob := p.nextJob + 1 } x p.nextJob
  have still (f : Picker → Picker.Step) (h : ∀ p, (f p).view = p.still) :=
    started f (·.silent f) fun r => silent_of_still (h r.picker)
  cases call with
  | complete t =>
    exact started (·.complete p.nextJob t) (·.complete p.nextJob t) fun r => complete_eq r _ t
  | handle query =>
    exact started
      (fun q => { q with field := (q.field.issue query).2 }.complete p.nextJob
        (q.field.issue query).1)
      (fun r => complete ⟨{ r.picker with field := (r.picker.field.issue query).2 }, r.telemetry⟩
        p.nextJob (r.picker.field.issue query).1)
      fun r => complete_eq _ _ _
  | lookup query =>
    exact still (·.lookup p.nextJob query .offer) fun q => Picker.view_lookup q _ query .offer
  | predict query =>
    exact still (·.lookup p.nextJob query .predictOnly)
      fun q => Picker.view_lookup q _ query .predictOnly
  | fallback query => exact still (·.search p.nextJob query .offer) fun _ => rfl
  | ensureReady => exact still (·.ensureReady p.nextJob) fun q => Picker.view_ensureReady q _
  | locate =>
    exact started (·.locate p.nextJob false) (·.locate p.nextJob false) fun r => locate_eq r _ _
  | useLocation =>
    exact started (·.locate p.nextJob true) (·.locate p.nextJob true) fun r => locate_eq r _ _

lemma begin_eq (r : Reporting) (job : ℕ) :
    r.begin job = told r.telemetry (r.picker.begin job) := by
  unfold begin
  split
  · next t stage =>
    rw [complete_eq]
    simp [Picker.begin, stage]
  · next other =>
    refine silent_of_still (q := r.picker) ?_
    unfold Picker.begin
    split
    · exact Picker.view_ensureReady r.picker job
    · next t stage => exact absurd stage (other t)
    · rfl

lemma reply_eq (r : Reporting) (job : ℕ) (a : Reply) :
    r.reply job a = told r.telemetry (r.picker.reply job a) := by
  unfold reply
  split
  · next query purpose result stage =>
    dsimp only
    split
    · next hempty =>
      rw [silent_of_still (Picker.view_fallBack r.picker job query purpose)]
      simp [Picker.reply, stage, hempty]
    · next hsome =>
      rw [conclude_eq]
      simp [Picker.reply, stage, hsome]
  · next purpose result stage =>
    rw [conclude_eq]
    simp [Picker.reply, stage]
  · next fill e stage =>
    rw [locatingFailed_eq]
    simp [Picker.reply, stage]
  · next c fill result stage =>
    dsimp only
    rw [settle_eq]
    simp [Picker.reply, stage]
  · next hpredicting hsearching hpositioning hdescribing =>
    refine silent_of_still (q := r.picker) ?_
    unfold Picker.reply
    split
    · exact Picker.view_loadDone r.picker job
    · exact Picker.view_loadFailed r.picker job _
    · next stage => exact absurd rfl (hpredicting _ _ _ stage)
    · next stage => exact absurd rfl (hsearching _ _ stage)
    · rfl
    · next stage => exact absurd rfl (hpositioning _ _ stage)
    · next stage => exact absurd rfl (hdescribing _ _ _ stage)
    · rfl

lemma expire_eq (r : Reporting) (job : ℕ) :
    r.expire job = told r.telemetry (r.picker.expire job) := by
  unfold expire
  split
  · next fill stage =>
    rw [locatingFailed_eq]
    simp [Picker.expire, stage]
  · next other =>
    have hexpire : r.picker.expire job = (r.picker, []) := by
      unfold Picker.expire
      split
      · next fill stage => exact absurd stage (other fill)
      · rfl
    rw [hexpire, told_nil]

lemma submit_eq (r : Reporting) : r.submit = told r.telemetry r.picker.submit := by
  unfold submit Picker.submit
  cases r.picker.field.submit? with
  | some d => exact (told_of_said (by simp [Output.isSaid])).symm
  | none => exact silent_tell (f := fun p => (p, [.submitted none])) (by simp [Output.isSaid])

lemma said_cancel (p : Picker) (job : ℕ) : ∀ o ∈ (p.cancel job).2, o.isSaid = true := by
  unfold Picker.cancel
  split
  · nofun
  · split
    · nofun
    · exact said_of_still (Picker.view_loadNext _)
    · nofun
    · nofun
    · nofun
    · nofun

/-- **Reporting refines the picker**: a step is that of the picker, its notes are told, and all
else comes out. -/
theorem step_eq (r : Reporting) (i : Input) :
    r.step i = told r.telemetry (r.picker.step i) := by
  have quiet (h : ∀ o ∈ (r.picker.step i).2, o.isSaid = true) :
      r.silent (·.step i) = told r.telemetry (r.picker.step i) := silent_eq h
  cases i with
  | submit => exact submit_eq r
  | start call => exact start_eq r call
  | begin job => exact begin_eq r job
  | reply job a => exact reply_eq r job a
  | expire job => exact expire_eq r job
  | warmUp => exact quiet (said_of_still (Picker.view_warmUp r.picker))
  | cancel job => exact quiet (said_cancel r.picker job)
  | selectIndex index =>
    refine quiet ?_
    simp only [Picker.step, Picker.selectIndex]
    split <;> simp [Output.isSaid]
  | _ =>
    exact quiet (by simp [Picker.step, Picker.issue, Picker.dispatch, Picker.spawn, Output.isSaid])

end Reporting

end Whereto
