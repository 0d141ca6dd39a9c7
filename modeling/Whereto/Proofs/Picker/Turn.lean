import Whereto.Proofs.Picker.View

/-!
What an input can do, by what is seen of it. The inputs to jobs leave the field alone, but for two
cases: they end a lookup under a ticket, or they end a lookup of the position. The inputs to the
field tell little.
-/

namespace Whereto.Picker

/-- The suggestions that an answer brings. A query that is too short is answered without asking
and brings none. -/
def Input.found : Input → List Suggestion
  | .reply _ (.predictions result) => usable result
  | .reply _ (.cities result) => directoryEntries result
  | _ => []

/-- The job that an input goes to. -/
def Input.job? : Input → Option Nat
  | .begin job | .reply job _ | .expire job | .cancel job => some job
  | _ => none

/-- The inputs that start a job or go to one. -/
def Input.isWork : Input → Bool
  | .start (.handle _) => false
  | .warmUp | .start _ | .begin _ | .reply _ _ | .expire _ | .cancel _ => true
  | _ => false

/-- The input ends the lookup that a job makes under a ticket. -/
inductive Ends (p : Picker) : Input → Nat → Ticket → Prop
  | started {t : Ticket} (short : p.isShort t.query = true) :
      Ends p (.start (.complete t)) p.nextJob t
  | begun {job : Nat} {t : Ticket} (stage : p.stage? job = some (.spawned (.complete t)))
      (short : p.isShort t.query = true) : Ends p (.begin job) job t
  | predicted {job : Nat} {query : String} {t : Ticket}
      {result : Except Failure (List Prediction)}
      (stage : p.stage? job = some (.predicting query (.display t)))
      (some : usable result ≠ []) : Ends p (.reply job (.predictions result)) job t
  | searched {job : Nat} {t : Ticket} {result : Except Failure (List CityRecord)}
      (stage : p.stage? job = some (.searching (.display t))) :
      Ends p (.reply job (.cities result)) job t

/-- The input ends the lookup of the position that a job makes, and leaves the locator behind. -/
inductive Settles (p : Picker) : Input → Nat → Bool → Locator → Prop
  | known {fill : Bool} (busy : p.locator.locating = true) :
      Settles p (.start (locateCall fill)) p.nextJob fill p.locator
  | failed {job : Nat} {fill : Bool} {e : LocatingFault}
      (stage : p.stage? job = some (.positioning fill)) :
      Settles p (.reply job (.position (.error e))) job fill (p.locator.fail e)
  | expired {job : Nat} {fill : Bool} (stage : p.stage? job = some (.positioning fill)) :
      Settles p (.expire job) job fill (p.locator.fail .timeout)
  | found {job : Nat} {x : Coordinates} {fill : Bool} {result : Except Failure Address}
      (stage : p.stage? job = some (.describing x fill)) :
      Settles p (.reply job (.address result)) job fill
        (p.locator.found ⟨x, Address.describe x result.toOption⟩)

lemma Settles.job {p : Picker} {i : Input} {job : Nat} {fill : Bool} {l : Locator}
    (h : p.Settles i job fill l) :
    i.job? = some job ∨ job = p.nextJob ∧ i = .start (locateCall fill) := by
  cases h with
  | known => exact .inr ⟨rfl, rfl⟩
  | _ => exact .inl rfl

lemma Ends.job {p : Picker} {i : Input} {job : Nat} {t : Ticket} (h : p.Ends i job t) :
    i.job? = some job ∨ i = .start (.complete t) := by
  cases h with
  | started => exact .inr rfl
  | _ => exact .inl rfl

/-- What can be seen of an input to a job. -/
inductive Sight (p : Picker) : Input → View → Prop
  | still {i : Input} : Sight p i p.still
  | ended {i : Input} {job : Nat} {t : Ticket} (h : p.Ends i job t) :
      Sight p i (p.ending job t i.found)
  | locating {fill : Bool} (idle : p.locator.locating = false) :
      Sight p (.start (locateCall fill)) ⟨p.field, p.locator.begin, []⟩
  | givenUp {job : Nat} : Sight p (.cancel job) ⟨p.field, p.locator.giveUp, []⟩
  | settled {i : Input} {job : Nat} {fill : Bool} {l : Locator} (h : p.Settles i job fill l) :
      Sight p i ({ p with locator := l }.settled job fill)

lemma sight_complete {p : Picker} {i : Input} {job : Nat} {t : Ticket}
    (h : p.isShort t.query = true → p.Ends i job t ∧ i.found = []) :
    p.Sight i (p.complete job t).view := by
  rw [view_complete]
  split
  · rename_i hs
    obtain ⟨hends, hfound⟩ := h hs
    exact hfound ▸ .ended hends
  · exact .still

lemma sight_locate (p : Picker) (fill : Bool) :
    p.Sight (.start (locateCall fill)) (p.locate p.nextJob fill).view := by
  rw [view_locate]
  split
  · rename_i hl
    exact .settled (.known hl)
  · rename_i hl
    exact .locating (by simpa using hl)

/-- A started job has a number of its own; apart from that, starting it is not seen. -/
lemma view_start (p : Picker) (call : Call) : (p.start call).view =
    match call with
    | .complete t => (p.complete p.nextJob t).view
    | .handle query =>
      ({ p with field := p.field.supersede }.complete p.nextJob
        ⟨query, p.field.generation + 1⟩).view
    | .locate => (p.locate p.nextJob false).view
    | .useLocation => (p.locate p.nextJob true).view
    | _ => p.still := by
  unfold start
  rw [view_andThen]
  cases call with
  | complete t =>
    simp only [view_complete]
    rfl
  | handle query =>
    simp only [view_complete, Field.issue]
    rfl
  | lookup query => simp only [view_lookup]; rfl
  | predict query => simp only [view_lookup]; rfl
  | fallback query => rfl
  | ensureReady => simp only [view_ensureReady]; rfl
  | locate => simp only [view_locate]; rfl
  | useLocation => simp only [view_locate]; rfl

lemma sight_start (p : Picker) {call : Call} (h : (Input.start call).isWork = true) :
    p.Sight (.start call) (p.start call).view := by
  rw [view_start]
  cases call with
  | complete t => exact sight_complete fun hs => ⟨.started hs, rfl⟩
  | handle query => cases h
  | locate => exact sight_locate p false
  | useLocation => exact sight_locate p true
  | _ => exact .still

lemma sight_begin (p : Picker) (job : Nat) : p.Sight (.begin job) (p.begin job).view := by
  unfold begin
  split
  · rw [view_ensureReady]
    exact .still
  · rename_i t ht
    exact sight_complete fun hs => ⟨.begun ht hs, rfl⟩
  · exact .still

lemma sight_reply (p : Picker) (job : Nat) (r : Reply) :
    p.Sight (.reply job r) (p.reply job r).view := by
  unfold reply
  split
  · rw [view_loadDone]
    exact .still
  · rw [view_loadFailed]
    exact .still
  · rename_i query purpose result hstage
    dsimp only
    split
    · rw [view_fallBack]
      exact .still
    · rename_i hsome
      cases purpose with
      | display t =>
        rw [view_conclude_display]
        exact .ended (.predicted hstage (by simpa using hsome))
      | offer => exact .still
      | predictOnly => exact .still
  · rename_i purpose result hstage
    cases purpose with
    | display t =>
      rw [view_conclude_display]
      exact .ended (.searched hstage)
    | offer => exact .still
    | predictOnly => exact .still
  · exact .still
  · rename_i fill e hstage
    rw [view_locatingFailed]
    exact .settled (.failed hstage)
  · rename_i x fill result hstage
    rw [view_settle]
    exact .settled (.found hstage)
  · exact .still

lemma sight_expire (p : Picker) (job : Nat) : p.Sight (.expire job) (p.expire job).view := by
  unfold expire
  split
  · rename_i fill hstage
    rw [view_locatingFailed]
    exact .settled (.expired hstage)
  · exact .still

lemma sight_cancel (p : Picker) (job : Nat) : p.Sight (.cancel job) (p.cancel job).view := by
  unfold cancel
  split
  · exact .still
  · split
    · exact .still
    · rw [view_loadNext]
      exact .still
    · exact .still
    · exact .givenUp
    · exact .givenUp
    · exact .still

/-- **What an input to a job can do**, as far as it is seen. -/
theorem sight_step (p : Picker) {i : Input} (h : i.isWork = true) : p.Sight i (p.step i).view := by
  cases i with
  | warmUp =>
    rw [step, view_warmUp]
    exact .still
  | start call => exact sight_start p h
  | begin job => exact sight_begin p job
  | reply job r => exact sight_reply p job r
  | expire job => exact sight_expire p job
  | cancel job => exact sight_cancel p job
  | _ => cases h

/-- Of the work of jobs one is told notes and answers. -/
lemma Sight.told {p : Picker} {i : Input} {v : View} (h : p.Sight i v) {o : Output}
    (ho : o ∈ v.told) : (∃ n, o = .note n) ∨ ∃ job a, o = .finish job a := by
  cases h with
  | still => cases ho
  | ended =>
    unfold ending at ho
    split at ho
    · rcases List.mem_append.mp ho with hnote | hfinish
      · split at hnote
        · cases hnote
        · exact .inl ⟨_, List.mem_singleton.mp hnote⟩
      · exact .inr ⟨_, _, List.mem_singleton.mp hfinish⟩
    · rcases List.mem_cons.mp ho with hnote | hfinish
      · exact .inl ⟨_, hnote⟩
      · exact .inr ⟨_, _, List.mem_singleton.mp hfinish⟩
  | locating => cases ho
  | givenUp => cases ho
  | settled =>
    unfold Picker.settled at ho
    split at ho
    · split at ho
      · rcases List.mem_cons.mp ho with hnote | hfinish
        · exact .inl ⟨_, hnote⟩
        · exact .inr ⟨_, _, List.mem_singleton.mp hfinish⟩
      · exact .inr ⟨_, _, List.mem_singleton.mp ho⟩
      · exact .inr ⟨_, _, List.mem_singleton.mp ho⟩
    · cases ho

/-! ### Inputs to the field -/

/-- What is told of an input to the field. -/
inductive Tells (p : Picker) : Input → Output → Prop
  | issued {query : String} : Tells p (.issue query) (.issued ⟨query, p.field.generation + 1⟩)
  | dispatched {query : String} :
      Tells p (.dispatch query) (.spawned p.nextJob (.complete ⟨query, p.field.generation + 1⟩))
  | picked {index : Nat} : Tells p (.selectIndex index) (.picked p.field.suggestions[index]?)
  | submitted {d : Option Destination} : Tells p .submit (.submitted d)
  | note {i : Input} {n : Note} : Tells p i (.note n)
  | handled {query : String} : Tells p (.start (.handle query)) (.finish p.nextJob (.applied true))

lemma tells_handle {p : Picker} {query : String} {o : Output}
    (h : o ∈ (p.start (.handle query)).view.told) : p.Tells (.start (.handle query)) o := by
  rw [view_start] at h
  dsimp only at h
  rw [view_complete] at h
  split at h
  · rename_i hs
    obtain rfl : o = .finish p.nextJob (.applied true) := by
      simpa [ending, Field.supersede, isShort, show Field.isShort p.options.minChars query = true
        from hs] using h
    exact .handled
  · simp [still] at h

lemma tells_step {p : Picker} {i : Input} {o : Output} (hi : i.isWork = false)
    (h : o ∈ (p.step i).view.told) : p.Tells i o := by
  have hout := (List.mem_filter.mp h).1
  cases i with
  | start call =>
    cases call with
    | handle query => exact tells_handle h
    | _ => cases hi
  | issue query =>
    obtain rfl := List.mem_singleton.mp hout
    exact .issued
  | dispatch query =>
    obtain rfl := List.mem_singleton.mp hout
    exact .dispatched
  | selectIndex index =>
    obtain rfl : o = .picked p.field.suggestions[index]? := by
      simp only [step, selectIndex] at hout
      cases hs : p.field.suggestions[index]? <;> simpa [hs] using hout
    exact .picked
  | submit =>
    simp only [step, submit] at hout
    split at hout
    · obtain rfl := List.mem_singleton.mp hout
      exact .submitted
    · simp only [List.mem_cons, List.not_mem_nil, or_false] at hout
      rcases hout with rfl | rfl
      · exact .note
      · exact .submitted
  | warmUp => cases hi
  | begin job => cases hi
  | reply job r => cases hi
  | expire job => cases hi
  | cancel job => cases hi
  | _ => simp [step] at hout

/-- What is told is an answer or a note, or it tells which input was taken. -/
lemma told_step {p : Picker} {i : Input} {o : Output} (ho : o.tells = true)
    (h : o ∈ (p.step i).2) : p.Tells i o ∨ i.isWork = true ∧
      ((∃ n, o = .note n) ∨ ∃ job a, o = .finish job a) := by
  have htold := (mem_told ho).mpr h
  by_cases hi : i.isWork = true
  · exact .inr ⟨hi, (sight_step p hi).told htold⟩
  · exact .inl (tells_step (by simpa using hi) htold)

/-- A spawned job with a ticket was dispatched. -/
lemma spawned_step {p : Picker} {i : Input} {job : Nat} {t : Ticket}
    (h : .spawned job (.complete t) ∈ (p.step i).2) :
    i = .dispatch t.query ∧ job = p.nextJob ∧ t.generation = p.field.generation + 1 := by
  rcases told_step rfl h with h | ⟨-, ⟨_, h⟩ | ⟨_, _, h⟩⟩
  · cases h with
    | dispatched => exact ⟨rfl, rfl, rfl⟩
  · cases h
  · cases h

end Whereto.Picker
