import Whereto.Proofs.Picker.Turn

/-!
How jobs come about and go on. A job gets its ticket when it is started and never another one; it
looks the position up only if it was started for that, and it looks an address up only for the
coordinates that it was answered.
-/

namespace Whereto

def Purpose.ticket? : Purpose → Option Ticket
  | display t => some t
  | _ => none

namespace Stage

/-- What the suggestions are for that a job has asked for. -/
def purpose? : Stage → Option Purpose
  | predicting _ purpose | searching purpose => some purpose
  | _ => none

/-- The ticket under which suggestions are looked up. -/
def ticket? : Stage → Option Ticket
  | spawned (.complete t) => some t
  | predicting _ purpose | searching purpose => purpose.ticket?
  | _ => none

/-- Whether the position or its address is looked up. -/
def isLocating : Stage → Bool
  | positioning _ | describing _ _ => true
  | _ => false

lemma ticket?_of_purpose? {s : Stage} {purpose : Purpose} (h : s.purpose? = some purpose) :
    s.ticket? = purpose.ticket? := by
  cases s <;> simp_all [purpose?, ticket?]

lemma isLocating_of_purpose? {s : Stage} {purpose : Purpose} (h : s.purpose? = some purpose) :
    s.isLocating = false := by
  cases s <;> simp_all [purpose?, isLocating]

end Stage

namespace Picker

/-- The job looks suggestions up under a ticket. -/
def Carries (p : Picker) (job : Nat) (t : Ticket) : Prop :=
  ∃ s, (job, s) ∈ p.jobs ∧ s.ticket? = some t

/-- The input starts a job under a ticket. -/
inductive Starts (p : Picker) : Input → Ticket → Prop
  | complete {t : Ticket} : Starts p (.start (.complete t)) t
  | handle {query : String} : Starts p (.start (.handle query)) ⟨query, p.field.generation + 1⟩
  | dispatch {query : String} : Starts p (.dispatch query) ⟨query, p.field.generation + 1⟩

/-- The ways in which a job can get to a stage. Suggestions are asked for only if the query is
long enough. -/
inductive Entry (p : Picker) : Input → Nat → Stage → Prop
  | other {i : Input} {job : Nat} {s : Stage} (ticket : s.ticket? = none)
      (locating : s.isLocating = false) : Entry p i job s
  | dispatched {query : String} :
      Entry p (.dispatch query) p.nextJob (.spawned (.complete ⟨query, p.field.generation + 1⟩))
  | started {i : Input} {s : Stage} {t : Ticket} (purpose : s.purpose? = some (.display t))
      (h : p.Starts i t) (long : p.isShort t.query = false) : Entry p i p.nextJob s
  | begun {job : Nat} {s : Stage} {t : Ticket} (purpose : s.purpose? = some (.display t))
      (stage : p.stage? job = some (.spawned (.complete t))) (long : p.isShort t.query = false) :
      Entry p (.begin job) job s
  | again {job : Nat} {s : Stage} {t : Ticket} {query : String}
      {result : Except Failure (List Prediction)} (purpose : s.purpose? = some (.display t))
      (stage : p.stage? job = some (.predicting query (.display t))) :
      Entry p (.reply job (.predictions result)) job s
  | positioning {fill : Bool} (idle : p.locator.locating = false) :
      Entry p (.start (locateCall fill)) p.nextJob (.positioning fill)
  | describing {job : Nat} {x : Coordinates} {fill : Bool}
      (stage : p.stage? job = some (.positioning fill)) :
      Entry p (.reply job (.position (.ok x))) job (.describing x fill)

/-- From one picker to a later one: jobs may end, and get to stages of a kind. -/
structure Onward (E : Nat → Stage → Prop) (p q : Picker) : Prop where
  options : q.options = p.options
  nextJob : p.nextJob ≤ q.nextJob
  jobs : ∀ job s, (job, s) ∈ q.jobs → (job, s) ∈ p.jobs ∨ E job s

/-- The stages that have to do neither with a ticket nor with the position. -/
def Plain (E : Nat → Stage → Prop) : Prop :=
  ∀ job (s : Stage), s.ticket? = none → s.isLocating = false → E job s

variable {E : Nat → Stage → Prop} {p q r : Picker}

lemma Onward.refl (E : Nat → Stage → Prop) (p : Picker) : Onward E p p :=
  ⟨rfl, Nat.le_refl _, fun _ _ h => .inl h⟩

lemma Onward.trans (h₁ : Onward E p q) (h₂ : Onward E q r) : Onward E p r where
  options := h₂.options.trans h₁.options
  nextJob := Nat.le_trans h₁.nextJob h₂.nextJob
  jobs job s h := by
    rcases h₂.jobs job s h with hq | hE
    · exact h₁.jobs job s hq
    · exact .inr hE

lemma Onward.andThen {s : Step} {f : Picker → Step} (h₁ : Onward E p s.1)
    (h₂ : ∀ q, Onward E q (f q).1) : Onward E p (andThen s f).1 :=
  h₁.trans (h₂ s.1)

lemma onward_retire (E : Nat → Stage → Prop) (p : Picker) (job : Nat) :
    Onward E p (p.retire job) :=
  ⟨rfl, Nat.le_refl _, fun _ _ h => .inl (List.mem_filter.mp h).1⟩

lemma onward_enter {job : Nat} {s : Stage} (h : E job s) : Onward E p (p.enter job s) where
  options := rfl
  nextJob := Nat.le_refl _
  jobs j s' hmem := by
    rcases List.mem_cons.mp hmem with heq | hold
    · cases heq
      exact .inr h
    · exact .inl (List.mem_filter.mp hold).1

lemma onward_spawn {e : Errand} (h : E p.nextJob (.spawned e)) : Onward E p (p.spawn e).1 where
  options := rfl
  nextJob := Nat.le_succ _
  jobs j s' hmem := by
    rcases List.mem_cons.mp hmem with heq | hold
    · cases heq
      exact .inr h
    · exact .inl hold

/-! ### Loading the predictor -/

lemma onward_warmUp (h : Plain E) (p : Picker) : Onward E p p.warmUp.1 := by
  unfold warmUp
  split
  · exact .refl E p
  · have hs := onward_spawn (p := { p with primary := { p.primary with
      background := some p.nextJob } }) (h p.nextJob (.spawned .load) rfl rfl)
    exact ⟨hs.options, hs.nextJob, hs.jobs⟩

lemma onward_startLoad (h : Plain E) (p : Picker) (job : Nat) :
    Onward E p (p.startLoad job).1 := by
  have he := onward_enter (p := { p with primary := { p.primary with
    loading := some job, loads := p.primary.loads + 1 } }) (h job .loading rfl rfl)
  exact ⟨he.options, he.nextJob, he.jobs⟩

lemma onward_leave (E : Nat → Stage → Prop) (p : Picker) (job : Nat)
    (failure : Option Failure) : Onward E p (p.leave job failure).1 := by
  unfold leave
  split
  · exact ⟨rfl, Nat.le_refl _, (onward_retire E p job).jobs⟩
  · exact onward_retire E p job

lemma onward_ensureReady (h : Plain E) (p : Picker) (job : Nat) :
    Onward E p (p.ensureReady job).1 := by
  unfold ensureReady
  split
  · exact onward_leave E p job none
  · split
    · exact onward_startLoad h p job
    · exact ⟨rfl, Nat.le_refl _, (onward_enter (h job .queued rfl rfl)).jobs⟩

lemma onward_loadNext (h : Plain E) (p : Picker) : Onward E p p.loadNext.1 := by
  unfold loadNext
  split
  · exact ⟨rfl, Nat.le_refl _, fun _ _ hj => .inl hj⟩
  · rename_i job rest _
    have hs := onward_startLoad h { p with primary := { p.primary with waiting := rest } } job
    exact ⟨hs.options, hs.nextJob, hs.jobs⟩

lemma onward_loadDone (E : Nat → Stage → Prop) (p : Picker) (job : Nat) :
    Onward E p (p.loadDone job).1 := by
  have line (js : List Nat) (s : Step) (hs : Onward E p s.1) :
      Onward E p (js.foldl (fun s j => Picker.andThen s (leave · j none)) s).1 := by
    induction js generalizing s with
    | nil => exact hs
    | cons j js ih => exact ih _ (hs.andThen fun q => onward_leave E q j none)
  exact line _ _ ⟨rfl, Nat.le_refl _, fun _ _ hj => .inl hj⟩

lemma onward_loadFailed (h : Plain E) (p : Picker) (job : Nat) (e : Failure) :
    Onward E p (p.loadFailed job e).1 :=
  (onward_leave E p job _).andThen fun q => onward_loadNext h q

/-! ### Looking up suggestions -/

/-- The stages of a lookup for a purpose. -/
def Serves (E : Nat → Stage → Prop) (job : Nat) (purpose : Purpose) : Prop :=
  ∀ s : Stage, s.purpose? = some purpose → E job s

lemma onward_conclude (E : Nat → Stage → Prop) (p : Picker) (job : Nat) (purpose : Purpose)
    (found : List Suggestion) : Onward E p (p.conclude job purpose found).1 := by
  unfold conclude
  split
  · split
    · exact ⟨rfl, Nat.le_refl _, (onward_retire E p job).jobs⟩
    · exact onward_retire E p job
  · exact onward_retire E p job
  · exact onward_retire E p job

lemma onward_search {job : Nat} {purpose : Purpose} (h : Serves E job purpose) (p : Picker)
    (query : String) : Onward E p (p.search job query purpose).1 :=
  onward_enter (h (.searching purpose) rfl)

lemma onward_fallBack {job : Nat} {purpose : Purpose} (h : Serves E job purpose) (p : Picker)
    (query : String) : Onward E p (p.fallBack job query purpose).1 := by
  unfold fallBack
  split
  · exact onward_conclude E p job _ []
  · exact onward_search h p query

lemma onward_lookup {job : Nat} {purpose : Purpose} (hE : Plain E) (h : Serves E job purpose)
    (p : Picker) (query : String) : Onward E p (p.lookup job query purpose).1 := by
  unfold lookup
  split
  · exact onward_enter (h (.predicting query purpose) rfl)
  · exact (onward_warmUp hE p).andThen fun q => onward_fallBack h q query

lemma onward_complete {job : Nat} {t : Ticket} (hE : Plain E)
    (h : p.isShort t.query = false → Serves E job (.display t)) :
    Onward E p (p.complete job t).1 := by
  unfold complete
  split
  · exact onward_conclude E p job _ []
  · rename_i hs
    exact onward_lookup hE (h (by simpa using hs)) p t.query

/-! ### Locating the device -/

lemma onward_settle (E : Nat → Stage → Prop) (p : Picker) (l : Locator) (job : Nat)
    (fill : Bool) : Onward E p ({ p with locator := l }.settle job fill).1 := by
  have hjobs := (onward_retire E p job).jobs
  unfold settle
  split
  · split
    · exact ⟨rfl, Nat.le_refl _, hjobs⟩
    · split <;> exact ⟨rfl, Nat.le_refl _, hjobs⟩
  · exact ⟨rfl, Nat.le_refl _, hjobs⟩

lemma onward_locate {job : Nat} {fill : Bool}
    (h : p.locator.locating = false → E job (.positioning fill)) :
    Onward E p (p.locate job fill).1 := by
  unfold locate
  split
  · exact onward_settle E p p.locator job fill
  · rename_i hl
    exact ⟨rfl, Nat.le_refl _, (onward_enter (h (by simpa using hl))).jobs⟩

/-! ### Steps -/

lemma mem_of_stage? {p : Picker} {job : Nat} {s : Stage} (h : p.stage? job = some s) :
    (job, s) ∈ p.jobs := by
  obtain ⟨l₁, l₂, hjobs, -⟩ := List.lookup_eq_some_iff.mp h
  rw [hjobs]
  simp

lemma plain_entry (p : Picker) (i : Input) : Plain (p.Entry i) := fun _ _ => .other

lemma serves_plain {i : Input} {job : Nat} {purpose : Purpose} (h : purpose.ticket? = none) :
    Serves (p.Entry i) job purpose :=
  fun _ hs => .other ((Stage.ticket?_of_purpose? hs).trans h) (Stage.isLocating_of_purpose? hs)

lemma onward_start (p : Picker) (call : Call) :
    Onward (p.Entry (.start call)) { p with nextJob := p.nextJob + 1 } (p.start call).1 := by
  have hplain := plain_entry p (.start call)
  cases call with
  | complete t => exact onward_complete hplain fun long _ hs => .started hs .complete long
  | handle query =>
    have h := onward_complete (p := { p with
        nextJob := p.nextJob + 1, field := p.field.supersede }) hplain
      fun long _ hs => .started hs .handle long
    exact ⟨h.options, h.nextJob, h.jobs⟩
  | lookup query => exact onward_lookup hplain (serves_plain rfl) _ query
  | predict query => exact onward_lookup hplain (serves_plain rfl) _ query
  | fallback query => exact onward_search (serves_plain rfl) _ query
  | ensureReady => exact onward_ensureReady hplain _ p.nextJob
  | locate => exact onward_locate fun hl => @Entry.positioning p false hl
  | useLocation => exact onward_locate fun hl => @Entry.positioning p true hl

lemma onward_begin (p : Picker) (job : Nat) :
    Onward (p.Entry (.begin job)) p (p.begin job).1 := by
  have hplain := plain_entry p (.begin job)
  unfold begin
  split
  · exact onward_ensureReady hplain p job
  · rename_i t hstage
    exact onward_complete hplain fun long _ hs => .begun hs hstage long
  · exact .refl _ p

lemma onward_reply (p : Picker) (job : Nat) (r : Reply) :
    Onward (p.Entry (.reply job r)) p (p.reply job r).1 := by
  have hplain := plain_entry p (.reply job r)
  unfold reply
  split
  · exact onward_loadDone _ p job
  · exact onward_loadFailed hplain p job _
  · rename_i query purpose result hstage
    dsimp only
    split
    · refine onward_fallBack ?_ p query
      cases purpose with
      | display t => exact fun _ hs => .again hs hstage
      | offer => exact serves_plain rfl
      | predictOnly => exact serves_plain rfl
    · exact onward_conclude _ p job purpose _
  · exact onward_conclude _ p job _ _
  · rename_i fill x hstage
    exact onward_enter (.describing hstage)
  · exact onward_settle _ p _ job _
  · exact onward_settle _ p _ job _
  · exact .refl _ p

lemma onward_expire (p : Picker) (job : Nat) :
    Onward (p.Entry (.expire job)) p (p.expire job).1 := by
  unfold expire
  split
  · exact onward_settle _ p _ job _
  · exact .refl _ p

lemma onward_cancel (p : Picker) (job : Nat) :
    Onward (p.Entry (.cancel job)) p (p.cancel job).1 := by
  have hretire := onward_retire (p.Entry (.cancel job)) p job
  unfold cancel
  split
  · exact .refl _ p
  · split
    · exact .refl _ p
    · exact hretire.trans (onward_loadNext (plain_entry p _) _)
    · exact ⟨rfl, Nat.le_refl _, hretire.jobs⟩
    · exact ⟨rfl, Nat.le_refl _, hretire.jobs⟩
    · exact ⟨rfl, Nat.le_refl _, hretire.jobs⟩
    · exact hretire

lemma onward_dispatch (p : Picker) (query : String) :
    Onward (p.Entry (.dispatch query)) { p with nextJob := p.nextJob + 1 }
      (p.dispatch query).1 where
  options := rfl
  nextJob := Nat.le_refl _
  jobs job s hmem := by
    rcases List.mem_cons.mp hmem with heq | hold
    · cases heq
      exact .inr .dispatched
    · exact .inl hold

/-- **How jobs go on**: a step brings a job to a new stage only in one of the ways of `Entry`. -/
theorem onward_step (p : Picker) (i : Input) : Onward (p.Entry i) p (p.step i).1 := by
  cases i with
  | start call =>
    have h := onward_start p call
    exact ⟨h.options, Nat.le_of_succ_le h.nextJob, h.jobs⟩
  | dispatch query =>
    have h := onward_dispatch p query
    exact ⟨h.options, Nat.le_of_succ_le h.nextJob, h.jobs⟩
  | begin job => exact onward_begin p job
  | reply job r => exact onward_reply p job r
  | expire job => exact onward_expire p job
  | cancel job => exact onward_cancel p job
  | warmUp => exact onward_warmUp (plain_entry p _) p
  | selectIndex index =>
    simp only [step, selectIndex]
    split <;> exact ⟨rfl, Nat.le_refl _, fun _ _ h => .inl h⟩
  | submit =>
    simp only [step, submit]
    split <;> exact .refl _ p
  | _ => exact ⟨rfl, Nat.le_refl _, fun _ _ h => .inl h⟩

/-- A started job takes its number. -/
lemma nextJob_start (p : Picker) (call : Call) :
    p.nextJob < (p.step (.start call)).1.nextJob := (onward_start p call).nextJob

/-- A step that gives out a number under a ticket uses it up. -/
lemma Starts.nextJob_lt {p : Picker} {i : Input} {t : Ticket} (h : p.Starts i t) :
    p.nextJob < (p.step i).1.nextJob := by
  cases h with
  | complete => exact nextJob_start p _
  | handle => exact nextJob_start p _
  | dispatch => exact (onward_dispatch p _).nextJob

lemma Carries.of_step {p : Picker} {i : Input} {job : Nat} {t : Ticket}
    (h : (p.step i).1.Carries job t) :
    p.Carries job t ∨ job = p.nextJob ∧ p.Starts i t := by
  obtain ⟨s, hmem, ht⟩ := h
  rcases (onward_step p i).jobs job s hmem with hold | hentry
  · exact .inl ⟨s, hold, ht⟩
  · have same {u : Ticket} (hu : s.purpose? = some (.display u)) : u = t := by
      simpa [Stage.ticket?_of_purpose? hu, Purpose.ticket?] using ht
    cases hentry with
    | other ticket => simp [ticket] at ht
    | dispatched =>
      cases ht
      exact .inr ⟨rfl, .dispatch⟩
    | started purpose h =>
      obtain rfl := same purpose
      exact .inr ⟨rfl, h⟩
    | begun purpose stage =>
      obtain rfl := same purpose
      exact .inl ⟨_, mem_of_stage? stage, rfl⟩
    | again purpose stage =>
      obtain rfl := same purpose
      exact .inl ⟨_, mem_of_stage? stage, rfl⟩
    | positioning => simp [Stage.ticket?] at ht
    | describing => simp [Stage.ticket?] at ht

/-- Suggestions are asked for under a ticket only if its query is long enough. -/
def AsksLong (p : Picker) : Prop :=
  ∀ job s t, (job, s) ∈ p.jobs → s.purpose? = some (.display t) → p.isShort t.query = false

lemma AsksLong.of_step {p : Picker} {i : Input} (h : p.AsksLong) : (p.step i).1.AsksLong := by
  intro job s t hmem hs
  have honward := onward_step p i
  have hshort (text : String) : (p.step i).1.isShort text = p.isShort text := by
    rw [isShort, honward.options]
    rfl
  rw [hshort]
  have same {u : Ticket} (hu : s.purpose? = some (.display u)) : u = t := by
    simpa [hs] using hu.symm
  rcases honward.jobs job s hmem with hold | hentry
  · exact h job s t hold hs
  · cases hentry with
    | other ticket => simp [Stage.ticket?_of_purpose? hs, Purpose.ticket?] at ticket
    | dispatched => cases hs
    | started purpose _ long => exact same purpose ▸ long
    | begun purpose _ long => exact same purpose ▸ long
    | again purpose stage =>
      obtain rfl := same purpose
      exact h job _ _ (mem_of_stage? stage) rfl
    | positioning => cases hs
    | describing => cases hs

/-! ### The beginning and the end of a lookup -/

/-- A lookup asks somebody if and only if its query is long enough; else it is over at once. -/
lemma complete_asks (p : Picker) (job : Nat) (t : Ticket) :
    ((∃ question, .ask job question ∈ (p.complete job t).2) ↔ p.isShort t.query = false) ∧
    (p.isShort t.query = true → ∃ shown, .finish job (.applied shown) ∈ (p.complete job t).2) := by
  unfold complete
  cases hs : p.isShort t.query with
  | true =>
    simp only [↓reduceIte, conclude, hs]
    split <;> simp
  | false =>
    simp only [Bool.false_eq_true, ↓reduceIte, lookup]
    split
    · simp [await]
    · simp [andThen, fallBack, search, await]

/-- A job that ends its lookup is gone. -/
lemma Ends.retired {p : Picker} {i : Input} {job : Nat} {t : Ticket} (h : p.Ends i job t)
    (s : Stage) : (job, s) ∉ (p.step i).1.jobs := by
  have conclude (q : Picker) (found : List Suggestion) :
      (job, s) ∉ (q.conclude job (.display t) found).1.jobs := by
    unfold Picker.conclude
    dsimp only
    split <;> simp [retire]
  cases h with
  | started short =>
    have hstep : (p.step (.start (.complete t))).1 =
        ({ p with nextJob := p.nextJob + 1 }.conclude p.nextJob (.display t) []).1 := by
      simp only [step, start, andThen, complete]
      rw [if_pos (by exact short)]
    rw [hstep]
    exact conclude _ _
  | begun stage short =>
    have hstep : p.step (.begin job) = p.conclude job (.display t) [] := by
      simp [step, begin, stage, complete, short]
    rw [hstep]
    exact conclude _ _
  | @predicted _ _ _ result stage hsome =>
    have hstep : p.step (.reply job (.predictions result)) =
        p.conclude job (.display t) (usable result) := by
      simp [step, reply, stage, hsome]
    rw [hstep]
    exact conclude _ _
  | @searched _ _ result stage =>
    have hstep : p.step (.reply job (.cities result)) =
        p.conclude job (.display t) (directoryEntries result) := by
      simp [step, reply, stage]
    rw [hstep]
    exact conclude _ _

/-- A spawned job with a query that is long enough gets to the city directory, if the predictor
has nothing to offer. -/
lemma searching_of_spawned {p : Picker} {job : Nat} {t : Ticket}
    (stage : p.stage? job = some (.spawned (.complete t))) (long : p.isShort t.query = false) :
    let q := ((p.step (.begin job)).1.step (.reply job (.predictions (.ok [])))).1
    q.stage? job = some (.searching (.display t)) ∧ q.field = p.field := by
  have hbegin : p.step (.begin job) = p.lookup job t.query (.display t) := by
    simp [step, begin, stage, complete, long]
  rw [hbegin]
  unfold lookup
  cases p.primary.client with
  | some client =>
    simp [await, enter, step, reply, stage?, usable, fallBack, search, retire]
  | none =>
    have hwarm : p.warmUp.1.field = p.field := congrArg View.field (view_warmUp p)
    simp [andThen, fallBack, search, await, enter, step, reply, stage?, retire, hwarm]

end Picker

end Whereto
