import Whereto.Proofs.Picker.Questions
import Whereto.Proofs.Place.Named

/-!
How one lookup goes on. A query that is too short is answered at once; for any other one the job
asks the predictor if it is there, and else the city directory. When it is answered, it turns to
the directory or brings what was found, and then it is over and asks nobody any more.
-/

namespace Whereto.Picker

/-- The input sets out on the lookup of a query, which a job makes for a purpose. -/
inductive SetsOut (p : Picker) : Input → ℕ → String → Purpose → Prop
  | completed {t : Ticket} : SetsOut p (.start (.complete t)) p.nextJob t.query (.display t)
  | handled {query : String} : SetsOut p (.start (.handle query)) p.nextJob query
      (.display ⟨query, p.field.generation + 1⟩)
  | begun {job : ℕ} {t : Ticket} (stage : p.stage? job = some (.spawned (.complete t))) :
      SetsOut p (.begin job) job t.query (.display t)
  | called {query : String} : SetsOut p (.start (.lookup query)) p.nextJob query .offer

/-- A query is too short only for a lookup under a ticket. -/
def skips (p : Picker) : Purpose → Bool
  | .display t => p.isShort t.query
  | _ => false

/-- The step brings what a job has found: it is shown if the ticket of the lookup is the latest,
and dropped if it is not; or the caller gets it. -/
inductive Delivers (p : Picker) (i : Input) (job : ℕ) : Purpose → List Suggestion → Prop
  | shown {t : Ticket} {ss : List Suggestion}
      (latest : t.generation = (p.step i).1.field.generation)
      (answer : .finish job (.applied true) ∈ (p.step i).2)
      (list : (p.step i).1.field.suggestions = ss)
      (isOpen : (p.step i).1.field.isOpen = !ss.isEmpty) : Delivers p i job (.display t) ss
  | late {t : Ticket} {ss : List Suggestion}
      (superseded : t.generation ≠ (p.step i).1.field.generation)
      (answer : .finish job (.applied false) ∈ (p.step i).2)
      (same : (p.step i).1.field = p.field) : Delivers p i job (.display t) ss
  | offered {ss : List Suggestion} (answer : .finish job (.offered ss) ∈ (p.step i).2)
      (same : (p.step i).1.field = p.field) : Delivers p i job .offer ss

variable {p q : Picker} {i : Input} {job client : ℕ} {query : String} {purpose : Purpose}
  {pre : List Output} {ss : List Suggestion}

lemma delivers_conclude (hstep : p.step i =
      ((q.conclude job purpose ss).1, pre ++ (q.conclude job purpose ss).2))
    (hpurpose : purpose ≠ .predictOnly)
    (hfield : q.field = p.field ∨ ∃ t, purpose = .display t ∧ t.generation = q.field.generation) :
    p.Delivers i job purpose ss := by
  cases purpose with
  | display t =>
    by_cases hlatest : t.generation = q.field.generation
    · rw [conclude, if_pos hlatest] at hstep
      refine .shown ?_ ?_ ?_ ?_
      · rw [hstep]
        exact hlatest
      · rw [hstep]
        simp
      · rw [hstep]
        rfl
      · rw [hstep]
        rfl
    · have hsame : q.field = p.field := by
        refine hfield.resolve_right ?_
        rintro ⟨u, hu, hgeneration⟩
        cases hu
        exact hlatest hgeneration
      rw [conclude, if_neg hlatest] at hstep
      refine .late ?_ ?_ ?_
      · rw [hstep]
        exact hlatest
      · rw [hstep]
        simp
      · rw [hstep]
        exact hsame
  | offer =>
    have hsame : q.field = p.field := by
      refine hfield.resolve_right ?_
      rintro ⟨u, hu, -⟩
      cases hu
    refine .offered ?_ ?_
    · rw [hstep]
      simp [conclude, done]
    · rw [hstep]
      exact hsame
  | predictOnly => exact absurd rfl hpurpose

/-! ### Setting out -/

/-- The first step of a lookup, made by a picker with the same inside. -/
structure Opens (p : Picker) (i : Input) (job : ℕ) (query : String) (purpose : Purpose)
    (q : Picker) (pre : List Output) : Prop where
  short : p.skips purpose = true → p.step i =
    ((q.conclude job purpose []).1, pre ++ (q.conclude job purpose []).2)
  long : p.skips purpose = false → p.step i =
    ((q.lookup job query purpose).1, pre ++ (q.lookup job query purpose).2)
  inside : q.inside = p.inside
  outer : pre.filter Output.isInner = []
  field : q.field = p.field ∨ ∃ t, purpose = .display t ∧ t.generation = q.field.generation

lemma opens_complete {t : Ticket}
    (hstep : p.step i = ((q.complete job t).1, pre ++ (q.complete job t).2))
    (hoptions : q.options = p.options) (hinside : q.inside = p.inside)
    (hpre : pre.filter Output.isInner = [])
    (hfield : q.field = p.field ∨ t.generation = q.field.generation) :
    p.Opens i job t.query (.display t) q pre where
  short h := by
    have hs : q.isShort t.query = true := by rwa [isShort, hoptions]
    rw [hstep, Picker.complete, if_pos hs]
  long h := by
    have hl : q.isShort t.query = false := by rwa [isShort, hoptions]
    rw [hstep, Picker.complete, hl]
    rfl
  inside := hinside
  outer := hpre
  field := hfield.imp_right fun hlatest => ⟨t, rfl, hlatest⟩

lemma SetsOut.opens (h : p.SetsOut i job query purpose) :
    ∃ q pre, p.Opens i job query purpose q pre := by
  let q : Picker := { p with nextJob := p.nextJob + 1 }
  cases h with
  | completed =>
    exact ⟨q, [.started p.nextJob], opens_complete rfl rfl rfl rfl (.inl rfl)⟩
  | handled =>
    exact ⟨{ q with field := q.field.supersede }, [.started p.nextJob],
      opens_complete (t := ⟨query, p.field.generation + 1⟩) rfl rfl rfl rfl (.inr rfl)⟩
  | begun stage =>
    refine ⟨p, [], opens_complete ?_ rfl rfl rfl (.inl rfl)⟩
    simp [step, begin, stage]
  | called =>
    exact ⟨q, [.started p.nextJob], fun hshort => absurd hshort Bool.false_ne_true, fun _ => rfl,
      rfl, rfl, .inl rfl⟩

lemma SetsOut.purpose_ne (h : p.SetsOut i job query purpose) : purpose ≠ .predictOnly := by
  cases h <;> exact nofun

lemma inside_prefix (r : Step) (h : pre.filter Output.isInner = []) :
    Step.inside (r.1, pre ++ r.2) = r.inside := by
  simp [Step.inside, h]

lemma Opens.inside_short (h : p.Opens i job query purpose q pre) (hskip : p.skips purpose = true) :
    (p.step i).inside = p.inside.put job none [] := by
  rw [h.short hskip, inside_prefix _ h.outer, inside_conclude, h.inside]

lemma Opens.inside_ready (h : p.Opens i job query purpose q pre)
    (hlong : p.skips purpose = false) (ready : p.primary.client = some client) :
    (p.step i).inside = p.inside.put job (some (.predicting query purpose))
      [.ask job (.predict client query)] := by
  have hclient : q.primary.client = some client :=
    (congrArg (·.primary.client) h.inside).trans ready
  rw [h.long hlong, inside_prefix _ h.outer, lookup, hclient, ← h.inside]
  exact inside_await q job _ _

/-- Without a predictor there is a background job after warming up, and nobody is asked. -/
lemma warmUp_unready (p : Picker) (unready : p.primary.client = none) :
    ∃ w, p.warmUp.inside.primary.background = some w ∧
      (p.primary.background = some w ∨ .spawned w .load ∈ p.warmUp.inside.told) ∧
      ∀ j, p.warmUp.inside.asked j = [] := by
  have hwarm := inside_warmUp p
  cases hbackground : p.primary.background with
  | some w =>
    have hsame : p.warmUp.inside = p.inside := by simpa [hbackground] using hwarm
    rw [hsame]
    exact ⟨w, hbackground, .inl rfl, fun _ => rfl⟩
  | none =>
    rw [if_neg (by simp [Primary.isReady, unready, hbackground])] at hwarm
    rw [hwarm]
    exact ⟨p.nextJob, rfl, .inr (.head _), fun _ => rfl⟩

/-- Without a predictor the directory is asked, and the predictor is loaded in the background. -/
lemma Opens.inside_unready (h : p.Opens i job query purpose q pre)
    (hlong : p.skips purpose = false) (hpurpose : purpose ≠ .predictOnly)
    (unready : p.primary.client = none) :
    ∃ (v : Inside) (w : ℕ), (p.step i).inside =
        v.put job (some (.searching purpose)) [.ask job (.cities (Text.lowercase query))] ∧
      v.primary.background = some w ∧
      (p.primary.background = some w ∨ .spawned w .load ∈ v.told) ∧ ∀ j, v.asked j = [] := by
  have hprimary : q.primary = p.primary := congrArg Inside.primary h.inside
  have hsearch (r : Picker) : r.fallBack job query purpose = r.search job query purpose := by
    cases purpose with
    | predictOnly => exact absurd rfl hpurpose
    | _ => rfl
  have hinside : (p.step i).inside = q.warmUp.inside.put job (some (.searching purpose))
      [.ask job (.cities (Text.lowercase query))] := by
    rw [h.long hlong, inside_prefix _ h.outer, lookup, hprimary, unready]
    exact inside_andThen_put job q.warmUp fun r => by
      rw [hsearch]
      exact inside_await r job _ _
  obtain ⟨w, hwarm⟩ := warmUp_unready q (hprimary ▸ unready)
  exact ⟨_, w, hinside, hprimary ▸ hwarm⟩

/-! ### Going on -/

/-- How a job that looks suggestions up gets through a step, from a stage to the next one and with
the questions that it asks. -/
inductive Advances (i : Input) (job : ℕ) : Option Stage → Option Stage → List Question → Prop
  | still {s : Option Stage} : Advances i job s s []
  | dropped {s : Stage} (input : i = .cancel job) : Advances i job (some s) none []
  | placed {query : String} {purpose : Purpose} {result : Except Failure (List Prediction)}
      (input : i = .reply job (.predictions result)) (named : placesOf result ≠ []) :
      Advances i job (some (.predicting query purpose)) none []
  | fellBack {query : String} {purpose : Purpose} {result : Except Failure (List Prediction)}
      (input : i = .reply job (.predictions result)) (nothing : placesOf result = []) :
      Advances i job (some (.predicting query purpose)) (some (.searching purpose))
        [.cities (Text.lowercase query)]
  | listed {purpose : Purpose} {result : Except Failure (List CityRecord)}
      (input : i = .reply job (.cities result)) :
      Advances i job (some (.searching purpose)) none []

lemma asked_conclude (q : Picker) (job : ℕ) (purpose : Purpose) (ss : List Suggestion) :
    (q.conclude job purpose ss).inside.asked job = [] := by
  rw [inside_conclude, asked_put]
  rfl

/-- A job that no input goes to and that is not in line stays where it is and asks nothing. -/
lemma still_of_elsewhere (hp : p.Tidy) (hold : job < p.nextJob) (hfree : job ∉ p.primary.waiting)
    (hi : i.job? ≠ some job) :
    (p.step i).1.stage? job = p.stage? job ∧ (p.step i).inside.asked job = [] := by
  have hsame := (moves_step hp.toSound i).spares job hold fun h => h.elim hi hfree
  refine ⟨hsame, ?_⟩
  cases passes_step hp i job with
  | stays _ asked => exact asked
  | @asks s q stage asks _ released =>
    -- a job that asks was released before, so it would have been at no stage that asks
    have hs : p.stage? job = some s := hsame.symm.trans stage
    exact absurd stage (moves_of_closes hp.toSound hs asks (released s q hs asks))
  | rests _ asked => exact asked

lemma advances_none (hp : p.Tidy) (hold : job < p.nextJob) (hs : p.stage? job = none) :
    (p.step i).1.stage? job = none ∧ (p.step i).inside.asked job = [] := by
  by_cases hi : i.job? = some job
  · have hstep : p.step i = (p, []) := by
      cases i with
      | begin j => obtain rfl := Option.some.inj hi; simp [step, begin, hs]
      | reply j r => obtain rfl := Option.some.inj hi; simp [step, reply, hs]
      | expire j => obtain rfl := Option.some.inj hi; simp [step, expire, hs]
      | cancel j => obtain rfl := Option.some.inj hi; simp [step, cancel, hs]
      | _ => cases hi
    rw [hstep]
    exact ⟨hs, rfl⟩
  · have hfree : job ∉ p.primary.waiting := fun hmem => by simp [hp.queued job hmem] at hs
    obtain ⟨hsame, hasked⟩ := still_of_elsewhere hp hold hfree hi
    exact ⟨hsame.trans hs, hasked⟩

section

variable {s : Stage}

lemma advances_rest (hs : p.stage? job = some s) (hstep : p.step i = (p, [])) :
    Advances i job (some s) ((p.step i).1.stage? job) ((p.step i).inside.asked job) := by
  rw [hstep, hs]
  exact .still

/-- Places that were predicted are brought. -/
lemma step_places {result : Except Failure (List Prediction)}
    (hs : p.stage? job = some (.predicting query purpose)) (named : placesOf result ≠ []) :
    p.step (.reply job (.predictions result)) = p.conclude job purpose (placesOf result) := by
  simp [step, reply, hs, usable_eq_placesOf, named]

/-- Without a place the directory is asked. -/
lemma step_fellBack {result : Except Failure (List Prediction)} (hne : purpose ≠ .predictOnly)
    (hs : p.stage? job = some (.predicting query purpose)) (nothing : placesOf result = []) :
    p.step (.reply job (.predictions result)) = p.search job query purpose := by
  cases purpose with
  | predictOnly => exact absurd rfl hne
  | _ => simp [step, reply, hs, usable_eq_placesOf, nothing, fallBack]

/-- What the directory has found is brought. -/
lemma step_entries {result : Except Failure (List CityRecord)}
    (hs : p.stage? job = some (.searching purpose)) :
    p.step (.reply job (.cities result)) = p.conclude job purpose (entriesOf result) := by
  simp [step, reply, hs, directoryEntries_eq_entriesOf]

lemma delivers_of_step (hne : purpose ≠ .predictOnly) (h : p.step i = p.conclude job purpose ss) :
    p.Delivers i job purpose ss := by
  have hstep : p.step i =
      ((p.conclude job purpose ss).1, [] ++ (p.conclude job purpose ss).2) := h
  exact delivers_conclude hstep hne (.inl rfl)

lemma advances_predicting (hne : purpose ≠ .predictOnly)
    (hs : p.stage? job = some (.predicting query purpose)) (r : Reply) :
    Advances (.reply job r) job (some (.predicting query purpose))
      ((p.step (.reply job r)).1.stage? job) ((p.step (.reply job r)).inside.asked job) := by
  cases r with
  | predictions result =>
    by_cases hplaces : placesOf result = []
    · have hstage : (p.search job query purpose).1.stage? job = some (.searching purpose) :=
        stage?_enter_self p
      have hasked : (p.search job query purpose).inside.asked job =
          [.cities (Text.lowercase query)] := by
        rw [search, inside_await, asked_put]
        simp [Inside.asked, inside, Output.question?]
      rw [step_fellBack hne hs hplaces, hstage, hasked]
      exact .fellBack rfl hplaces
    · rw [step_places hs hplaces, stage?_conclude, asked_conclude]
      exact .placed rfl hplaces
  | _ => exact advances_rest hs (by simp [step, reply, hs])

lemma advances_searching (hs : p.stage? job = some (.searching purpose)) (r : Reply) :
    Advances (.reply job r) job (some (.searching purpose))
      ((p.step (.reply job r)).1.stage? job) ((p.step (.reply job r)).inside.asked job) := by
  cases r with
  | cities result =>
    rw [step_entries hs, stage?_conclude, asked_conclude]
    exact .listed rfl
  | _ => exact advances_rest hs (by simp [step, reply, hs])

lemma advances_cancel (hpurpose : s.purpose? = some purpose) (hs : p.stage? job = some s) :
    Advances (.cancel job) job (some s) ((p.step (.cancel job)).1.stage? job)
      ((p.step (.cancel job)).inside.asked job) := by
  by_cases hown : p.primary.background = some job
  · exact advances_rest hs (by simp [step, cancel, hown])
  · have hstep : p.step (.cancel job) = (p.retire job, []) := by
      cases s with
      | predicting => simp [step, cancel, hown, hs]
      | searching => simp [step, cancel, hown, hs]
      | _ => cases hpurpose
    rw [hstep, stage?_retire_self]
    exact .dropped rfl

/-- **How a lookup goes on**: through every step in one of the ways of `Advances`. -/
theorem advances_step (hp : p.Tidy) (hne : purpose ≠ .predictOnly)
    (hpurpose : s.purpose? = some purpose) (hs : p.stage? job = some s) (i : Input) :
    Advances i job (some s) ((p.step i).1.stage? job) ((p.step i).inside.asked job) := by
  have hcases : (∃ query, s = .predicting query purpose) ∨ s = .searching purpose := by
    cases s with
    | predicting query => cases hpurpose; exact .inl ⟨query, rfl⟩
    | searching => cases hpurpose; exact .inr rfl
    | _ => cases hpurpose
  by_cases hi : i.job? = some job
  · cases i with
    | begin j =>
      obtain rfl := Option.some.inj hi
      refine advances_rest hs ?_
      rcases hcases with ⟨query, rfl⟩ | rfl <;> simp [step, begin, hs]
    | reply j r =>
      obtain rfl := Option.some.inj hi
      rcases hcases with ⟨query, rfl⟩ | rfl
      · exact advances_predicting hne hs r
      · exact advances_searching hs r
    | expire j =>
      obtain rfl := Option.some.inj hi
      refine advances_rest hs ?_
      rcases hcases with ⟨query, rfl⟩ | rfl <;> simp [step, expire, hs]
    | cancel j =>
      obtain rfl := Option.some.inj hi
      exact advances_cancel hpurpose hs
    | _ => cases hi
  · have hfree : job ∉ p.primary.waiting :=
      (hp.roams hs (by rintro rfl; cases hpurpose)).free
    obtain ⟨hsame, hasked⟩ := still_of_elsewhere hp (hp.fresh job s hs) hfree hi
    rw [hsame, hasked, hs]
    exact .still

end

end Whereto.Picker
