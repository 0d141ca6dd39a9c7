import Whereto.Proofs.Picker.Lookups
import Whereto.Proofs.Picker.Once
import Whereto.Proofs.Picker.Progress
import Whereto.Proofs.Picker.Trail

/-!
Whom a lookup asks. The predictor comes first, if it is there; the city directory is asked only if
there is no predictor or if it gave no place with a name. Nobody is asked twice, and what is brought
is what the one that was asked last has answered.
-/

namespace Whereto.Picker

/-- The questions that a job has asked before a position, in their order. -/
def askedBefore (c : Course step) (job : ℕ) : ℕ → List Question
  | 0 => []
  | n + 1 => askedBefore c job n ++ (c.output n).filterMap (Output.question? job)

variable {c : Course step} {b e k n job client : ℕ} {query : String}
  {purpose : Purpose} {t : Ticket} {q : Question} {result : Except Failure (List Prediction)}

lemma asked_eq (r : Step) (job : ℕ) :
    r.inside.asked job = r.2.filterMap (Output.question? job) := by
  rw [Inside.asked, Step.inside, List.filterMap_filter]
  congr 1
  funext o
  cases o with
  | spawned j e => cases e <;> rfl
  | finish j a => cases a <;> rfl
  | _ => rfl

lemma askedBefore_succ (c : Course step) (job n : ℕ) : askedBefore c job (n + 1) =
    askedBefore c job n ++ ((c.state n).step (c.input n)).inside.asked job := by
  rw [asked_eq]
  rfl

lemma Answered.of_predict (h : Answered c k e job (.predict client query) (.predictions result)) :
    (c.state e).Closes (c.input e) job (.predict client query) :=
  h.input ▸ .predicted

/-- As long as a question is pending, it was not answered. -/
lemma Pending.not_answered (h : Pending c k n job (.predict client query)) (hen : e < n) :
    ¬ Answered c k e job (.predict client query) (.predictions result) :=
  fun ha => h.still e ha.pending.before hen ha.of_predict

lemma Answered.unique {e' : ℕ} {result' : Except Failure (List Prediction)}
    (h : Answered c k e job (.predict client query) (.predictions result))
    (h' : Answered c k e' job (.predict client query) (.predictions result')) :
    e = e' ∧ result = result' := by
  obtain rfl : e = e' := by
    rcases Nat.lt_trichotomy e e' with hlt | heq | hlt
    · exact absurd h (h'.pending.not_answered hlt)
    · exact heq
    · exact absurd h' (h.pending.not_answered hlt)
  have hinput := h.input.symm.trans h'.input
  cases hinput
  exact ⟨rfl, rfl⟩

/-! ### Before a lookup sets out -/

section

variable (hp : ∀ n, (c.state n).Tidy)
include hp

/-- A job is spawned with its ticket before it does anything else. -/
lemma spawned_of_succ (hold : job < (c.state n).nextJob)
    (hs : (c.state (n + 1)).stage? job = some (.spawned (.complete t))) :
    (c.state n).stage? job = some (.spawned (.complete t)) := by
  refine stage?_of_mem (hp n).toSound ?_
  rcases (onward_step (c.state n) (c.input n)).jobs job _ (mem_of_stage? hs) with h | hentry
  · exact h
  · generalize c.input n = i at hentry
    cases hentry with
    | other ticket => cases ticket
    | dispatched => exact absurd hold (Nat.lt_irrefl _)
    | started purpose => cases purpose
    | begun purpose => cases purpose
    | again purpose => cases purpose

lemma old_of_ask (h : .ask job q ∈ c.output k) (hkn : k < n) : job < (c.state n).nextJob := by
  obtain ⟨s, hs, -⟩ := stage_of_ask (hp k) h
  have hfresh : job < (c.state (k + 1)).nextJob := (hp (k + 1)).fresh job s hs
  exact hfresh.trans_le (nextJob_mono (r := .ofCourse c) hkn)

/-- A job that was spawned with a ticket and has not begun has asked nothing. -/
lemma not_ask_of_spawned (hs : (c.state n).stage? job = some (.spawned (.complete t)))
    (hkn : k < n) : .ask job q ∉ c.output k := by
  intro hask
  obtain ⟨s, hstage, hasks⟩ := stage_of_ask (hp k) hask
  have hspawned : (c.state (k + 1)).stage? job = some (.spawned (.complete t)) := by
    -- back from `n`, the job was spawned at every position at which its number was given out
    induction n, hkn using Nat.le_induction with
    | base => exact hs
    | succ n hkn ih => exact ih (spawned_of_succ hp (old_of_ask hp hask hkn) hs)
  cases (show some s = _ from hstage.symm.trans hspawned)
  cases hasks

lemma SetsOut.not_ask (h : (c.state n).SetsOut (c.input n) job query purpose) (hkn : k < n) :
    .ask job q ∉ c.output k := by
  have hnew (hask : .ask (c.state n).nextJob q ∈ c.output k) : False :=
    absurd (old_of_ask hp hask hkn) (Nat.lt_irrefl _)
  generalize hi : c.input n = i at h
  cases h with
  | begun stage => exact not_ask_of_spawned hp stage hkn
  | _ => exact hnew

lemma SetsOut.asked_nil (h : (c.state b).SetsOut (c.input b) job query purpose) (hnb : n ≤ b) :
    askedBefore c job n = [] := by
  induction n with
  | zero => rfl
  | succ n ih =>
    rw [askedBefore_succ, ih (by omega), List.nil_append]
    refine List.eq_nil_iff_forall_not_mem.mpr fun q hq => ?_
    exact h.not_ask hp (k := n) (by omega) (mem_asked.mp hq)

lemma SetsOut.old (h : (c.state b).SetsOut (c.input b) job query purpose) (hbn : b < n) :
    job < (c.state n).nextJob := by
  refine Nat.lt_of_lt_of_le ?_ (nextJob_mono (r := .ofCourse c) hbn)
  change job < (c.state (b + 1)).nextJob
  rw [Course.state_succ]
  generalize c.input b = i at h
  cases h with
  | begun stage =>
    exact ((hp b).fresh job _ stage).trans_le (onward_step (c.state b) _).nextJob
  | _ => exact nextJob_start _ _

end

/-! ### How far a lookup is -/

/-- What was asked before the directory is: nothing, or the predictor that gave no place. -/
inductive Earlier (c : Course step) (b job : ℕ) (query : String) (n : ℕ) : List Question → Prop
  | unready (ask : .ask job (.cities (Text.lowercase query)) ∈ c.output b) :
      Earlier c b job query n []
  | nothing {client e : ℕ} {result : Except Failure (List Prediction)}
      (answers : Answered c b e job (.predict client query) (.predictions result)) (before : e < n)
      (nothing : placesOf result = []) : Earlier c b job query n [.predict client query]

/-- How far a lookup is that set out at an earlier position. -/
inductive Phase (c : Course step) (b job : ℕ) (query : String) (purpose : Purpose) (n : ℕ) : Prop
  | short (quiet : ∀ q, .ask job q ∉ c.output b) (stage : (c.state n).stage? job = none)
      (asked : askedBefore c job n = [])
  | predicting {client : ℕ} (pending : Pending c b n job (.predict client query))
      (stage : (c.state n).stage? job = some (.predicting query purpose))
      (asked : askedBefore c job n = [.predict client query])
  | served {client : ℕ} (ask : .ask job (.predict client query) ∈ c.output b)
      (kept : ∀ e < n, ∀ result,
        Answered c b e job (.predict client query) (.predictions result) → placesOf result ≠ [])
      (stage : (c.state n).stage? job = none)
      (asked : askedBefore c job n = [.predict client query])
  | searching {qs : List Question} (earlier : Earlier c b job query n qs)
      (stage : (c.state n).stage? job = none ∨
        (c.state n).stage? job = some (.searching purpose))
      (asked : askedBefore c job n = qs ++ [.cities (Text.lowercase query)])

lemma Earlier.succ {qs : List Question} (h : Earlier c b job query n qs) :
    Earlier c b job query (n + 1) qs := by
  cases h with
  | unready ask => exact .unready ask
  | nothing answers before nothing => exact .nothing answers (by omega) nothing

section

variable (hp : ∀ n, (c.state n).Tidy)
include hp

lemma Pending.stage_ne_none (h : Pending c k n job q) : (c.state n).stage? job ≠ none := by
  obtain ⟨s, hs, -⟩ := h.stage hp
  simp [hs]

/-- A job that is over asks nothing. -/
lemma over_succ (hold : job < (c.state n).nextJob) (hs : (c.state n).stage? job = none) :
    (c.state (n + 1)).stage? job = none ∧ askedBefore c job (n + 1) = askedBefore c job n := by
  obtain ⟨hstage, hasked⟩ := advances_none (i := c.input n) (hp n) hold hs
  exact ⟨hstage, by rw [askedBefore_succ, hasked, List.append_nil]⟩

lemma Phase.succ (hne : purpose ≠ .predictOnly) (hold : job < (c.state n).nextJob)
    (h : Phase c b job query purpose n) : Phase c b job query purpose (n + 1) := by
  have advance {s : Stage} (hpurpose : s.purpose? = some purpose)
      (hs : (c.state n).stage? job = some s) : Advances (c.input n) job (some s)
        ((c.state (n + 1)).stage? job)
        (((c.state n).step (c.input n)).inside.asked job) :=
    advances_step (hp n) hne hpurpose hs (c.input n)
  have hnext := askedBefore_succ c job n
  generalize ((c.state n).step (c.input n)).inside.asked job = asked at advance hnext
  cases h with
  | short quiet stage hasked =>
    obtain ⟨hstage, hsame⟩ := over_succ hp hold stage
    exact .short quiet hstage (hsame.trans hasked)
  | @predicting client pending stage hasked =>
    rw [hasked] at hnext
    have hadvance := advance rfl stage
    generalize hstage : (c.state (n + 1)).stage? job = s' at hadvance
    -- up to now there was no answer, so the input is the only one that may be one
    have kept (hinput : ∀ result, c.input n = .reply job (.predictions result) →
        placesOf result ≠ []) (e : ℕ) (hen : e < n + 1) (result)
        (ha : Answered c b e job (.predict client query) (.predictions result)) :
        placesOf result ≠ [] := by
      rcases Nat.lt_succ_iff_lt_or_eq.mp hen with hlt | rfl
      · exact absurd ha (pending.not_answered hlt)
      · exact hinput result ha.input
    cases hadvance with
    | still =>
      refine .predicting (pending.succ fun hclose => ?_) hstage hnext
      exact moves_of_closes (hp n).toSound stage .predicting hclose hstage
    | dropped input =>
      refine .served pending.asked (kept fun result hi => ?_) hstage hnext
      rw [input] at hi
      cases hi
    | placed input named =>
      refine .served pending.asked (kept fun result hi => ?_) hstage hnext
      rw [input] at hi
      cases hi
      exact named
    | fellBack input nothing =>
      exact .searching (.nothing ⟨pending, input⟩ (Nat.lt_succ_self n) nothing) (.inr hstage) hnext
  | served ask kept stage hasked =>
    obtain ⟨hstage, hsame⟩ := over_succ hp hold stage
    refine .served ask (fun e hen result ha => ?_) hstage (hsame.trans hasked)
    rcases Nat.lt_succ_iff_lt_or_eq.mp hen with hlt | rfl
    · exact kept e hlt result ha
    · exact absurd stage (ha.pending.stage_ne_none hp)
  | searching earlier stage hasked =>
    rcases stage with stage | stage
    · obtain ⟨hstage, hsame⟩ := over_succ hp hold stage
      exact .searching earlier.succ (.inl hstage) (hsame.trans hasked)
    · rw [hasked] at hnext
      have hadvance := advance rfl stage
      generalize hstage : (c.state (n + 1)).stage? job = s' at hadvance
      cases hadvance with
      | still => exact .searching earlier.succ (.inr hstage) (hnext.trans (List.append_nil _))
      | dropped => exact .searching earlier.succ (.inl hstage) (hnext.trans (List.append_nil _))
      | listed => exact .searching earlier.succ (.inl hstage) (hnext.trans (List.append_nil _))

/-! ### The first step -/

lemma SetsOut.first {v : Inside} {s : Option Stage} {out : List Output}
    (h : (c.state b).SetsOut (c.input b) job query purpose) (quiet : v.asked job = [])
    (hinside : ((c.state b).step (c.input b)).inside = v.put job s out) :
    (c.state (b + 1)).stage? job = s ∧
      askedBefore c job (b + 1) = out.filterMap (Output.question? job) ∧
      ∀ q, .ask job q ∈ c.output b ↔ q ∈ out.filterMap (Output.question? job) := by
  have hput : ((c.state b).step (c.input b)).inside.asked job =
      out.filterMap (Output.question? job) := by
    rw [hinside, asked_put, quiet, List.nil_append]
  refine ⟨(congrArg (·.stage job) hinside).trans v.put_stage_self, ?_, fun q => ?_⟩
  · rw [askedBefore_succ, h.asked_nil hp (Nat.le_refl b), hput, List.nil_append]
  · rw [← hput]
    exact mem_asked.symm

lemma SetsOut.phase_short (h : (c.state b).SetsOut (c.input b) job query purpose)
    (hskip : (c.state b).skips purpose = true) : Phase c b job query purpose (b + 1) := by
  obtain ⟨r, pre, hopens⟩ := h.opens
  obtain ⟨hstage, hasked, hask⟩ := h.first hp rfl (hopens.inside_short hskip)
  exact .short (fun q => by simp [hask]) hstage hasked

lemma SetsOut.phase_ready (h : (c.state b).SetsOut (c.input b) job query purpose)
    (hlong : (c.state b).skips purpose = false)
    (ready : (c.state b).primary.client = some client) :
    .ask job (.predict client query) ∈ c.output b ∧ Phase c b job query purpose (b + 1) := by
  obtain ⟨r, pre, hopens⟩ := h.opens
  obtain ⟨hstage, hasked, hask⟩ := h.first hp rfl (hopens.inside_ready hlong ready)
  have hout : .ask job (.predict client query) ∈ c.output b :=
    (hask _).mpr (by simp [Output.question?])
  exact ⟨hout, .predicting (pending_of_ask hout) hstage (by simpa [Output.question?] using hasked)⟩

lemma SetsOut.phase_unready (h : (c.state b).SetsOut (c.input b) job query purpose)
    (hlong : (c.state b).skips purpose = false) (unready : (c.state b).primary.client = none) :
    .ask job (.cities (Text.lowercase query)) ∈ c.output b ∧
      Phase c b job query purpose (b + 1) := by
  obtain ⟨r, pre, hopens⟩ := h.opens
  obtain ⟨v, -, hinside, -, -, quiet⟩ := hopens.inside_unready hlong h.purpose_ne unready
  obtain ⟨hstage, hasked, hask⟩ := h.first hp (quiet job) hinside
  have hout : .ask job (.cities (Text.lowercase query)) ∈ c.output b :=
    (hask _).mpr (by simp [Output.question?])
  exact ⟨hout, .searching (.unready hout) (.inr hstage)
    (by simpa [Output.question?] using hasked)⟩

/-- **How far a lookup is** at every position after the one at which it set out. -/
theorem phase (h : (c.state b).SetsOut (c.input b) job query purpose) (hbn : b < n) :
    Phase c b job query purpose n := by
  induction n, hbn using Nat.le_induction with
  | base =>
    cases hskip : (c.state b).skips purpose with
    | true => exact h.phase_short hp hskip
    | false =>
      cases hclient : (c.state b).primary.client with
      | some client => exact (h.phase_ready hp hskip hclient).2
      | none => exact (h.phase_unready hp hskip hclient).2
  | succ n hbn ih => exact ih.succ hp h.purpose_ne (h.old hp hbn)

/-- A lookup that asked the predictor asks the directory if and only if it got no place. -/
lemma Phase.of_ask (h : Phase c b job query purpose n)
    (hask : .ask job (.predict client query) ∈ c.output b) :
    (askedBefore c job n = [.predict client query] ∧ ∀ e < n, ∀ result,
      Answered c b e job (.predict client query) (.predictions result) → placesOf result ≠ []) ∨
    ∃ e < n, ∃ result, Answered c b e job (.predict client query) (.predictions result) ∧
      placesOf result = [] ∧
      askedBefore c job n = [.predict client query, .cities (Text.lowercase query)] := by
  cases h with
  | short quiet => exact absurd hask (quiet _)
  | predicting pending _ asked =>
    cases ask_unique (hp b) hask pending.asked
    exact .inl ⟨asked, fun e hen result ha => absurd ha (pending.not_answered hen)⟩
  | served ask kept _ asked =>
    cases ask_unique (hp b) hask ask
    exact .inl ⟨asked, kept⟩
  | searching earlier _ asked =>
    cases earlier with
    | unready ask => cases ask_unique (hp b) hask ask
    | nothing answered before nothing =>
      cases ask_unique (hp b) hask answered.pending.asked
      exact .inr ⟨_, before, _, answered, nothing, asked⟩

/-- A lookup that asked the directory at once asks nobody else. -/
lemma Phase.of_ask_cities (h : Phase c b job query purpose n)
    (hask : .ask job (.cities (Text.lowercase query)) ∈ c.output b) :
    askedBefore c job n = [.cities (Text.lowercase query)] := by
  cases h with
  | short quiet => exact absurd hask (quiet _)
  | predicting pending => cases ask_unique (hp b) hask pending.asked
  | served ask => cases ask_unique (hp b) hask ask
  | searching earlier _ asked =>
    cases earlier with
    | unready => exact asked
    | nothing answered => cases ask_unique (hp b) hask answered.pending.asked

omit hp in
/-- A lookup that asked nobody at once asks nobody later. -/
lemma Phase.of_quiet (h : Phase c b job query purpose n) (quiet : ∀ q, .ask job q ∉ c.output b) :
    askedBefore c job n = [] := by
  cases h with
  | short _ _ asked => exact asked
  | predicting pending => exact absurd pending.asked (quiet _)
  | served ask => exact absurd ask (quiet _)
  | searching earlier =>
    cases earlier with
    | unready ask => exact absurd ask (quiet _)
    | nothing answered => exact absurd answered.pending.asked (quiet _)

/-- What a lookup waits for tells its stage. -/
lemma Phase.stage_of_pending (h : Phase c b job query purpose n) (hpending : Pending c k n job q) :
    (∃ client, q = .predict client query ∧
      (c.state n).stage? job = some (.predicting query purpose)) ∨
    (∃ term, q = .cities term) ∧ (c.state n).stage? job = some (.searching purpose) := by
  obtain ⟨s, hs, hq⟩ := hpending.stage hp
  cases h with
  | short _ stage => simp [stage] at hs
  | predicting pending stage => exact .inl ⟨_, (hpending.unique hp pending).2, stage⟩
  | served _ _ stage => simp [stage] at hs
  | searching _ stage =>
    rcases stage with stage | stage
    · simp [stage] at hs
    · obtain rfl : Stage.searching purpose = s := Option.some.inj (stage.symm.trans hs)
      cases hq
      exact .inr ⟨⟨_, rfl⟩, stage⟩

/-! ### One case of the policy after the other -/

lemma SetsOut.short (h : (c.state b).SetsOut (c.input b) job query purpose)
    (skips : (c.state b).skips purpose = true) : (∀ o ∈ c.output b, o.isInner = false) ∧
      (∀ n, askedBefore c job n = []) ∧ (c.state b).Delivers (c.input b) job purpose [] := by
  obtain ⟨r, pre, hopens⟩ := h.opens
  have hquiet (o) (ho : o ∈ c.output b) : o.isInner = false := by
    by_contra hinner
    have hmem := (mem_inside (by simpa using hinner)).mpr ho
    rw [hopens.inside_short skips] at hmem
    cases hmem
  refine ⟨hquiet, fun n => ?_, ?_⟩
  · rcases Nat.lt_or_ge b n with hbn | hnb
    · exact (phase hp h hbn).of_quiet fun q hq => Bool.noConfusion (hquiet _ hq)
    · exact h.asked_nil hp hnb
  · exact delivers_conclude (hopens.short skips) h.purpose_ne hopens.field

lemma SetsOut.predicts (h : (c.state b).SetsOut (c.input b) job query purpose)
    (long : (c.state b).skips purpose = false)
    (ready : (c.state b).primary.client = some client) (hbn : b < n)
    (kept : ∀ e < n, ∀ result,
      Answered c b e job (.predict client query) (.predictions result) → placesOf result ≠ []) :
    askedBefore c job n = [.predict client query] := by
  have hask := (h.phase_ready hp long ready).1
  rcases (phase hp h hbn).of_ask hp hask with ⟨asked, -⟩ | ⟨e, hen, result, answered, nothing, -⟩
  · exact asked
  · exact absurd nothing (kept e hen result answered)

lemma SetsOut.delivers_places (h : (c.state b).SetsOut (c.input b) job query purpose)
    (answered : Answered c b e job (.predict client query) (.predictions result))
    (named : placesOf result ≠ []) :
    (c.state e).Delivers (c.input e) job purpose (placesOf result) := by
  rcases (phase hp h answered.pending.before).stage_of_pending hp answered.pending with
    ⟨_, -, hs⟩ | ⟨⟨_, hq⟩, -⟩
  · rw [answered.input]
    exact delivers_of_step h.purpose_ne (step_places hs named)
  · cases hq

lemma SetsOut.asked_of_places (h : (c.state b).SetsOut (c.input b) job query purpose)
    (answered : Answered c b e job (.predict client query) (.predictions result))
    (named : placesOf result ≠ []) (hbn : b < n) :
    askedBefore c job n = [.predict client query] := by
  rcases (phase hp h hbn).of_ask hp answered.pending.asked with
    ⟨asked, -⟩ | ⟨_, -, _, answered', nothing, -⟩
  · exact asked
  · obtain ⟨-, rfl⟩ := answered.unique answered'
    exact absurd nothing named

/-- Up to its answer, only the predictor was asked. -/
lemma SetsOut.asked_of_answered (h : (c.state b).SetsOut (c.input b) job query purpose)
    (answered : Answered c b e job (.predict client query) (.predictions result)) :
    askedBefore c job e = [.predict client query] := by
  rcases (phase hp h answered.pending.before).of_ask hp answered.pending.asked with
    ⟨asked, -⟩ | ⟨e', he', _, answered', -⟩
  · exact asked
  · exact absurd (answered.unique answered').1 (Nat.ne_of_gt he')

lemma SetsOut.asked_of_nothing (h : (c.state b).SetsOut (c.input b) job query purpose)
    (answered : Answered c b e job (.predict client query) (.predictions result))
    (nothing : placesOf result = []) (hen : e < n) :
    askedBefore c job n = [.predict client query, .cities (Text.lowercase query)] := by
  have hbn : b < n := answered.pending.before.trans hen
  rcases (phase hp h hbn).of_ask hp answered.pending.asked with
    ⟨-, kept⟩ | ⟨_, -, _, -, -, asked⟩
  · exact absurd nothing (kept e hen result answered)
  · exact asked

lemma SetsOut.asked_of_unready (h : (c.state b).SetsOut (c.input b) job query purpose)
    (long : (c.state b).skips purpose = false) (unready : (c.state b).primary.client = none)
    (hbn : b < n) : askedBefore c job n = [.cities (Text.lowercase query)] :=
  (phase hp h hbn).of_ask_cities hp (h.phase_unready hp long unready).1

lemma SetsOut.delivers_entries {term : String} {result : Except Failure (List CityRecord)}
    (h : (c.state b).SetsOut (c.input b) job query purpose)
    (answered : Answered c k e job (.cities term) (.cities result)) :
    (c.state e).Delivers (c.input e) job purpose (entriesOf result) := by
  have hbk : b ≤ k := Nat.le_of_not_lt fun hkb => h.not_ask hp hkb answered.pending.asked
  have hbe : b < e := Nat.lt_of_le_of_lt hbk answered.pending.before
  rcases (phase hp h hbe).stage_of_pending hp answered.pending with ⟨_, hq, -⟩ | ⟨-, hs⟩
  · cases hq
  · rw [answered.input]
    exact delivers_of_step h.purpose_ne (step_entries hs)

end

/-- Without a predictor there is a background job afterwards, if there was none before. -/
lemma SetsOut.warms (ho : ∀ n, (c.state n).inside.Orderly)
    (h : (c.state b).SetsOut (c.input b) job query purpose)
    (long : (c.state b).skips purpose = false) (unready : (c.state b).primary.client = none) :
    ∃ w s, (c.state (b + 1)).primary.background = some w ∧
      (c.state (b + 1)).stage? w = some s ∧ s.isLoad = true ∧
      ((c.state b).primary.background = some w ∨ .spawned w .load ∈ c.output b) := by
  obtain ⟨r, pre, hopens⟩ := h.opens
  obtain ⟨v, w, hinside, hbackground, hspawned, -⟩ :=
    hopens.inside_unready long h.purpose_ne unready
  have hw : (c.state (b + 1)).primary.background = some w :=
    (congrArg (·.primary.background) hinside).trans hbackground
  obtain ⟨s, hs, hload⟩ := (ho (b + 1)).background w hw
  refine ⟨w, s, hw, hs, hload, hspawned.imp_right fun hmem => (mem_inside rfl).mp ?_⟩
  rw [hinside]
  exact List.mem_append_left _ hmem

/-! ### The policy -/

/-- Whom the lookup asks that sets out at a position, and what it brings. -/
structure KeepsPolicy (c : Course step) (b job : ℕ) (query : String) (purpose : Purpose) :
    Prop where
  /-- A query that is too short brings nothing at once; no source is asked and none is loaded. -/
  short (skips : (c.state b).skips purpose = true) : (∀ o ∈ c.output b, o.isInner = false) ∧
    (∀ n, askedBefore c job n = []) ∧ (c.state b).Delivers (c.input b) job purpose []
  /-- A predictor that is there is asked for the query, once; and nobody else is asked unless it has
  answered without a place. -/
  predicts {client n : ℕ} (long : (c.state b).skips purpose = false)
    (ready : (c.state b).primary.client = some client) (after : b < n)
    (kept : ∀ e < n, ∀ result,
      Answered c b e job (.predict client query) (.predictions result) → placesOf result ≠ []) :
    askedBefore c job n = [.predict client query]
  /-- The places that it answers are brought, and nobody else is asked. -/
  places {client e : ℕ} {result : Except Failure (List Prediction)}
    (answered : Answered c b e job (.predict client query) (.predictions result))
    (named : placesOf result ≠ []) :
    (c.state e).Delivers (c.input e) job purpose (placesOf result) ∧
      ∀ n, b < n → askedBefore c job n = [.predict client query]
  /-- If it answers no place or fails, the directory is asked for the query in lower case, once and
  not before. -/
  fallsBack {client e : ℕ} {result : Except Failure (List Prediction)}
    (answered : Answered c b e job (.predict client query) (.predictions result))
    (nothing : placesOf result = []) : askedBefore c job e = [.predict client query] ∧
      ∀ n, e < n →
        askedBefore c job n = [.predict client query, .cities (Text.lowercase query)]
  /-- Without a predictor only the directory is asked, once, and a job in the background loads the
  predictor. -/
  unready (long : (c.state b).skips purpose = false)
    (unready : (c.state b).primary.client = none) :
    (∀ n, b < n → askedBefore c job n = [.cities (Text.lowercase query)]) ∧
      ∃ w s, (c.state (b + 1)).primary.background = some w ∧
        (c.state (b + 1)).stage? w = some s ∧ s.isLoad = true ∧
        ((c.state b).primary.background = some w ∨ .spawned w .load ∈ c.output b)
  /-- What the directory answers is brought; if it fails, that is nothing. -/
  entries {k e : ℕ} {result : Except Failure (List CityRecord)}
    (answered : Answered c k e job (.cities (Text.lowercase query)) (.cities result)) :
    (c.state e).Delivers (c.input e) job purpose (entriesOf result)

/-- **Whom a lookup asks.** From any picker with no load under way, whatever the user and the
sources do: every lookup keeps the policy, and predictions are asked only of a predictor that is
there. -/
theorem keepsPolicy {o : PickerOptions} {primary : Primary} (hc : c.start = new o primary)
    (idle : primary.IsIdle) (h : (c.state b).SetsOut (c.input b) job query purpose) :
    KeepsPolicy c b job query purpose ∧
      ∀ n j m text, .ask j (.predict m text) ∈ c.output n →
        (c.state n).primary.client = some m := by
  have hp (n : ℕ) : (c.state n).Tidy := tidy_state hc idle.2.2 n
  have ho (n : ℕ) : (c.state n).inside.Orderly := by
    induction n with
    | zero => rw [Course.state_zero, hc]; exact orderly_new_idle o idle
    | succ n ih => exact orderly_step (hp n) ih (c.input n)
  refine ⟨{
    short := fun skips => h.short hp skips
    predicts := fun long ready after kept => h.predicts hp long ready after kept
    places := fun answered named =>
      ⟨h.delivers_places hp answered named, fun n hbn => h.asked_of_places hp answered named hbn⟩
    fallsBack := fun answered nothing =>
      ⟨h.asked_of_answered hp answered, fun n hen => h.asked_of_nothing hp answered nothing hen⟩
    unready := fun long unready =>
      ⟨fun n hbn => h.asked_of_unready hp long unready hbn, h.warms ho long unready⟩
    entries := fun answered => h.delivers_entries hp answered }, fun n j m text hask => ?_⟩
  exact ((primes_state hp ho n).means _ ((mem_inside rfl).mpr hask)).of_predict

/-- A lookup finds no predictor, and the directory fails. When the predictor is there, it names no
place for a query, and one place of two for another one; and a query is too short. -/
def deciding : Course step where
  start := new ⟨2, ⟨10000, true⟩⟩ .unloaded
  input
    | 0 => .start (.lookup "BER")
    | 1 => .reply 0 (.cities (.error (.http .transport)))
    | 2 => .begin 1
    | 3 => .reply 1 (.loaded (.ok ()))
    | 4 => .start (.handle "BER")
    | 5 => .reply 2 (.predictions (.ok [⟨"Bern", [" "]⟩]))
    | 6 => .reply 2 (.cities (.ok [⟨"Bern", none, "Switzerland"⟩]))
    | 7 => .dispatch "lis"
    | 8 => .begin 3
    | 9 => .reply 3 (.predictions (.ok
        [⟨"Nowhere", []⟩, ⟨"Lisbon, Portugal", ["Lisbon", " ", "Portugal "]⟩]))
    | _ => .start (.handle "l")

theorem deciding_keepsPolicy :
    askedBefore deciding 0 9 = [.cities "ber"] ∧
    (deciding.state 1).Delivers (deciding.input 1) 0 .offer [] ∧
    askedBefore deciding 2 9 = [.predict 1 "BER", .cities "ber"] ∧
    (deciding.state 6).Delivers (deciding.input 6) 2 (.display ⟨"BER", 1⟩)
      [⟨"Bern, Switzerland", "Bern, Switzerland", .fallback⟩] ∧
    askedBefore deciding 3 20 = [.predict 1 "lis"] ∧
    (deciding.state 9).Delivers (deciding.input 9) 3 (.display ⟨"lis", 2⟩)
      [⟨"Lisbon, Portugal", "Lisbon, Portugal", .primary⟩] ∧
    askedBefore deciding 4 20 = [] := by
  have idle : Primary.unloaded.IsIdle := ⟨rfl, rfl, rfl⟩
  have hlower : Text.lowercase "BER" = "ber" := by decide +kernel
  have first : (deciding.state 0).SetsOut (deciding.input 0) 0 "BER" .offer := .called
  have second : (deciding.state 4).SetsOut (deciding.input 4) 2 "BER" (.display ⟨"BER", 1⟩) :=
    .handled
  have third : (deciding.state 8).SetsOut (deciding.input 8) 3 "lis" (.display ⟨"lis", 2⟩) :=
    .begun (t := ⟨"lis", 2⟩) rfl
  have fourth : (deciding.state 10).SetsOut (deciding.input 10) 4 "l" (.display ⟨"l", 3⟩) :=
    .handled
  have hfirst := (keepsPolicy rfl idle first).1
  have hsecond := (keepsPolicy rfl idle second).1
  have hthird := (keepsPolicy rfl idle third).1
  have hfourth := (keepsPolicy rfl idle fourth).1
  have failed : Answered deciding 0 1 0 (.cities (Text.lowercase "BER"))
      (.cities (.error (.http .transport))) := ⟨pending_of_ask (.tail _ (.tail _ (.head _))), rfl⟩
  have nameless : Answered deciding 4 5 2 (.predict 1 "BER")
      (.predictions (.ok [⟨"Bern", [" "]⟩])) := ⟨pending_of_ask (.tail _ (.head _)), rfl⟩
  have listed : Answered deciding 5 6 2 (.cities (Text.lowercase "BER"))
      (.cities (.ok [⟨"Bern", none, "Switzerland"⟩])) := ⟨pending_of_ask (.head _), rfl⟩
  have named : Answered deciding 8 9 3 (.predict 1 "lis") (.predictions (.ok
      [⟨"Nowhere", []⟩, ⟨"Lisbon, Portugal", ["Lisbon", " ", "Portugal "]⟩])) :=
    ⟨pending_of_ask (.head _), rfl⟩
  obtain ⟨delivers, asked⟩ := hthird.places named (by decide +kernel)
  rw [← hlower]
  exact ⟨(hfirst.unready rfl rfl).1 9 (by decide), hfirst.entries failed,
    (hsecond.fallsBack nameless (by decide +kernel)).2 9 (by decide), hsecond.entries listed,
    asked 20 (by decide), delivers, (hfourth.short (by decide +kernel)).2.1 20⟩

end Whereto.Picker
