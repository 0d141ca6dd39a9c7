import Whereto.Proofs.Course
import Whereto.Proofs.Picker.Workings

/-!
Questions that wait for an answer. A job asks one question when it gets to a stage, and as long as
nothing closes the question the job stays there. So the jobs at such stages are those with a
pending question, and none has more than one.
-/

namespace Whereto.Picker

/-- The input closes the question of a job: it answers it, the time for it is over, or the job is
dropped. -/
inductive Closes (p : Picker) : Input → Nat → Question → Prop
  | loaded {job : Nat} {result : Except Failure Unit} :
      Closes p (.reply job (.loaded result)) job .load
  | predicted {job client : Nat} {text : String} {result : Except Failure (List Prediction)} :
      Closes p (.reply job (.predictions result)) job (.predict client text)
  | searched {job : Nat} {term : String} {result : Except Failure (List CityRecord)} :
      Closes p (.reply job (.cities result)) job (.cities term)
  | positioned {job : Nat} {options : PositionOptions}
      {result : Except LocatingFault Coordinates} :
      Closes p (.reply job (.position result)) job (.position options)
  | described {job : Nat} {x : Coordinates} {result : Except Failure Address} :
      Closes p (.reply job (.address result)) job (.address x)
  | expired {job : Nat} {options : PositionOptions} :
      Closes p (.expire job) job (.position options)
  | cancelled {job : Nat} {q : Question} (own : p.primary.background ≠ some job) :
      Closes p (.cancel job) job q

/-- What a job asks by an output. -/
def Output.question? (job : Nat) : Output → Option Question
  | .ask j q => if j = job then some q else none
  | _ => none

/-- The questions that a job has asked. -/
def Inside.asked (v : Inside) (job : Nat) : List Question := v.told.filterMap (Output.question? job)

lemma mem_asked {r : Step} {job : Nat} {q : Question} :
    q ∈ r.inside.asked job ↔ .ask job q ∈ r.2 := by
  rw [← mem_inside (r := r) rfl, Inside.asked, List.mem_filterMap]
  constructor
  · rintro ⟨o, ho, hq⟩
    cases o with
    | ask j q' =>
      simp only [Output.question?, Option.ite_none_right_eq_some, Option.some.injEq] at hq
      exact hq.1 ▸ hq.2 ▸ ho
    | _ => cases hq
  · intro ho
    exact ⟨_, ho, by simp [Output.question?]⟩

/-- Whatever a job has asked, the input closes it. -/
def Releases (p : Picker) (i : Input) (job : Nat) : Prop :=
  ∀ s q, p.stage? job = some s → s.Asks q → p.Closes i job q

/-- How a job gets through a step: it stays where it is and asks nothing, or it is released and
waits for the answer to what it asks now, or it is released and waits for no answer. -/
inductive Passes (p : Picker) (i : Input) (v : Inside) (job : Nat) : Prop
  | stays (stage : v.stage job = p.stage? job) (asked : v.asked job = [])
  | asks {s : Stage} {q : Question} (stage : v.stage job = some s) (asks : s.Asks q)
      (asked : v.asked job = [q]) (released : p.Releases i job)
  | rests (stage : ∀ s q, v.stage job = some s → ¬ s.Asks q) (asked : v.asked job = [])
      (released : p.Releases i job)

variable {p : Picker} {i : Input} {v w : Inside} {job j : Nat}

/-! ### Who is released -/

lemma releases_of_stage {s : Stage} (h : p.stage? job = some s)
    (hs : ∀ q, s.Asks q → p.Closes i job q) : p.Releases i job := by
  intro s' q hs' hq
  obtain rfl : s = s' := by simpa [h] using hs'
  exact hs q hq

lemma releases_fresh (hp : p.Sound) (h : p.nextJob ≤ job) : p.Releases i job := by
  intro s q hs
  exact absurd (hp.fresh job s hs) (Nat.not_lt.mpr h)

lemma Seeks.releases (hp : p.Sound) (h : p.Seeks i job) : p.Releases i job := by
  cases h with
  | started => exact releases_fresh hp (Nat.le_refl _)
  | begun stage => exact releases_of_stage stage nofun
  | predicted stage => exact releases_of_stage stage fun q hq => by cases hq; exact .predicted
  | searched stage => exact releases_of_stage stage fun q hq => by cases hq; exact .searched
  | cancelled _ _ own => exact fun _ _ _ _ => .cancelled own

lemma Settles.releases {fill : Bool} {l : Locator} (hp : p.Sound) (h : p.Settles i job fill l) :
    p.Releases i job := by
  cases h with
  | known => exact releases_fresh hp (Nat.le_refl _)
  | failed stage => exact releases_of_stage stage fun q hq => by cases hq; exact .positioned
  | expired stage => exact releases_of_stage stage fun q hq => by cases hq; exact .expired
  | found stage => exact releases_of_stage stage fun q hq => by cases hq; exact .described

lemma Arrives.releases (hp : p.Sound) (h : p.Arrives i job) : p.Releases i job := by
  cases h with
  | called => exact releases_fresh hp (Nat.le_refl _)
  | begun stage => exact releases_of_stage stage nofun

/-! ### One job at a time -/

lemma Passes.congr (h : p.Passes i v job) (hstage : w.stage job = v.stage job)
    (hasked : w.asked job = v.asked job) : p.Passes i w job := by
  cases h with
  | stays stage asked => exact .stays (hstage.trans stage) (hasked.trans asked)
  | asks stage asks asked released =>
    exact .asks (hstage.trans stage) asks (hasked.trans asked) released
  | rests stage asked released =>
    exact .rests (fun s q hs => stage s q (hstage ▸ hs)) (hasked.trans asked) released

lemma asked_put (v : Inside) (job j : Nat) (s : Option Stage) (out : List Output) :
    (v.put job s out).asked j = v.asked j ++ out.filterMap (Output.question? j) := by
  simp [Inside.put, Inside.asked]

lemma asked_leave (v : Inside) (line : List Nat) (failure : Option Failure) (j : Nat) :
    (v.leave line failure).asked j = v.asked j := by
  have hline : (line.map fun job => Output.finish job (.ready failure)).filterMap
      (Output.question? j) = [] := by
    rw [List.filterMap_map]
    exact List.filterMap_eq_nil_iff.mpr fun _ _ => rfl
  simp [Inside.leave, Inside.asked, hline]

/-- A job gets to a stage and asks; the others get through as they did before. -/
lemma passes_ask {s : Stage} {q : Question} (hv : ∀ j, j ≠ job → p.Passes i v j)
    (quiet : v.asked job = []) (released : p.Releases i job) (asks : s.Asks q) :
    p.Passes i (v.put job (some s) [.ask job q]) j := by
  by_cases hj : j = job
  · subst hj
    refine .asks v.put_stage_self asks ?_ released
    simp [asked_put, quiet, Output.question?]
  · refine (hv j hj).congr (v.put_stage hj) ?_
    simp [asked_put, Output.question?, Ne.symm hj]

/-- A job gets to a stage at which it waits for no answer, or it is over. -/
lemma passes_rest {s : Option Stage} {out : List Output} (hv : ∀ j, j ≠ job → p.Passes i v j)
    (quiet : v.asked job = []) (released : p.Releases i job)
    (hs : ∀ t q, s = some t → ¬ t.Asks q) (hout : ∀ j, out.filterMap (Output.question? j) = []) :
    p.Passes i (v.put job s out) j := by
  have hasked (j : Nat) : (v.put job s out).asked j = v.asked j := by
    rw [asked_put, hout, List.append_nil]
  by_cases hj : j = job
  · subst hj
    refine .rests (fun t q ht => hs t q ?_) ((hasked j).trans quiet) released
    rwa [v.put_stage_self] at ht
  · exact (hv j hj).congr (v.put_stage hj) (hasked j)

lemma Warms.asked (h : p.Warms i v) (j : Nat) : v.asked j = [] := by
  cases h <;> rfl

lemma Warms.passes (hp : p.Sound) (h : p.Warms i v) (j : Nat) : p.Passes i v j := by
  cases h with
  | rest => exact .stays rfl rfl
  | spawned =>
    exact passes_rest (fun _ _ => .stays rfl rfl) rfl (releases_fresh hp (le_spare p i))
      (by rintro _ _ ⟨⟩ ⟨⟩) fun _ => rfl

lemma passes_leave {line : List Nat} {failure : Option Failure}
    (hv : ∀ j, j ∉ line → p.Passes i v j) (quiet : ∀ j, v.asked j = [])
    (released : ∀ j ∈ line, p.Releases i j) : p.Passes i (v.leave line failure) j := by
  have hasked := asked_leave v line failure j
  by_cases hj : j ∈ line
  · refine .rests (fun s q hs => ?_) (hasked.trans (quiet j)) (released j hj)
    simp [Inside.leave, hj] at hs
  · exact (hv j hj).congr (by simp [Inside.leave, hj]) hasked

/-- A job in line asked nothing before it is its turn. -/
lemma passes_next (hv : ∀ j, p.Passes i v j) (quiet : ∀ j, v.asked j = [])
    (queued : ∀ j ∈ v.primary.waiting, p.stage? j = some .queued) : p.Passes i v.next j := by
  cases hline : v.primary.waiting with
  | nil =>
    rw [Inside.next_nil hline]
    exact (hv j).congr rfl rfl
  | cons job rest =>
    have hjob := queued job (by simp [hline])
    rw [Inside.next_cons hline]
    exact passes_ask (fun k _ => (hv k).congr rfl rfl) (quiet job)
      (releases_of_stage hjob nofun) .loading

/-- **Every job gets through a step** in one of the ways of `Passes`. -/
theorem passes_step (hp : p.Tidy) (i : Input) (j : Nat) : p.Passes i (p.step i).inside j := by
  have hturn := turn_step hp.tracked i
  generalize (p.step i).inside = v at hturn
  have hrest (job : Nat) : ∀ j, j ≠ job → p.Passes i p.inside j := fun _ _ => .stays rfl rfl
  cases hturn with
  | warmed warm => exact warm.passes hp.toSound j
  | dispatched =>
    exact passes_rest (hrest _) rfl (releases_fresh hp.toSound (Nat.le_refl _))
      (by rintro _ _ ⟨⟩ ⟨⟩) fun _ => rfl
  | asked h warm _ asks =>
    exact passes_ask (fun k _ => warm.passes hp.toSound k) (warm.asked _) (h.releases hp.toSound)
      asks
  | finished h warm =>
    exact passes_rest (fun k _ => warm.passes hp.toSound k) (warm.asked _) (h.releases hp.toSound)
      nofun fun _ => rfl
  | locating =>
    exact passes_ask (fun _ _ => .stays rfl rfl) rfl
      (releases_fresh hp.toSound (Nat.le_refl _)) .positioning
  | describing stage =>
    exact passes_ask (hrest _) rfl
      (releases_of_stage stage fun q hq => by cases hq; exact .positioned) .describing
  | settled h =>
    exact passes_rest (fun _ _ => .stays rfl rfl) rfl (h.releases hp.toSound) nofun
      fun _ => rfl
  | givenUp _ _ own =>
    exact passes_rest (fun _ _ => .stays rfl rfl) rfl (fun _ _ _ _ => .cancelled own) nofun
      fun _ => rfl
  | served h =>
    refine passes_leave (fun _ _ => .stays rfl rfl) (fun _ => rfl) fun k hk => ?_
    rw [List.mem_singleton.mp hk]
    exact h.releases hp.toSound
  | loading h =>
    exact passes_ask (fun _ _ => .stays rfl rfl) rfl (h.releases hp.toSound) .loading
  | queued h =>
    exact passes_rest (fun _ _ => .stays rfl rfl) rfl (h.releases hp.toSound)
      (by rintro _ _ ⟨⟩ ⟨⟩) fun _ => rfl
  | @loaded job stage =>
    refine passes_leave (fun _ _ => .stays rfl rfl) (fun _ => rfl) fun k hk => ?_
    rcases List.mem_cons.mp hk with rfl | hk
    · exact releases_of_stage stage fun q hq => by cases hq; exact .loaded
    · exact releases_of_stage (hp.queued k hk) nofun
  | @failed job e stage =>
    refine passes_next (fun _ => passes_leave (fun _ _ => .stays rfl rfl) (fun _ => rfl)
      fun k hk => ?_) (fun k => asked_leave _ _ _ k) hp.queued
    rw [List.mem_singleton.mp hk]
    exact releases_of_stage stage fun q hq => by cases hq; exact .loaded
  | abandoned _ own =>
    exact passes_next (fun _ => passes_rest (fun _ _ => .stays rfl rfl) rfl
      (fun _ _ _ _ => .cancelled own) nofun fun _ => rfl) (fun _ => rfl) hp.queued
  | left _ own =>
    exact passes_rest (fun _ _ => .stays rfl rfl) rfl (fun _ _ _ _ => .cancelled own) nofun
      fun _ => rfl

/-- A job that asks has got to a stage at which it waits for the answer. -/
lemma stage_of_ask (hp : p.Tidy) {q : Question} (h : .ask job q ∈ (p.step i).2) :
    ∃ s, (p.step i).1.stage? job = some s ∧ s.Asks q := by
  have hmem := mem_asked.mpr h
  cases passes_step hp i job with
  | stays _ asked => simp [asked] at hmem
  | @asks s q' stage asks asked =>
    rw [asked, List.mem_singleton] at hmem
    exact ⟨s, stage, hmem ▸ asks⟩
  | rests _ asked => simp [asked] at hmem

/-- A job asks one question in a step. -/
lemma ask_unique (hp : p.Tidy) {q q' : Question} (h : .ask job q ∈ (p.step i).2)
    (h' : .ask job q' ∈ (p.step i).2) : q = q' := by
  have hmem := mem_asked.mpr h
  have hmem' := mem_asked.mpr h'
  cases passes_step hp i job with
  | stays _ asked => simp [asked] at hmem
  | asks _ _ asked =>
    rw [asked, List.mem_singleton] at hmem hmem'
    exact hmem.trans hmem'.symm
  | rests _ asked => simp [asked] at hmem

/-- As long as its question is not closed, a job stays where it is and asks nothing. -/
lemma stays_of_not_closes (hp : p.Tidy) {s : Stage} {q : Question} (hs : p.stage? job = some s)
    (hq : s.Asks q) (h : ¬ p.Closes i job q) :
    (p.step i).1.stage? job = some s ∧ ∀ q', .ask job q' ∉ (p.step i).2 := by
  cases passes_step hp i job with
  | stays stage asked =>
    refine ⟨(show (p.step i).1.stage? job = _ from stage).trans hs, fun q' hq' => ?_⟩
    simpa [asked] using mem_asked.mpr hq'
  | asks _ _ _ released => exact absurd (released s q hs hq) h
  | rests _ _ released => exact absurd (released s q hs hq) h

lemma stage?_conclude (p : Picker) (job : Nat) (purpose : Purpose) (found : List Suggestion) :
    (p.conclude job purpose found).1.stage? job = none := by
  have h := congrArg (Inside.stage · job) (inside_conclude p job purpose found)
  exact h.trans (Inside.put_stage_self ..)

lemma stage?_settle (p : Picker) (job : Nat) (fill : Bool) :
    (p.settle job fill).1.stage? job = none := by
  have h := congrArg (Inside.stage · job) (inside_settle p job fill)
  exact h.trans (Inside.put_stage_self ..)

lemma stage?_loadDone (p : Picker) (job : Nat) : (p.loadDone job).1.stage? job = none := by
  have h := congrArg (Inside.stage · job) (inside_loadDone p job)
  refine h.trans ?_
  simp [Inside.ready, Inside.leave]

lemma stage?_loadFailed (hjob : job ∉ p.primary.waiting) (e : Failure) :
    (p.loadFailed job e).1.stage? job = none := by
  have h := congrArg (Inside.stage · job) (inside_loadFailed p job e)
  refine h.trans ((Inside.next_stage _ hjob).trans ?_)
  simp [Inside.leave]

lemma stage?_abandon (hjob : job ∉ p.primary.waiting) :
    (p.retire job).loadNext.1.stage? job = none := by
  have h := congrArg (Inside.stage · job) (inside_loadNext (p.retire job))
  exact h.trans ((Inside.next_stage _ hjob).trans (stage?_retire_self p))

/-- A job whose question is closed goes on, or it is over. -/
lemma moves_of_closes (hp : p.Sound) {s : Stage} {q : Question} (hs : p.stage? job = some s)
    (hq : s.Asks q) (h : p.Closes i job q) : (p.step i).1.stage? job ≠ some s := by
  have hjob : s ≠ .queued → job ∉ p.primary.waiting := fun hne => (hp.roams hs hne).free
  cases h with
  | @loaded _ result =>
    cases hq
    have hfree := hjob nofun
    cases result with
    | ok _ => simp [step, reply, hs, stage?_loadDone]
    | error e => simp [step, reply, hs, stage?_loadFailed hfree]
  | @predicted _ _ _ result =>
    cases hq with
    | @predicting _ query purpose =>
      simp only [step, reply, hs]
      split
      · cases purpose <;> simp [fallBack, search, await, stage?_conclude]
      · simp [stage?_conclude]
  | searched =>
    cases hq
    simp [step, reply, hs, stage?_conclude]
  | @positioned _ _ result =>
    cases hq
    cases result <;> simp [step, reply, hs, await, locatingFailed, stage?_settle]
  | described =>
    cases hq
    simp [step, reply, hs, stage?_settle]
  | expired =>
    cases hq
    simp [step, expire, hs, locatingFailed, stage?_settle]
  | cancelled own =>
    have retired (l : Locator) : ({ p with locator := l }.retire job).stage? job = none :=
      stage?_retire_self _
    cases hq with
    | loading => simp [step, cancel, own, hs, stage?_abandon (hjob nofun)]
    | predicting => simp [step, cancel, own, hs, stage?_retire_self]
    | searching => simp [step, cancel, own, hs, stage?_retire_self]
    | positioning => simp [step, cancel, own, hs, retired]
    | describing => simp [step, cancel, own, hs, retired]

/-! ### Pending questions -/

/-- Before a position, a job waits for the answer to what it asked at an earlier one. -/
structure Pending (c : Course step) (k n job : ℕ) (q : Question) : Prop where
  before : k < n
  asked : .ask job q ∈ c.output k
  still : ∀ m, k < m → m < n → ¬ (c.state m).Closes (c.input m) job q

/-- What a job asked at an earlier position is answered. -/
structure Answered (c : Course step) (k e job : ℕ) (q : Question) (r : Reply) : Prop where
  pending : Pending c k e job q
  input : c.input e = .reply job r

variable {c : Course step} {k k' m n : ℕ} {q q' : Question}

/-- A question is pending when it has just been asked. -/
lemma pending_of_ask (h : .ask job q ∈ c.output n) : Pending c n (n + 1) job q :=
  ⟨Nat.lt_succ_self n, h, fun m hnm hmn => by omega⟩

lemma Pending.until (h : Pending c k n job q) (hkm : k < m) (hmn : m ≤ n) :
    Pending c k m job q :=
  ⟨hkm, h.asked, fun l hkl hlm => h.still l hkl (by omega)⟩

lemma Pending.succ (h : Pending c k n job q)
    (hclose : ¬ (c.state n).Closes (c.input n) job q) : Pending c k (n + 1) job q := by
  refine ⟨Nat.lt_succ_of_lt h.before, h.asked, fun m hkm hmn => ?_⟩
  rcases Nat.lt_succ_iff_lt_or_eq.mp hmn with hlt | rfl
  · exact h.still m hkm hlt
  · exact hclose

lemma tidy_state {o : PickerOptions} {primary : Primary} (hc : c.start = new o primary)
    (h : primary.waiting = []) (n : ℕ) : (c.state n).Tidy :=
  Course.invariant (c := c) (P := Tidy) (fun _ i hp => hp.of_step i) (Nat.zero_le n)
    (by rw [Course.state_zero, hc]; exact tidy_new o primary h)

section

variable (hp : ∀ n, (c.state n).Tidy)
include hp

/-- A job with a pending question is where it was when it asked. -/
lemma Pending.stage (h : Pending c k n job q) :
    ∃ s, (c.state n).stage? job = some s ∧ s.Asks q := by
  obtain ⟨s, hs, hq⟩ := stage_of_ask (hp k) h.asked
  refine ⟨s, ?_, hq⟩
  refine Course.keep (P := fun p : Picker => p.stage? job = some s) h.before hs
    fun m hkm hmn hm => ?_
  exact (stays_of_not_closes (hp m) hm hq (h.still m hkm hmn)).1

/-- A job with a pending question has asked nothing since. -/
lemma Pending.quiet (h : Pending c k n job q) (hkm : k < m) (hmn : m < n) :
    .ask job q' ∉ c.output m := by
  obtain ⟨s, hs, hq⟩ := (h.until hkm hmn.le).stage hp
  exact (stays_of_not_closes (hp m) hs hq (h.still m hkm hmn)).2 q'

/-- A job has one pending question. -/
lemma Pending.unique (h : Pending c k n job q) (h' : Pending c k' n job q') :
    k = k' ∧ q = q' := by
  rcases Nat.lt_trichotomy k k' with hlt | rfl | hlt
  · exact absurd h'.asked (h.quiet hp hlt h'.before)
  · exact ⟨rfl, ask_unique (hp k) h.asked h'.asked⟩
  · exact absurd h.asked (h'.quiet hp hlt h.before)

/-- A job at a stage at which one waits for an answer has a pending question. -/
lemma exists_pending (h0 : c.start.jobs = []) {s : Stage} (hs : (c.state n).stage? job = some s)
    (hq : ∃ q, s.Asks q) : ∃ k q, Pending c k n job q ∧ s.Asks q := by
  induction n with
  | zero =>
    have hmem := mem_of_stage? hs
    simp [Course.state_zero, h0] at hmem
  | succ n ih =>
    cases passes_step (hp n) (c.input n) job with
    | stays stage =>
      have hold : (c.state n).stage? job = some s := stage.symm.trans hs
      obtain ⟨k, q, hpending, hkq⟩ := ih hold
      refine ⟨k, q, hpending.succ fun hclose => ?_, hkq⟩
      exact moves_of_closes (hp n).toSound hold hkq hclose hs
    | @asks s' q stage asks asked =>
      obtain rfl : s' = s := Option.some.inj (stage.symm.trans hs)
      have hask : .ask job q ∈ c.output n := mem_asked.mp (by simp [asked])
      exact ⟨n, q, pending_of_ask hask, asks⟩
    | rests stage =>
      obtain ⟨q, hq⟩ := hq
      exact absurd hq (stage s q hs)

end

end Whereto.Picker
