import Whereto.Proofs.Picker.Inside

/-!
What an input can do inside a picker, case by case: every later fact about loads, lookups of the
position and questions is read off these cases. A picker is tidy when its table of jobs is sound
and its background job is known; all inputs keep it so.
-/

namespace Whereto

lemma Stage.isLoad_of_isSearch {s : Stage} (h : s.isSearch = true) : s.isLoad = false := by
  cases s with
  | spawned e => cases e <;> simp_all [isSearch, isLoad]
  | _ => simp_all [isSearch, isLoad]

lemma Stage.isLocating_of_isSearch {s : Stage} (h : s.isSearch = true) :
    s.isLocating = false := by
  cases s <;> simp_all [isSearch, isLocating]

lemma Stage.isLoad_of_isLocating {s : Stage} (h : s.isLocating = true) : s.isLoad = false := by
  cases s <;> simp_all [isLocating, isLoad]

namespace Picker

/-- The number that is free once a job that the input starts has its own. -/
def spare (p : Picker) : Input → Nat
  | .start _ => p.nextJob + 1
  | _ => p.nextJob

/-- The background job is spawned, or not. -/
inductive Warms (p : Picker) (i : Input) : Inside → Prop
  | rest : Warms p i p.inside
  | spawned (unready : p.primary.isReady = false) (alone : p.primary.background = none) :
      Warms p i ({ p.inside with primary := { p.primary with
        background := some (p.spare i) } }.put (p.spare i) (some (.spawned .load))
          [.spawned (p.spare i) .load])

/-- The input is for a job that looks suggestions up. -/
inductive Seeks (p : Picker) : Input → Nat → Prop
  | started {call : Call} : Seeks p (.start call) p.nextJob
  | begun {job : Nat} {t : Ticket} (stage : p.stage? job = some (.spawned (.complete t))) :
      Seeks p (.begin job) job
  | predicted {job : Nat} {query : String} {purpose : Purpose}
      {result : Except Failure (List Prediction)}
      (stage : p.stage? job = some (.predicting query purpose)) :
      Seeks p (.reply job (.predictions result)) job
  | searched {job : Nat} {purpose : Purpose} {result : Except Failure (List CityRecord)}
      (stage : p.stage? job = some (.searching purpose)) :
      Seeks p (.reply job (.cities result)) job
  | cancelled {job : Nat} {s : Stage} (stage : p.stage? job = some s)
      (search : s.isSearch = true) (own : p.primary.background ≠ some job) :
      Seeks p (.cancel job) job

/-- The input is for a job that comes for the predictor. -/
inductive Arrives (p : Picker) : Input → Nat → Prop
  | called : Arrives p (.start .ensureReady) p.nextJob
  | begun {job : Nat} (stage : p.stage? job = some (.spawned .load)) :
      Arrives p (.begin job) job

/-- What an input can do inside a picker. -/
inductive Turn (p : Picker) : Input → Inside → Prop
  | warmed {i : Input} {v : Inside} (warm : p.Warms i v) : Turn p i v
  | dispatched {query : String} : Turn p (.dispatch query)
      (p.inside.put p.nextJob (some (.spawned (.complete ⟨query, p.field.generation + 1⟩))) [])
  | asked {i : Input} {job : Nat} {v : Inside} {s : Stage} {q : Question} (h : p.Seeks i job)
      (warm : p.Warms i v) (search : s.isSearch = true) (asks : s.Asks q)
      (client : ∀ c text, q = .predict c text → p.primary.client = some c) :
      Turn p i (v.put job (some s) [.ask job q])
  | finished {i : Input} {job : Nat} {v : Inside} (h : p.Seeks i job) (warm : p.Warms i v) :
      Turn p i (v.put job none [])
  | locating {fill : Bool} (idle : p.locator.locating = false) :
      Turn p (.start (locateCall fill)) ({ p.inside with locator := p.locator.begin }.put
        p.nextJob (some (.positioning fill)) [.ask p.nextJob (.position p.options.position)])
  | describing {job : Nat} {x : Coordinates} {fill : Bool}
      (stage : p.stage? job = some (.positioning fill)) :
      Turn p (.reply job (.position (.ok x)))
        (p.inside.put job (some (.describing x fill)) [.ask job (.address x)])
  | settled {i : Input} {job : Nat} {fill : Bool} {l : Locator}
      (h : p.Settles i job fill l) : Turn p i ({ p.inside with locator := l }.put job none [])
  | givenUp {job : Nat} {s : Stage} (stage : p.stage? job = some s)
      (locating : s.isLocating = true) (own : p.primary.background ≠ some job) :
      Turn p (.cancel job)
        ({ p.inside with locator := p.locator.giveUp }.put job none [])
  | served {i : Input} {job : Nat} (h : p.Arrives i job) (ready : p.primary.isReady = true) :
      Turn p i (p.inside.leave [job] none)
  | loading {i : Input} {job : Nat} (h : p.Arrives i job) (unready : p.primary.isReady = false)
      (idle : p.primary.loading = none) : Turn p i (p.inside.load job)
  | queued {i : Input} {job j : Nat} (h : p.Arrives i job) (unready : p.primary.isReady = false)
      (busy : p.primary.loading = some j) : Turn p i ({ p.inside with primary := { p.primary with
        waiting := p.primary.waiting ++ [job] } }.put job (some .queued) [])
  | loaded {job : Nat} (stage : p.stage? job = some .loading) :
      Turn p (.reply job (.loaded (.ok ()))) (p.inside.ready job)
  | failed {job : Nat} {e : Failure} (stage : p.stage? job = some .loading) :
      Turn p (.reply job (.loaded (.error e))) (p.inside.leave [job] (some e)).next
  | abandoned {job : Nat} (stage : p.stage? job = some .loading)
      (own : p.primary.background ≠ some job) : Turn p (.cancel job) (p.inside.put job none []).next
  | left {job : Nat} (stage : p.stage? job = some .queued)
      (own : p.primary.background ≠ some job) :
      Turn p (.cancel job) ({ p.inside with primary := { p.primary with
        waiting := p.primary.waiting.filter (· ≠ job) } }.put job none [])

/-- A background job that has not begun yet is known. -/
def Inside.Tracked (v : Inside) : Prop :=
  ∀ job, v.stage job = some (.spawned .load) → v.primary.background = some job

variable {p q : Picker} {i : Input} {job : Nat}

lemma warms_warmUp (hq : q.inside = p.inside) (hnext : q.nextJob = p.spare i) :
    p.Warms i q.warmUp.inside := by
  have hprimary : q.primary = p.primary := congrArg Inside.primary hq
  rw [inside_warmUp, hq, hprimary, hnext]
  split
  · exact .rest
  · rename_i h
    simp only [Bool.or_eq_true, not_or, Bool.not_eq_true, Option.isSome_eq_false_iff,
      Option.isNone_iff_eq_none] at h
    exact .spawned h.1 h.2

lemma turn_conclude (hq : q.inside = p.inside) (h : p.Seeks i job) (purpose : Purpose)
    (found : List Suggestion) : p.Turn i (q.conclude job purpose found).inside := by
  rw [inside_conclude, hq]
  exact .finished h .rest

/-- What is done without the predictor may come after the background job was spawned. -/
lemma turn_fallBack (h : p.Seeks i job) {r : Step} (warm : p.Warms i r.inside) (query : String)
    (purpose : Purpose) : p.Turn i (andThen r (fallBack · job query purpose)).inside := by
  have search (hf : ∀ q, fallBack q job query purpose = q.search job query purpose) :
      p.Turn i (andThen r (fallBack · job query purpose)).inside := by
    rw [inside_andThen_put job r fun q =>
      (congrArg Step.inside (hf q)).trans (inside_await q job _ _)]
    exact .asked h warm rfl .searching nofun
  cases purpose with
  | display t => exact search fun _ => rfl
  | offer => exact search fun _ => rfl
  | predictOnly =>
    have hover := inside_andThen_put job r fun q => inside_conclude q job .predictOnly []
    exact hover ▸ .finished h warm

lemma turn_lookup (hq : q.inside = p.inside) (hnext : q.nextJob = p.spare i)
    (h : p.Seeks i job) (query : String) (purpose : Purpose) :
    p.Turn i (q.lookup job query purpose).inside := by
  have hprimary : q.primary = p.primary := congrArg Inside.primary hq
  unfold lookup
  split
  · rename_i client hclient
    rw [inside_await, hq]
    refine .asked h .rest rfl .predicting fun c text hc => ?_
    cases hc
    exact hprimary ▸ hclient
  · exact turn_fallBack h (warms_warmUp hq hnext) query purpose

lemma turn_complete (hq : q.inside = p.inside) (hnext : q.nextJob = p.spare i)
    (h : p.Seeks i job) (t : Ticket) : p.Turn i (q.complete job t).inside := by
  unfold complete
  split
  · exact turn_conclude hq h _ []
  · exact turn_lookup hq hnext h t.query _

lemma turn_ensureReady (hq : q.inside = p.inside) (h : p.Arrives i job) :
    p.Turn i (q.ensureReady job).inside := by
  have hprimary : q.primary = p.primary := congrArg Inside.primary hq
  unfold ensureReady
  rw [hprimary]
  split
  · rename_i hready
    rw [inside_leave, hq]
    exact .served h hready
  · rename_i hready
    have hunready : p.primary.isReady = false := by simpa using hready
    split
    · rename_i hidle
      rw [inside_startLoad, hq]
      exact .loading h hunready hidle
    · rename_i hbusy
      have hturn := Turn.queued h hunready hbusy
      rw [← hprimary, ← hq] at hturn
      rw [Step.inside, inside_enter]
      exact hprimary ▸ hturn

lemma turn_locate (hq : q.inside = p.inside) (hoptions : q.options = p.options) (fill : Bool) :
    p.Turn (.start (locateCall fill)) (q.locate p.nextJob fill).inside := by
  have hlocator : q.locator = p.locator := congrArg Inside.locator hq
  unfold locate
  rw [hlocator, hoptions]
  split
  · rename_i hbusy
    have hsettles : p.Settles (.start (locateCall fill)) p.nextJob fill p.locator := .known hbusy
    rw [inside_settle, hq]
    exact .settled hsettles
  · rename_i hidle
    rw [inside_await]
    have hturn : p.Turn (.start (locateCall fill)) _ := .locating (by simpa using hidle)
    rw [← hq] at hturn
    exact hturn

/-! ### Steps -/

lemma turn_start (p : Picker) (call : Call) : p.Turn (.start call) (p.start call).inside := by
  have hseeks : p.Seeks (.start call) p.nextJob := .started
  have hstart (f : Picker → Step) (r : Picker) :
      (andThen (r, [.started p.nextJob]) f).inside = (f r).inside := by
    rw [inside_andThen]
    rfl
  let q : Picker := { p with nextJob := p.nextJob + 1 }
  have hq : q.inside = p.inside := rfl
  have hnext : q.nextJob = p.spare (.start call) := rfl
  unfold start
  rw [hstart]
  cases call with
  | complete t => exact turn_complete hq hnext hseeks t
  | handle query =>
    exact turn_complete (q := { q with field := q.field.supersede }) hq hnext hseeks _
  | lookup query => exact turn_lookup hq hnext hseeks query .offer
  | predict query => exact turn_lookup hq hnext hseeks query .predictOnly
  | fallback query =>
    have hasks : (Stage.searching .offer).Asks (.cities (Text.lowercase query)) := .searching
    exact (inside_await q p.nextJob _ _).symm ▸ .asked hseeks .rest rfl hasks nofun
  | ensureReady => exact turn_ensureReady hq .called
  | locate => exact turn_locate (q := q) hq rfl false
  | useLocation => exact turn_locate (q := q) hq rfl true

lemma turn_begin (p : Picker) (job : Nat) : p.Turn (.begin job) (p.begin job).inside := by
  unfold begin
  split
  · rename_i hstage
    exact turn_ensureReady rfl (.begun hstage)
  · rename_i t hstage
    exact turn_complete rfl rfl (.begun hstage) t
  · exact .warmed .rest

lemma turn_reply (p : Picker) (job : Nat) (r : Reply) :
    p.Turn (.reply job r) (p.reply job r).inside := by
  unfold reply
  split
  · rename_i hstage
    rw [inside_loadDone]
    exact .loaded hstage
  · rename_i hstage
    rw [inside_loadFailed]
    exact .failed hstage
  · rename_i query purpose result hstage
    dsimp only
    split
    · exact turn_fallBack (.predicted hstage) (r := (p, [])) .rest query purpose
    · exact turn_conclude rfl (.predicted hstage) purpose _
  · rename_i purpose result hstage
    exact turn_conclude rfl (.searched hstage) purpose _
  · rename_i fill x hstage
    rw [inside_await]
    exact .describing hstage
  · rename_i fill e hstage
    rw [locatingFailed, inside_settle]
    exact .settled (.failed hstage)
  · rename_i x fill result hstage
    rw [inside_settle]
    exact .settled (.found hstage)
  · exact .warmed .rest

lemma turn_expire (p : Picker) (job : Nat) : p.Turn (.expire job) (p.expire job).inside := by
  unfold expire
  split
  · rename_i fill hstage
    rw [locatingFailed, inside_settle]
    exact .settled (.expired hstage)
  · exact .warmed .rest

lemma turn_cancel (hp : p.inside.Tracked) (job : Nat) :
    p.Turn (.cancel job) (p.cancel job).inside := by
  unfold cancel
  split
  · exact .warmed .rest
  · rename_i hown
    split
    · exact .warmed .rest
    · rename_i hstage
      rw [inside_loadNext, inside_retire]
      exact .abandoned hstage hown
    · rename_i hstage
      rw [inside_over _ _ rfl]
      exact .left hstage hown
    · rename_i hstage
      rw [inside_over _ _ rfl]
      exact .givenUp hstage rfl hown
    · rename_i hstage
      rw [inside_over _ _ rfl]
      exact .givenUp hstage rfl hown
    · rename_i s hloading hqueued hpositioning hdescribing hstage
      rw [inside_over _ _ rfl]
      refine .finished (.cancelled hstage ?_ hown) .rest
      -- a background job that has not begun would be the one that is never dropped
      cases s with
      | spawned e =>
        cases e with
        | load => exact absurd (hp job hstage) hown
        | complete t => rfl
      | predicting query purpose => rfl
      | searching purpose => rfl
      | loading => exact absurd rfl hloading
      | queued => exact absurd rfl hqueued
      | positioning fill => exact absurd rfl (hpositioning fill)
      | describing x fill => exact absurd rfl (hdescribing x fill)

/-- **What a step does inside.** -/
theorem turn_step (hp : p.inside.Tracked) (i : Input) : p.Turn i (p.step i).inside := by
  cases i with
  | dispatch query =>
    rw [step, dispatch, inside_spawn]
    exact .dispatched
  | warmUp => exact .warmed (warms_warmUp rfl rfl)
  | start call => exact turn_start p call
  | begin job => exact turn_begin p job
  | reply job r => exact turn_reply p job r
  | expire job => exact turn_expire p job
  | cancel job => exact turn_cancel hp job
  | selectIndex index =>
    simp only [step, selectIndex]
    split <;> exact .warmed .rest
  | submit =>
    simp only [step, submit]
    split <;> exact .warmed .rest
  | _ => exact .warmed .rest

/-! ### Tidy pickers -/

namespace Inside

variable {v : Inside}

lemma Tracked.put (h : v.Tracked) {job : Nat} {s : Option Stage} {out : List Output}
    (hs : s ≠ some (.spawned .load)) : (v.put job s out).Tracked := by
  intro j hj
  by_cases hne : j = job
  · rw [hne, put_stage_self] at hj
    exact absurd hj hs
  · rw [put_stage v hne] at hj
    exact h j hj

lemma Tracked.leave (h : v.Tracked) (line : List Nat) (failure : Option Failure) :
    (v.leave line failure).Tracked := by
  intro j hj
  simp only [Inside.leave] at hj ⊢
  split at hj
  · cases hj
  · rename_i hline
    simp [h j hj, Option.filter_some, hline]

lemma Tracked.next (h : v.Tracked) : v.next.Tracked := by
  cases hline : v.primary.waiting with
  | nil =>
    rw [next_nil hline]
    exact h
  | cons job rest =>
    rw [next_cons hline]
    exact Tracked.put (v := { v with primary := { v.primary with
      waiting := rest, loading := some job, loads := v.primary.loads + 1 } }) h (by simp)

end Inside

/-- Every job has one stage, and a background job that has not begun yet is known. -/
structure Tidy (p : Picker) : Prop extends Sound p where
  tracked : p.inside.Tracked

lemma Warms.tracked {v : Inside} (hp : p.inside.Tracked) (h : p.Warms i v) : v.Tracked := by
  cases h with
  | rest => exact hp
  | spawned _ alone =>
    intro j hj
    by_cases hne : j = p.spare i
    · exact hne ▸ rfl
    · rw [Inside.put_stage _ hne] at hj
      exact absurd (hp j hj) (by simp [inside, alone])

lemma Turn.tracked {v : Inside} (hp : p.inside.Tracked) (h : p.Turn i v) : v.Tracked := by
  have locator (l : Locator) : ({ p.inside with locator := l } : Inside).Tracked := hp
  have primary {x : Primary} (hx : x.background = p.primary.background) :
      ({ p.inside with primary := x } : Inside).Tracked := fun j hj => hx ▸ hp j hj
  cases h with
  | warmed warm => exact warm.tracked hp
  | dispatched => exact hp.put (by simp)
  | asked _ warm search =>
    refine (warm.tracked hp).put fun hs => ?_
    cases hs
    cases search
  | finished _ warm => exact (warm.tracked hp).put (by simp)
  | locating => exact (locator _).put (by simp)
  | describing => exact hp.put (by simp)
  | settled => exact (locator _).put (by simp)
  | givenUp => exact (locator _).put (by simp)
  | served => exact hp.leave _ _
  | loading => exact (primary (by rfl)).put (by simp)
  | queued => exact (primary (by rfl)).put (by simp)
  | loaded => exact (primary (by rfl)).leave _ _
  | failed => exact (hp.leave _ _).next
  | abandoned => exact (hp.put (by simp)).next
  | left => exact (primary (by rfl)).put (by simp)

lemma Tidy.of_step (hp : p.Tidy) (i : Input) : (p.step i).1.Tidy where
  toSound := (moves_step hp.toSound i).sound
  tracked := show (p.step i).inside.Tracked from (turn_step hp.tracked i).tracked hp.tracked

lemma tidy_new (o : PickerOptions) (primary : Primary) (h : primary.waiting = []) :
    (new o primary).Tidy where
  toSound := sound_new o primary h
  tracked _ hs := by cases hs

/-! ### The job that an input is for -/

lemma le_spare (p : Picker) (i : Input) : p.nextJob ≤ p.spare i := by
  cases i with
  | start call => exact Nat.le_succ _
  | _ => exact Nat.le_refl _

lemma Seeks.stage (hp : p.Sound) (h : p.Seeks i job) {s : Stage} (hs : p.stage? job = some s) :
    s.isSearch = true := by
  cases h with
  | started => simp [hp.stage?_nextJob] at hs
  | begun stage => rw [stage] at hs; cases hs; rfl
  | predicted stage => rw [stage] at hs; cases hs; rfl
  | searched stage => rw [stage] at hs; cases hs; rfl
  | cancelled stage search => rw [stage] at hs; cases hs; exact search

lemma Seeks.lt_spare (hp : p.Sound) (h : p.Seeks i job) : job < p.spare i := by
  cases h with
  | started => exact Nat.lt_succ_self _
  | begun stage => exact hp.fresh _ _ stage
  | predicted stage => exact hp.fresh _ _ stage
  | searched stage => exact hp.fresh _ _ stage
  | cancelled stage => exact hp.fresh _ _ stage

lemma Settles.stage {fill : Bool} {l : Locator} (hp : p.Sound) (h : p.Settles i job fill l)
    {s : Stage} (hs : p.stage? job = some s) : s.isLocating = true := by
  cases h with
  | known => simp [hp.stage?_nextJob] at hs
  | failed stage => rw [stage] at hs; cases hs; rfl
  | expired stage => rw [stage] at hs; cases hs; rfl
  | found stage => rw [stage] at hs; cases hs; rfl

lemma Arrives.stage (hp : p.Sound) (h : p.Arrives i job) {s : Stage}
    (hs : p.stage? job = some s) : s = .spawned .load := by
  cases h with
  | called => simp [hp.stage?_nextJob] at hs
  | begun stage => rw [stage] at hs; cases hs; rfl

/-- Warming up leaves the jobs alone that are there. -/
lemma Warms.stage (h : p.Warms i v) {j : Nat} (hj : j ≠ p.spare i) : v.stage j = p.stage? j := by
  cases h with
  | rest => rfl
  | spawned => exact Inside.put_stage _ hj

namespace Inside

/-- The same jobs are at stages of a kind. -/
def Same (kind : Stage → Bool) (v w : Inside) : Prop :=
  ∀ j s, kind s = true → (w.stage j = some s ↔ v.stage j = some s)

variable {v : Inside} {kind : Stage → Bool}

/-- A job that is at a stage of another kind is at none of this kind. -/
lemma other_of_stage {job : Nat} {s : Stage} (stage : v.stage job = some s)
    (other : kind s = false) (t : Stage) (ht : v.stage job = some t) : kind t = false := by
  obtain rfl := Option.some.inj (ht.symm.trans stage)
  exact other

lemma same_put {job : Nat} {s : Option Stage} {out : List Output}
    (hold : ∀ t, v.stage job = some t → kind t = false)
    (hnew : ∀ t, s = some t → kind t = false) : Same kind v (v.put job s out) := by
  intro j t ht
  by_cases hj : j = job
  · rw [hj, put_stage_self]
    constructor
    · intro h
      simp [hnew t h] at ht
    · intro h
      simp [hold t h] at ht
  · rw [put_stage _ hj]

lemma same_put_none {job : Nat} {out : List Output}
    (hold : ∀ t, v.stage job = some t → kind t = false) : Same kind v (v.put job none out) :=
  same_put hold fun _ ht => by cases ht

end Inside

end Picker

end Whereto
