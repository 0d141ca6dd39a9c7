import Whereto.Proofs.Picker.Jobs

/-!
The table of jobs. Numbers are given out once, so every job has one stage; and those that stand in
line for the predictor wait for nothing else. Therefore a step moves only the job that it is for,
and perhaps those in line: the others stay where they are.
-/

namespace Whereto.Picker

/-! ### Stages -/

section Stages

variable (p : Picker) {j job : Nat} {s : Stage}

lemma stage?_retire (h : j ≠ job) : (p.retire job).stage? j = p.stage? j := by
  unfold retire stage?
  induction p.jobs with
  | nil => rfl
  | cons x l ih =>
    by_cases hx : x.1 = job
    · have hj : (j == x.1) = false := by simpa [hx] using h
      rw [List.filter_cons_of_neg (by simpa using hx), ih, List.lookup_cons, hj]
    · rw [List.filter_cons_of_pos (by simpa using hx), List.lookup_cons, List.lookup_cons, ih]

lemma stage?_retire_self : (p.retire job).stage? job = none := by
  rw [stage?, List.lookup_eq_none_iff]
  intro x hx
  have hne : x.1 ≠ job := by simpa using (List.mem_filter.mp hx).2
  simpa using hne.symm

@[simp] lemma stage?_enter_self : (p.enter job s).stage? job = some s := by
  simp [enter, stage?]

lemma stage?_enter (h : j ≠ job) : (p.enter job s).stage? j = p.stage? j := by
  have hj : (j == job) = false := by simpa using h
  rw [← stage?_retire p h]
  simp [enter, stage?, List.lookup_cons, hj]

lemma stage?_spawn_self (e : Errand) :
    (p.spawn e).1.stage? p.nextJob = some (.spawned e) := by
  simp [spawn, stage?]

lemma stage?_dispatch (query : String) :
    (p.step (.dispatch query)).1.stage? p.nextJob =
      some (.spawned (.complete ⟨query, p.field.generation + 1⟩)) :=
  stage?_spawn_self { p with field := p.field.supersede } _

lemma stage?_spawn (e : Errand) (h : j ≠ p.nextJob) :
    (p.spawn e).1.stage? j = p.stage? j := by
  have hj : (j == p.nextJob) = false := by simpa using h
  simp [spawn, stage?, List.lookup_cons, hj]

end Stages

/-! ### Sound pickers -/

/-- Every job has one stage and an old number, and those in line are queued. -/
structure Sound (p : Picker) : Prop where
  keys : (p.jobs.map (·.1)).Nodup
  fresh : ∀ j s, p.stage? j = some s → j < p.nextJob
  line : p.primary.waiting.Nodup
  queued : ∀ j ∈ p.primary.waiting, p.stage? j = some .queued

/-- A job with an old number that is not in line. -/
structure Roams (p : Picker) (job : Nat) : Prop where
  old : job < p.nextJob
  free : job ∉ p.primary.waiting

/-- From one picker to a later one: only jobs of a kind are moved, and soundness is kept. -/
structure Moves (T : Nat → Prop) (p q : Picker) : Prop where
  sound : q.Sound
  nextJob : p.nextJob ≤ q.nextJob
  spares : ∀ j, j < p.nextJob → ¬ T j → q.stage? j = p.stage? j

variable {T : Nat → Prop} {p q r : Picker} {job : Nat} {s : Stage}

lemma stage?_eq_none_iff {j : Nat} : p.stage? j = none ↔ j ∉ p.jobs.map (·.1) := by
  rw [stage?, List.lookup_eq_none_iff, List.mem_map]
  constructor
  · rintro h ⟨x, hx, rfl⟩
    simpa using h x hx
  · intro h x hx
    simpa using fun heq => h ⟨x, hx, heq.symm⟩

lemma Sound.stage?_nextJob (h : p.Sound) : p.stage? p.nextJob = none := by
  cases hs : p.stage? p.nextJob with
  | none => rfl
  | some s => exact absurd (h.fresh _ s hs) (Nat.lt_irrefl _)

lemma Sound.roams (h : p.Sound) (hs : p.stage? job = some s) (hne : s ≠ .queued) :
    p.Roams job where
  old := h.fresh job s hs
  free hmem := hne (by simpa [hs] using h.queued job hmem)

/-- The table is all that soundness of the jobs is about. -/
lemma Sound.congr (h : p.Sound) (hjobs : q.jobs = p.jobs) (hnext : q.nextJob = p.nextJob)
    (hline : q.primary.waiting = p.primary.waiting) : q.Sound := by
  have hstage (j : Nat) : q.stage? j = p.stage? j := by rw [stage?, stage?, hjobs]
  exact ⟨hjobs ▸ h.keys, fun j s hs => hnext ▸ h.fresh j s (hstage j ▸ hs), hline ▸ h.line,
    fun j hj => hstage j ▸ h.queued j (hline ▸ hj)⟩

lemma Moves.refl (h : p.Sound) : Moves T p p := ⟨h, Nat.le_refl _, fun _ _ _ => rfl⟩

lemma Moves.trans (h₁ : Moves T p q) (h₂ : Moves T q r) : Moves T p r where
  sound := h₂.sound
  nextJob := Nat.le_trans h₁.nextJob h₂.nextJob
  spares j hj hT :=
    (h₂.spares j (Nat.lt_of_lt_of_le hj h₁.nextJob) hT).trans (h₁.spares j hj hT)

/-- What a move leaves is the table, so nothing else of the pickers matters. -/
lemma Moves.congr {q' : Picker} (h : Moves T p q) (hjobs : q'.jobs = q.jobs)
    (hnext : q'.nextJob = q.nextJob) (hline : q'.primary.waiting = q.primary.waiting) :
    Moves T p q' where
  sound := h.sound.congr hjobs hnext hline
  nextJob := hnext ▸ h.nextJob
  spares j hj hT := by
    rw [← h.spares j hj hT, stage?, stage?, hjobs]

/-! ### One job -/

lemma moves_retire (hp : p.Sound) (hjob : job ∉ p.primary.waiting) (hT : T job) :
    Moves T p (p.retire job) where
  sound := {
    keys := (hp.keys.sublist ((List.filter_sublist).map _))
    fresh := fun j s hs => by
      by_cases hj : j = job
      · rw [hj, stage?_retire_self] at hs
        cases hs
      · exact hp.fresh j s (stage?_retire p hj ▸ hs)
    line := hp.line
    queued := fun j hj => by
      have hne : j ≠ job := fun h => hjob (h ▸ hj)
      rw [stage?_retire p hne]
      exact hp.queued j hj }
  nextJob := Nat.le_refl _
  spares j _ hj := stage?_retire p fun h => hj (h ▸ hT)

lemma moves_enter (hp : p.Sound) (hold : job < p.nextJob)
    (hs : job ∈ p.primary.waiting → s = .queued) (hT : T job) : Moves T p (p.enter job s) where
  sound := {
    keys := by
      refine List.nodup_cons.mpr ⟨?_, hp.keys.sublist ((List.filter_sublist).map _)⟩
      exact stage?_eq_none_iff.mp (stage?_retire_self p)
    fresh := fun j s' hs' => by
      by_cases hj : j = job
      · exact hj ▸ hold
      · exact hp.fresh j s' (stage?_enter p hj ▸ hs')
    line := hp.line
    queued := fun j hj => by
      by_cases hne : j = job
      · rw [hne, stage?_enter_self, hs (hne ▸ hj)]
      · rw [stage?_enter p hne]
        exact hp.queued j hj }
  nextJob := Nat.le_refl _
  spares j _ hj := stage?_enter p fun h => hj (h ▸ hT)

lemma moves_spawn (hp : p.Sound) (e : Errand) : Moves T p (p.spawn e).1 where
  sound := {
    keys := List.nodup_cons.mpr ⟨stage?_eq_none_iff.mp hp.stage?_nextJob, hp.keys⟩
    fresh := fun j s hs => by
      by_cases hj : j = p.nextJob
      · exact hj ▸ Nat.lt_succ_self _
      · exact Nat.lt_succ_of_lt (hp.fresh j s (stage?_spawn p e hj ▸ hs))
    line := hp.line
    queued := fun j hj => by
      have hs := hp.queued j hj
      rw [stage?_spawn p e (Nat.ne_of_lt (hp.fresh j _ hs))]
      exact hs }
  nextJob := Nat.le_succ _
  spares j hj _ := stage?_spawn p e (Nat.ne_of_lt hj)

/-! ### Loading the predictor -/

lemma moves_warmUp (hp : p.Sound) : Moves T p p.warmUp.1 := by
  unfold warmUp
  split
  · exact .refl hp
  · exact (moves_spawn hp .load).congr rfl rfl rfl

lemma moves_startLoad (hp : p.Sound) (hjob : p.Roams job) (hT : T job) :
    Moves T p (p.startLoad job).1 :=
  (moves_enter hp hjob.old (fun h => absurd h hjob.free) hT).congr rfl rfl rfl

lemma moves_leave (hp : p.Sound) (hjob : job ∉ p.primary.waiting) (hT : T job)
    (failure : Option Failure) : Moves T p (p.leave job failure).1 := by
  unfold leave
  split
  · exact (moves_retire hp hjob hT).congr rfl rfl rfl
  · exact moves_retire hp hjob hT

lemma moves_ensureReady (hp : p.Sound) (hjob : p.Roams job) (hT : T job) :
    Moves T p (p.ensureReady job).1 := by
  unfold ensureReady
  split
  · exact moves_leave hp hjob.free hT none
  · split
    · exact moves_startLoad hp hjob hT
    · -- the job joins the line, which it was not in
      have henter := moves_enter hp (s := .queued) hjob.old (fun _ => rfl) hT
      have hline : (p.primary.waiting ++ [job]).Nodup := by
        rw [List.nodup_append]
        refine ⟨hp.line, by simp, fun a ha b hb => ?_⟩
        rw [List.mem_singleton.mp hb]
        rintro rfl
        exact hjob.free ha
      refine ⟨⟨henter.sound.keys, henter.sound.fresh, hline, fun j hj => ?_⟩, henter.nextJob,
        henter.spares⟩
      rcases List.mem_append.mp hj with hold | hnew
      · exact henter.sound.queued j hold
      · rw [List.mem_singleton.mp hnew]
        exact stage?_enter_self p

lemma moves_loadNext (hp : p.Sound) (hT : ∀ j ∈ p.primary.waiting, T j) :
    Moves T p p.loadNext.1 := by
  unfold loadNext
  split
  · exact (Moves.refl hp).congr rfl rfl rfl
  · rename_i job rest hline
    have hnodup := List.nodup_cons.mp (hline ▸ hp.line)
    have hold := hp.fresh job _ (hp.queued job (by simp [hline]))
    have hrest : Sound { p with primary := { p.primary with waiting := rest } } :=
      ⟨hp.keys, hp.fresh, hnodup.2, fun j hj =>
        hp.queued j (by rw [hline]; exact List.mem_cons_of_mem job hj)⟩
    have hjob : Roams { p with primary := { p.primary with waiting := rest } } job :=
      ⟨hold, hnodup.1⟩
    have h := moves_startLoad hrest hjob (hT job (by simp [hline]))
    exact ⟨h.sound, h.nextJob, h.spares⟩

lemma moves_line (line : List Nat) (hT : ∀ j ∈ line, T j) {st : Step} (h : Moves T p st.1)
    (hempty : st.1.primary.waiting = []) :
    Moves T p (line.foldl (fun s j => andThen s (leave · j none)) st).1 := by
  induction line generalizing st with
  | nil => exact h
  | cons j line ih =>
    refine ih (fun k hk => hT k (List.mem_cons_of_mem j hk)) ?_ ?_
    · exact h.trans (moves_leave h.sound (by simp [hempty]) (hT j List.mem_cons_self) none)
    · change (st.1.leave j none).1.primary.waiting = []
      unfold leave
      split <;> exact hempty

lemma moves_loadDone (hp : p.Sound) (hT : T job) (hline : ∀ j ∈ p.primary.waiting, T j) :
    Moves T p (p.loadDone job).1 := by
  refine moves_line _ (fun j hj => ?_) ⟨?_, Nat.le_refl _, fun _ _ _ => rfl⟩ rfl
  · rcases List.mem_cons.mp hj with rfl | hj
    · exact hT
    · exact hline j hj
  · exact ⟨hp.keys, hp.fresh, List.nodup_nil, nofun⟩

lemma moves_loadFailed (hp : p.Sound) (hjob : job ∉ p.primary.waiting) (hT : T job)
    (hline : ∀ j ∈ p.primary.waiting, T j) (e : Failure) : Moves T p (p.loadFailed job e).1 := by
  have hleave := moves_leave hp hjob hT (some e)
  have hwaiting : (p.leave job (some e)).1.primary.waiting = p.primary.waiting := by
    unfold leave
    split <;> rfl
  exact hleave.trans (moves_loadNext hleave.sound (by rwa [hwaiting]))

/-! ### Looking up suggestions -/

lemma moves_conclude (hp : p.Sound) (hjob : job ∉ p.primary.waiting) (hT : T job)
    (purpose : Purpose) (found : List Suggestion) :
    Moves T p (p.conclude job purpose found).1 := by
  have hretire := moves_retire hp hjob hT
  unfold conclude
  split
  · split
    · exact hretire.congr rfl rfl rfl
    · exact hretire
  · exact hretire
  · exact hretire

lemma moves_search (hp : p.Sound) (hjob : p.Roams job) (hT : T job) (query : String)
    (purpose : Purpose) : Moves T p (p.search job query purpose).1 :=
  moves_enter hp hjob.old (fun h => absurd h hjob.free) hT

lemma moves_fallBack (hp : p.Sound) (hjob : p.Roams job) (hT : T job) (query : String)
    (purpose : Purpose) : Moves T p (p.fallBack job query purpose).1 := by
  unfold fallBack
  split
  · exact moves_conclude hp hjob.free hT _ []
  · exact moves_search hp hjob hT query _

lemma moves_lookup (hp : p.Sound) (hjob : p.Roams job) (hT : T job) (query : String)
    (purpose : Purpose) : Moves T p (p.lookup job query purpose).1 := by
  unfold lookup
  split
  · exact moves_enter hp hjob.old (fun h => absurd h hjob.free) hT
  · have hwarm := moves_warmUp (T := T) hp
    have hline : p.warmUp.1.primary.waiting = p.primary.waiting := by
      unfold warmUp
      split <;> rfl
    exact hwarm.trans (moves_fallBack hwarm.sound
      ⟨Nat.lt_of_lt_of_le hjob.old hwarm.nextJob, hline ▸ hjob.free⟩ hT query purpose)

lemma moves_complete (hp : p.Sound) (hjob : p.Roams job) (hT : T job) (t : Ticket) :
    Moves T p (p.complete job t).1 := by
  unfold complete
  split
  · exact moves_conclude hp hjob.free hT _ []
  · exact moves_lookup hp hjob hT t.query _

/-! ### Locating the device -/

lemma moves_settle (hp : p.Sound) (hjob : job ∉ p.primary.waiting) (hT : T job) (l : Locator)
    (fill : Bool) : Moves T p ({ p with locator := l }.settle job fill).1 := by
  have hretire := moves_retire hp hjob hT
  unfold settle
  split
  · split
    · exact hretire.congr rfl rfl rfl
    · split <;> exact hretire.congr rfl rfl rfl
  · exact hretire.congr rfl rfl rfl

lemma moves_locate (hp : p.Sound) (hjob : p.Roams job) (hT : T job) (fill : Bool) :
    Moves T p (p.locate job fill).1 := by
  unfold locate
  split
  · exact moves_settle hp hjob.free hT p.locator fill
  · exact (moves_enter hp hjob.old (fun h => absurd h hjob.free) hT).congr rfl rfl rfl

/-! ### Steps -/

/-- The jobs that an input may move: the one that it goes to, and those in line. -/
def Reaches (p : Picker) (i : Input) (j : Nat) : Prop :=
  i.job? = some j ∨ j ∈ p.primary.waiting

lemma moves_start (hp : p.Sound) (call : Call) : Moves T p (p.start call).1 := by
  have hq : Sound { p with nextJob := p.nextJob + 1 } :=
    ⟨hp.keys, fun j s hs => Nat.lt_succ_of_lt (hp.fresh j s hs), hp.line, hp.queued⟩
  have hfree : p.nextJob ∉ p.primary.waiting := fun h => by
    have := hp.queued _ h
    rw [hp.stage?_nextJob] at this
    cases this
  have hjob : Roams { p with nextJob := p.nextJob + 1 } p.nextJob := ⟨Nat.lt_succ_self _, hfree⟩
  have h : Moves (Eq p.nextJob) { p with nextJob := p.nextJob + 1 } (p.start call).1 := by
    cases call with
    | complete t => exact moves_complete hq hjob rfl t
    | handle query =>
      have h := moves_complete
        (p := { p with nextJob := p.nextJob + 1, field := p.field.supersede }) (T := Eq p.nextJob)
        (hq.congr rfl rfl rfl) ⟨hjob.old, hjob.free⟩ rfl ⟨query, p.field.generation + 1⟩
      exact ⟨h.sound, h.nextJob, h.spares⟩
    | lookup query => exact moves_lookup hq hjob rfl query _
    | predict query => exact moves_lookup hq hjob rfl query _
    | fallback query => exact moves_search hq hjob rfl query _
    | ensureReady => exact moves_ensureReady hq hjob rfl
    | locate => exact moves_locate hq hjob rfl false
    | useLocation => exact moves_locate hq hjob rfl true
  exact ⟨h.sound, Nat.le_of_succ_le h.nextJob, fun j hj _ =>
    h.spares j (Nat.lt_succ_of_lt hj) (Nat.ne_of_gt hj)⟩

lemma moves_begin (hp : p.Sound) (job : Nat) :
    Moves (p.Reaches (.begin job)) p (p.begin job).1 := by
  have hT : p.Reaches (.begin job) job := .inl rfl
  unfold begin
  split
  · rename_i hstage
    exact moves_ensureReady hp (hp.roams hstage nofun) hT
  · rename_i t hstage
    exact moves_complete hp (hp.roams hstage nofun) hT t
  · exact .refl hp

lemma moves_reply (hp : p.Sound) (job : Nat) (r : Reply) :
    Moves (p.Reaches (.reply job r)) p (p.reply job r).1 := by
  have hT : p.Reaches (.reply job r) job := .inl rfl
  have hline : ∀ j ∈ p.primary.waiting, p.Reaches (.reply job r) j := fun _ => .inr
  unfold reply
  split
  · exact moves_loadDone hp hT hline
  · rename_i hstage
    exact moves_loadFailed hp (hp.roams hstage nofun).free hT hline _
  · rename_i query purpose result hstage
    dsimp only
    split
    · exact moves_fallBack hp (hp.roams hstage nofun) hT query purpose
    · exact moves_conclude hp (hp.roams hstage nofun).free hT purpose _
  · rename_i purpose result hstage
    exact moves_conclude hp (hp.roams hstage nofun).free hT purpose _
  · rename_i fill x hstage
    have hjob := hp.roams hstage nofun
    exact moves_enter hp hjob.old (fun h => absurd h hjob.free) hT
  · rename_i fill e hstage
    exact moves_settle hp (hp.roams hstage nofun).free hT _ fill
  · rename_i x fill result hstage
    exact moves_settle hp (hp.roams hstage nofun).free hT _ fill
  · exact .refl hp

lemma moves_expire (hp : p.Sound) (job : Nat) :
    Moves (p.Reaches (.expire job)) p (p.expire job).1 := by
  unfold expire
  split
  · rename_i fill hstage
    exact moves_settle hp (hp.roams hstage nofun).free (.inl rfl) _ fill
  · exact .refl hp

lemma moves_cancel (hp : p.Sound) (job : Nat) :
    Moves (p.Reaches (.cancel job)) p (p.cancel job).1 := by
  have hT : p.Reaches (.cancel job) job := .inl rfl
  have retire {s : Stage} (hs : p.stage? job = some s) (hne : s ≠ .queued) :
      Moves (p.Reaches (.cancel job)) p (p.retire job) :=
    moves_retire hp (hp.roams hs hne).free hT
  unfold cancel
  split
  · exact .refl hp
  · split
    · exact .refl hp
    · rename_i hstage
      have h := retire hstage nofun
      exact h.trans (moves_loadNext h.sound fun _ => .inr)
    · -- the job leaves the line
      have hq : Sound { p with primary := { p.primary with
          waiting := p.primary.waiting.filter (· ≠ job) } } :=
        ⟨hp.keys, hp.fresh, hp.line.sublist List.filter_sublist, fun j hj =>
          hp.queued j (List.mem_filter.mp hj).1⟩
      have h := moves_retire (T := p.Reaches (.cancel job)) hq (by simp) hT
      exact ⟨h.sound, h.nextJob, h.spares⟩
    · rename_i hstage
      exact (retire hstage nofun).congr rfl rfl rfl
    · rename_i hstage
      exact (retire hstage nofun).congr rfl rfl rfl
    · rename_i hqueued _ _ hstage
      exact retire hstage hqueued

/-- **What a step moves**: the job that the input goes to, and perhaps those in line. All others
stay where they are, and every job keeps a number of its own. -/
theorem moves_step (hp : p.Sound) (i : Input) : Moves (p.Reaches i) p (p.step i).1 := by
  have field (q : Picker) (hjobs : q.jobs = p.jobs) (hnext : q.nextJob = p.nextJob)
      (hline : q.primary.waiting = p.primary.waiting) : Moves (p.Reaches i) p q :=
    (Moves.refl hp).congr hjobs hnext hline
  cases i with
  | start call => exact moves_start hp call
  | begin job => exact moves_begin hp job
  | reply job r => exact moves_reply hp job r
  | expire job => exact moves_expire hp job
  | cancel job => exact moves_cancel hp job
  | warmUp => exact moves_warmUp hp
  | dispatch query =>
    have h := moves_spawn (T := p.Reaches (.dispatch query)) (p := { p with
      field := p.field.supersede }) (hp.congr rfl rfl rfl)
      (.complete ⟨query, p.field.generation + 1⟩)
    exact ⟨h.sound, h.nextJob, h.spares⟩
  | selectIndex index =>
    simp only [step, selectIndex]
    split <;> exact field _ rfl rfl rfl
  | submit =>
    simp only [step, submit]
    split <;> exact .refl hp
  | _ => exact field _ rfl rfl rfl

/-- A spawned job waits until it begins. -/
lemma spawned_stays {i : Input} {e : Errand} (hp : p.Sound)
    (hs : p.stage? job = some (.spawned e)) (hbegin : i ≠ .begin job)
    (hcancel : i ≠ .cancel job) : (p.step i).1.stage? job = some (.spawned e) := by
  by_cases hi : i.job? = some job
  · cases i with
    | begin j => simp_all [Input.job?]
    | cancel j => simp_all [Input.job?]
    | reply j r =>
      obtain rfl : j = job := by simpa [Input.job?] using hi
      have hstep : p.step (.reply j r) = (p, []) := by simp [step, reply, hs]
      rw [hstep]
      exact hs
    | expire j =>
      obtain rfl : j = job := by simpa [Input.job?] using hi
      have hstep : p.step (.expire j) = (p, []) := by simp [step, expire, hs]
      rw [hstep]
      exact hs
    | _ => cases hi
  · rw [(moves_step hp i).spares job (hp.fresh job _ hs)]
    · exact hs
    · rintro (h | h)
      · exact hi h
      · exact (hp.roams hs (by simp)).free h

lemma sound_new (o : PickerOptions) (primary : Primary) (h : primary.waiting = []) :
    (new o primary).Sound where
  keys := List.nodup_nil
  fresh _ _ h := by cases h
  line := by simp [new, h]
  queued j hj := by simp [new, h] at hj

end Whereto.Picker
