import Whereto.Proofs.Picker.Questions

/-!
Loading the predictor. One job at a time runs a load, and those that come meanwhile stand in line.
-/

namespace Whereto.Picker

namespace Inside

variable {v w : Inside} {job : Nat} {s : Option Stage} {out : List Output}

/-- Who is in line, and where the background job is. -/
structure Lined (v : Inside) : Prop where
  queued : ∀ j, j ∈ v.primary.waiting ↔ v.stage j = some .queued
  line : v.primary.waiting.Nodup
  background : ∀ j, v.primary.background = some j → ∃ s, v.stage j = some s ∧ s.isLoad = true

/-- One job at a time runs a load, as long as there is no predictor; those that wait for it stand
in line. -/
structure Orderly (v : Inside) : Prop extends Lined v where
  loading : ∀ j, v.primary.loading = some j ↔ v.stage j = some .loading
  busy : v.primary.loading = none → v.primary.waiting = []
  ready : v.primary.isReady = true → v.primary.loading = none

lemma Orderly.loading_unique {j k : Nat} (h : Orderly v) (hj : v.stage j = some .loading)
    (hk : v.stage k = some .loading) : j = k :=
  Option.some.inj (((h.loading j).mpr hj).symm.trans ((h.loading k).mpr hk))

/-- As long as a load is under way, there is no predictor. -/
lemma Orderly.unready {j : Nat} (h : Orderly v) (hj : v.stage j = some .loading) :
    v.primary.isReady = false := by
  cases hready : v.primary.isReady with
  | false => rfl
  | true => exact absurd (h.ready hready) (by simp [(h.loading j).mpr hj])

/-- Moving a job is of no concern to a stage that it does not leave and does not get to. -/
lemma stage_iff_update {f : Nat → Option Stage} {t : Stage} (hold : f job ≠ some t)
    (hnew : s ≠ some t) (j : Nat) : f j = some t ↔ Function.update f job s j = some t := by
  by_cases hj : j = job
  · simp [hj, hold, hnew]
  · rw [Function.update_of_ne hj]

lemma Orderly.of_same (h : Orderly v) (hprimary : w.primary = v.primary)
    (hsame : Same Stage.isLoad v w) : Orderly w where
  queued j := by rw [hprimary, h.queued, hsame j .queued rfl]
  line := by rw [hprimary]; exact h.line
  background j hj := by
    obtain ⟨s, hs, hload⟩ := h.background j (hprimary ▸ hj)
    exact ⟨s, (hsame j s hload).mpr hs, hload⟩
  loading j := by rw [hprimary, h.loading, hsame j .loading rfl]
  busy := by rw [hprimary]; exact h.busy
  ready := by rw [hprimary]; exact h.ready

lemma lined_leave {line : List Nat} {failure : Option Failure}
    (queued : ∀ j, j ∈ v.primary.waiting ↔ v.stage j = some .queued ∧ j ∉ line)
    (nodup : v.primary.waiting.Nodup)
    (background : ∀ j, v.primary.background = some j → ∃ s, v.stage j = some s ∧ s.isLoad = true) :
    Lined (v.leave line failure) where
  queued j := by
    by_cases hj : j ∈ line <;> simp [leave, queued, hj]
  line := nodup
  background j hj := by
    simp only [leave, Option.filter_eq_some_iff, decide_eq_true_eq] at hj ⊢
    simpa [hj.2] using background j hj.1

lemma orderly_load
    (queued : ∀ j, j ∈ v.primary.waiting ↔ v.stage j = some .queued ∧ j ≠ job)
    (line : v.primary.waiting.Nodup)
    (background : ∀ j, v.primary.background = some j → ∃ s, v.stage j = some s ∧ s.isLoad = true)
    (nobody : ∀ j, v.stage j ≠ some .loading) (unready : v.primary.isReady = false) :
    Orderly (v.load job) where
  queued j := by
    by_cases hj : j = job
    · simp [load, put, hj, queued]
    · simp [load, put, hj, queued]
  line := line
  background j hj := by
    by_cases hne : j = job
    · exact ⟨.loading, by simp [load, hne], rfl⟩
    · simpa [load, put, hne] using background j hj
  loading j := by
    by_cases hj : j = job
    · simp [load, put, hj]
    · simp [load, put, hj, nobody, Ne.symm hj]
  busy h := by cases h
  ready h := by
    have : v.primary.isReady = true := h
    simp [unready] at this

lemma orderly_next (h : Lined v) (nobody : ∀ j, v.stage j ≠ some .loading)
    (unready : v.primary.isReady = false) : Orderly v.next := by
  cases hline : v.primary.waiting with
  | nil =>
    rw [next_nil hline]
    exact ⟨⟨h.queued, h.line, h.background⟩, fun j => by simp [nobody], fun _ => hline,
      fun _ => rfl⟩
  | cons job rest =>
    have hnodup := List.nodup_cons.mp (hline ▸ h.line)
    rw [next_cons hline]
    refine orderly_load (fun j => ?_) hnodup.2 h.background nobody unready
    rw [← h.queued j, hline]
    constructor
    · exact fun hj => ⟨List.mem_cons_of_mem job hj, fun hne => hnodup.1 (hne ▸ hj)⟩
    · exact fun ⟨hj, hne⟩ => (List.mem_cons.mp hj).resolve_left hne

/-- A job that neither waits nor is the background job may go. -/
lemma Lined.put_none (h : Lined v) (hjob : v.stage job ≠ some .queued)
    (own : v.primary.background ≠ some job) : Lined (v.put job none out) where
  queued j := (h.queued j).trans (stage_iff_update hjob (by simp) j)
  line := h.line
  background j hj := by
    have hne : j ≠ job := fun h => own (h ▸ hj)
    rw [put_stage _ hne]
    exact h.background j hj

lemma Lined.leave_one (h : Lined v) (hjob : v.stage job ≠ some .queued)
    (failure : Option Failure) : Lined (v.leave [job] failure) := by
  refine lined_leave (fun j => ?_) h.line h.background
  rw [h.queued, List.mem_singleton]
  exact ⟨fun hs => ⟨hs, fun hj => hjob (hj ▸ hs)⟩, And.left⟩

/-! ### What keeps the order -/

lemma Orderly.relocate (h : Orderly v) (l : Locator) : Orderly { v with locator := l } :=
  ⟨⟨h.queued, h.line, h.background⟩, h.loading, h.busy, h.ready⟩

/-- A job goes on that has nothing to do with loads. -/
lemma Orderly.move (h : Orderly v) (hold : ∀ t, v.stage job = some t → t.isLoad = false)
    (hnew : ∀ t, s = some t → t.isLoad = false) : Orderly (v.put job s out) :=
  h.of_same rfl (same_put hold hnew)

/-- The background job is spawned. -/
lemma Orderly.spawn (h : Orderly v) (fresh : v.stage job = none) :
    Orderly ({ v with primary := { v.primary with background := some job } }.put job
      (some (.spawned .load)) out) where
  queued j := by
    have hjob : v.stage job ≠ some .queued := by simp [fresh]
    exact (h.queued j).trans (stage_iff_update hjob (by simp) j)
  line := h.line
  background j hj := by
    obtain rfl : job = j := by simpa [put] using hj
    exact ⟨.spawned .load, put_stage_self _, rfl⟩
  loading j := by
    have hjob : v.stage job ≠ some .loading := by simp [fresh]
    exact (h.loading j).trans (stage_iff_update hjob (by simp) j)
  busy := h.busy
  ready := h.ready

section arrivals

variable (h : Orderly v) (hold : ∀ t, v.stage job = some t → t = .spawned .load)
include hold

lemma stage_ne_of_arrives {t : Stage} (ht : t ≠ .spawned .load) : v.stage job ≠ some t :=
  fun hs => ht (hold t hs)

include h

/-- A job that comes for the predictor finds it loaded. -/
lemma Orderly.serve : Orderly (v.leave [job] none) where
  toLined := h.leave_one (stage_ne_of_arrives hold (by simp)) none
  loading j := by
    have hjob : v.stage job ≠ some .loading := stage_ne_of_arrives hold (by simp)
    rw [leave_singleton]
    exact (h.loading j).trans (stage_iff_update hjob (by simp) j)
  busy := h.busy
  ready := h.ready

/-- A job that comes for the predictor loads it. -/
lemma Orderly.load (unready : v.primary.isReady = false) (idle : v.primary.loading = none) :
    Orderly (v.load job) := by
  have hjob : v.stage job ≠ some .queued := stage_ne_of_arrives hold (by simp)
  refine orderly_load (fun j => ?_) h.line h.background (fun j hj => ?_) unready
  · rw [h.queued]
    exact ⟨fun hs => ⟨hs, fun hj => hjob (hj ▸ hs)⟩, And.left⟩
  · simp [(h.loading j).mpr hj] at idle

/-- A job that comes for the predictor gets in line. -/
lemma Orderly.enqueue {k : Nat} (unready : v.primary.isReady = false)
    (busy : v.primary.loading = some k) :
    Orderly ({ v with primary := { v.primary with
      waiting := v.primary.waiting ++ [job] } }.put job (some .queued) out) where
  queued j := by
    by_cases hj : j = job
    · simp [put, hj]
    · simpa [put, hj] using h.queued j
  line := by
    have hjob : job ∉ v.primary.waiting := fun hj =>
      stage_ne_of_arrives hold (by simp) ((h.queued job).mp hj)
    refine List.nodup_append.mpr ⟨h.line, List.pairwise_singleton _ job, fun a ha b hb hab => ?_⟩
    rw [hab, List.mem_singleton.mp hb] at ha
    exact hjob ha
  background j hj := by
    by_cases hne : j = job
    · exact ⟨.queued, by simp [hne], rfl⟩
    · rw [put_stage _ hne]
      exact h.background j hj
  loading j := by
    have hjob : v.stage job ≠ some .loading := stage_ne_of_arrives hold (by simp)
    exact (h.loading j).trans (stage_iff_update hjob (by simp) j)
  busy idle := absurd (busy.symm.trans idle) (by simp)
  ready hready := absurd (unready.symm.trans hready) (by simp)

end arrivals

section departures

variable (h : Orderly v) (stage : v.stage job = some .loading)
include h stage

/-- While a job loads, no other one does. -/
lemma Orderly.alone {j : Nat} (hj : j ≠ job) : v.stage j ≠ some .loading :=
  fun hs => hj (h.loading_unique hs stage)

/-- The load succeeds. -/
lemma Orderly.loaded : Orderly (v.ready job) where
  toLined := lined_leave
    (fun j => by
      have hqueued := h.queued j
      simp +contextual [← hqueued])
    List.nodup_nil h.background
  loading j := by
    have halone := h.alone stage (j := j)
    simp +contextual [Inside.ready, leave, halone]
  busy _ := rfl
  ready _ := rfl

/-- The load fails, and the next in line tries. -/
lemma Orderly.fail (failure : Option Failure) : Orderly (v.leave [job] failure).next := by
  refine orderly_next (h.leave_one (by simp [stage]) failure) (fun j hj => ?_) (h.unready stage)
  by_cases hne : j = job
  · simp [leave, hne] at hj
  · exact h.alone stage hne (by simpa [leave, hne] using hj)

/-- The job that loads is gone, and the next in line tries. -/
lemma Orderly.abandon (own : v.primary.background ≠ some job) :
    Orderly (v.put job none out).next := by
  refine orderly_next (h.put_none (by simp [stage]) own) (fun j hj => ?_) (h.unready stage)
  by_cases hne : j = job
  · simp [hne] at hj
  · exact h.alone stage hne ((put_stage _ hne).symm.trans hj)

end departures

/-- A job leaves the line. -/
lemma Orderly.quit (h : Orderly v) (stage : v.stage job = some .queued)
    (own : v.primary.background ≠ some job) :
    Orderly ({ v with primary := { v.primary with
      waiting := v.primary.waiting.filter (· ≠ job) } }.put job none out) where
  queued j := by
    have hqueued := h.queued j
    by_cases hj : j = job <;> simp [put, hj, ← hqueued]
  line := h.line.filter _
  background j hj := by
    have hne : j ≠ job := fun hj' => own (hj' ▸ hj)
    rw [put_stage _ hne]
    exact h.background j hj
  loading j := by
    have hjob : v.stage job ≠ some .loading := by simp [stage]
    exact (h.loading j).trans (stage_iff_update hjob (by simp) j)
  busy idle := by
    have hwaiting : v.primary.waiting = [] := h.busy idle
    simp [put, hwaiting]
  ready := h.ready

end Inside

open Inside

variable {p : Picker} {i : Input} {v : Inside}

/-! ### Steps -/

lemma Warms.orderly (hp : p.Sound) (h : p.Warms i v) (ho : p.inside.Orderly) : v.Orderly := by
  cases h with
  | rest => exact ho
  | spawned unready alone =>
    refine ho.spawn (Option.eq_none_iff_forall_ne_some.mpr fun s hs => ?_)
    exact absurd (hp.fresh _ s hs) (Nat.not_lt.mpr (le_spare p i))

lemma Turn.orderly (hp : p.Sound) (ho : p.inside.Orderly) (h : p.Turn i v) : v.Orderly := by
  have fresh (t : Stage) (ht : p.inside.stage p.nextJob = some t) : t.isLoad = false :=
    absurd ht (by simp [hp.stage?_nextJob])
  cases h with
  | warmed warm => exact warm.orderly hp ho
  | dispatched => exact ho.move fresh (by rintro _ ⟨⟩; rfl)
  | @asked _ job _ _ _ h warm search =>
    refine (warm.orderly hp ho).move (fun t ht => ?_) ?_
    · rw [warm.stage (Nat.ne_of_lt (h.lt_spare hp))] at ht
      exact Stage.isLoad_of_isSearch (h.stage hp ht)
    · rintro _ ⟨⟩
      exact Stage.isLoad_of_isSearch search
  | finished h warm =>
    refine (warm.orderly hp ho).move (fun t ht => ?_) nofun
    rw [warm.stage (Nat.ne_of_lt (h.lt_spare hp))] at ht
    exact Stage.isLoad_of_isSearch (h.stage hp ht)
  | locating => exact (ho.relocate _).move fresh (by rintro _ ⟨⟩; rfl)
  | describing stage => exact ho.move (other_of_stage stage rfl) (by rintro _ ⟨⟩; rfl)
  | settled h =>
    exact (ho.relocate _).move (fun t ht => Stage.isLoad_of_isLocating (h.stage hp ht)) nofun
  | givenUp stage locating =>
    exact (ho.relocate _).move (other_of_stage stage (Stage.isLoad_of_isLocating locating)) nofun
  | served h => exact ho.serve fun _ => h.stage hp
  | loading h unready idle => exact ho.load (fun _ => h.stage hp) unready idle
  | queued h unready busy => exact ho.enqueue (fun _ => h.stage hp) unready busy
  | loaded stage => exact ho.loaded stage
  | failed stage => exact ho.fail stage _
  | abandoned stage own => exact ho.abandon stage own
  | left stage own => exact ho.quit stage own

lemma orderly_step (hp : p.Tidy) (ho : p.inside.Orderly) (i : Input) :
    (p.step i).1.inside.Orderly := by
  have h := (turn_step hp.tracked i).orderly hp.toSound ho
  exact h.of_same rfl fun _ _ _ => Iff.rfl

end Whereto.Picker
