import Whereto.Proofs.Picker.Position
import Whereto.Proofs.Picker.Questions

/-!
Looking the position up. The locator is busy exactly while a job waits for the device or for the
geocoder, and there is one such job at most, whoever else calls and whichever job is dropped. What
it knows is what the latest lookup has found that came to its end.
-/

namespace Whereto.Picker

namespace Inside

variable {v w : Inside} {kind : Stage → Bool}

/-! ### Stages of a kind -/

lemma Same.trans {u : Inside} (h : Same kind u v) (h' : Same kind v w) : Same kind u w :=
  fun j s hs => (h' j s hs).trans (h j s hs)

lemma same_leave {line : List Nat} {failure : Option Failure}
    (h : ∀ j ∈ line, ∀ s, v.stage j = some s → kind s = false) :
    Same kind v (v.leave line failure) := by
  intro j s hs
  by_cases hj : j ∈ line
  · have hne : v.stage j ≠ some s := fun hstage => by simp [h j hj s hstage] at hs
    simp [leave, hj, hne]
  · simp [leave, hj]

lemma same_next (h : ∀ j ∈ v.primary.waiting, ∀ s, v.stage j = some s → kind s = false)
    (hkind : kind .loading = false) : Same kind v v.next := by
  cases hline : v.primary.waiting with
  | nil =>
    rw [next_nil hline]
    exact fun _ _ _ => Iff.rfl
  | cons job rest =>
    rw [next_cons hline]
    refine same_put (h job (by simp [hline])) fun t ht => ?_
    cases ht
    exact hkind

/-- The job looks the position up, or its address. -/
def Looks (v : Inside) (job : Nat) : Prop := ∃ s, v.stage job = some s ∧ s.isLocating = true

/-- The locator is busy exactly while a job looks the position up, which then is the only one. -/
structure Attended (v : Inside) : Prop where
  loading : v.locator.loading = v.locator.locating
  error : v.locator.locating = true → v.locator.error = none
  busy : v.locator.locating = true ↔ ∃ job, v.Looks job
  single : ∀ job job', v.Looks job → v.Looks job' → job = job'

lemma Attended.of_same (h : Attended v) (hlocator : w.locator = v.locator)
    (hsame : Same Stage.isLocating v w) : Attended w := by
  have hlooks (job : Nat) : w.Looks job ↔ v.Looks job :=
    exists_congr fun s => and_congr_left fun hs => hsame job s hs
  refine ⟨hlocator ▸ h.loading, hlocator ▸ h.error, ?_, fun j j' hj hj' => ?_⟩
  · rw [hlocator, h.busy]
    exact exists_congr fun job => (hlooks job).symm
  · exact h.single j j' ((hlooks j).mp hj) ((hlooks j').mp hj')

/-- The job that looked the position up does so no longer. -/
lemma Attended.ends {job : Nat} {l : Locator} (h : Attended v) (hjob : v.Looks job)
    (hloading : l.loading = false) (hlocating : l.locating = false) :
    Attended ({ v with locator := l }.put job none []) := by
  have hnone (j : Nat) : ¬ ({ v with locator := l }.put job none []).Looks j := by
    rintro ⟨s, hs, hlook⟩
    by_cases hj : j = job
    · rw [hj, put_stage_self] at hs
      cases hs
    · rw [put_stage _ hj] at hs
      exact hj (h.single j job ⟨s, hs, hlook⟩ hjob)
  have hidle : l.locating ≠ true := by simp [hlocating]
  exact {
    loading := hloading.trans hlocating.symm
    error := fun hbusy => absurd hbusy hidle
    busy := ⟨fun hbusy => absurd hbusy hidle, fun ⟨j, hj⟩ => absurd hj (hnone j)⟩
    single := fun j _ hj => absurd hj (hnone j) }

/-- A job begins to look the position up while no other one does. -/
lemma Attended.begin {job : Nat} {fill : Bool} {out : List Output} (h : Attended v)
    (idle : v.locator.locating = false) :
    Attended ({ v with locator := v.locator.begin }.put job (some (.positioning fill)) out) := by
  have honly (j : Nat) (hj : ({ v with locator := v.locator.begin }.put job
      (some (.positioning fill)) out).Looks j) : j = job := by
    by_contra hne
    obtain ⟨s, hs, hlook⟩ := hj
    rw [put_stage _ hne] at hs
    simp [h.busy.mpr ⟨j, s, hs, hlook⟩] at idle
  exact {
    loading := rfl
    error := fun _ => rfl
    busy := ⟨fun _ => ⟨job, .positioning fill, put_stage_self _, rfl⟩, fun _ => rfl⟩
    single := fun j j' hj hj' => (honly j hj).trans (honly j' hj').symm }

/-- The job that looks the position up goes on with its address. -/
lemma Attended.goesOn {job : Nat} {s : Stage} {out : List Output} (h : Attended v)
    (hjob : v.Looks job) (hs : s.isLocating = true) : Attended (v.put job (some s) out) := by
  have hlooks (j : Nat) : (v.put job (some s) out).Looks j ↔ v.Looks j := by
    by_cases hj : j = job
    · rw [hj]
      exact ⟨fun _ => hjob, fun _ => ⟨s, put_stage_self _, hs⟩⟩
    · simp [Looks, put_stage _ hj]
  exact {
    loading := h.loading
    error := h.error
    busy := h.busy.trans (exists_congr fun j => (hlooks j).symm)
    single := fun j j' hj hj' => h.single j j' ((hlooks j).mp hj) ((hlooks j').mp hj') }

end Inside

open Inside

variable {p : Picker} {i : Input} {v : Inside} {job : Nat}

/-! ### Steps -/

lemma Warms.attended (hp : p.Sound) (h : p.Warms i v) (ha : p.inside.Attended) : v.Attended := by
  cases h with
  | rest => exact ha
  | spawned =>
    refine ha.of_same rfl (same_put (fun t ht => ?_) (by rintro _ ⟨⟩; rfl))
    exact absurd (hp.fresh _ t ht) (Nat.not_lt.mpr (le_spare p i))

lemma Turn.attended (hp : p.Sound) (ha : p.inside.Attended) (h : p.Turn i v) : v.Attended := by
  have fresh {t : Stage} (ht : p.stage? p.nextJob = some t) : t.isLocating = false := by
    simp [hp.stage?_nextJob] at ht
  have arrives {job : Nat} (h : p.Arrives i job) {t : Stage} (ht : p.stage? job = some t) :
      t.isLocating = false := by
    rw [h.stage hp ht]
    rfl
  have waiting {job : Nat} (h : job ∈ p.primary.waiting) {t : Stage}
      (ht : p.stage? job = some t) : t.isLocating = false := by
    obtain rfl := Option.some.inj (ht.symm.trans (hp.queued job h))
    rfl
  cases h with
  | warmed warm => exact warm.attended hp ha
  | dispatched =>
    exact ha.of_same rfl (same_put (fun _ => fresh) (by rintro _ ⟨⟩; rfl))
  | asked h warm search =>
    refine (warm.attended hp ha).of_same rfl (same_put (fun t ht => ?_) ?_)
    · rw [warm.stage (Nat.ne_of_lt (h.lt_spare hp))] at ht
      exact Stage.isLocating_of_isSearch (h.stage hp ht)
    · rintro _ ⟨⟩
      exact Stage.isLocating_of_isSearch search
  | finished h warm =>
    refine (warm.attended hp ha).of_same rfl (same_put_none fun t ht => ?_)
    rw [warm.stage (Nat.ne_of_lt (h.lt_spare hp))] at ht
    exact Stage.isLocating_of_isSearch (h.stage hp ht)
  | locating idle => exact ha.begin idle
  | describing stage => exact ha.goesOn ⟨_, stage, rfl⟩ rfl
  | settled h =>
    cases h with
    | known => exact ha.of_same rfl (same_put_none fun _ => fresh)
    | failed stage => exact ha.ends ⟨_, stage, rfl⟩ rfl rfl
    | expired stage => exact ha.ends ⟨_, stage, rfl⟩ rfl rfl
    | found stage => exact ha.ends ⟨_, stage, rfl⟩ rfl rfl
  | givenUp stage locating => exact ha.ends ⟨_, stage, locating⟩ rfl rfl
  | served h =>
    refine ha.of_same rfl (same_leave fun j hj s hs => ?_)
    rw [List.mem_singleton.mp hj] at hs
    exact arrives h hs
  | loading h => exact ha.of_same rfl (same_put (fun _ => arrives h) (by rintro _ ⟨⟩; rfl))
  | queued h => exact ha.of_same rfl (same_put (fun _ => arrives h) (by rintro _ ⟨⟩; rfl))
  | loaded stage =>
    refine ha.of_same rfl (same_leave fun j hj s hs => ?_)
    rcases List.mem_cons.mp hj with rfl | hj
    · exact other_of_stage stage rfl s hs
    · exact waiting hj hs
  | @failed job e stage =>
    have hleave : Same Stage.isLocating p.inside (p.inside.leave [job] (some e)) :=
      same_leave fun j hj => List.mem_singleton.mp hj ▸ other_of_stage stage rfl
    refine ha.of_same (next_locator _) (hleave.trans (same_next (fun j hj s hs => ?_) rfl))
    simp only [Inside.leave, Option.ite_none_left_eq_some] at hs
    exact waiting hj hs.2
  | @abandoned job stage =>
    have hput : Same Stage.isLocating p.inside (p.inside.put job none []) :=
      same_put_none (other_of_stage stage rfl)
    refine ha.of_same (next_locator _) (hput.trans (same_next (fun j hj s hs => ?_) rfl))
    by_cases hne : j = job
    · simp [hne] at hs
    · rw [put_stage _ hne] at hs
      exact waiting hj hs
  | left stage => exact ha.of_same rfl (same_put_none (other_of_stage stage rfl))

lemma attended_step (hp : p.Tidy) (ha : p.inside.Attended) (i : Input) :
    (p.step i).1.inside.Attended := by
  have h := (turn_step hp.tracked i).attended hp.toSound ha
  exact h.of_same rfl fun _ _ _ => Iff.rfl

lemma attended_new (o : PickerOptions) (primary : Primary) :
    (new o primary).inside.Attended where
  loading := rfl
  error h := by cases h
  busy := by simp [new, inside, Locator.idle, Looks, stage?]
  single job _ h := by
    obtain ⟨s, hs, -⟩ := h
    cases hs

end Whereto.Picker
