import Mathlib.Data.Nat.Count
import Whereto.Proofs.Picker.Priming

/-!
The predictor is loaded once. Loads follow one another until one succeeds; from then on every
prediction is asked of the predictor that it gave. There is one background job at most, from the
moment it is spawned to the moment it is told what came of its load.
-/

namespace Whereto

/-- Nobody loads the predictor or waits for it. -/
def Primary.IsIdle (x : Primary) : Prop :=
  x.loading = none ∧ x.background = none ∧ x.waiting = []

namespace Picker

variable {c : Course step} {k k' n job : ℕ}

/-- A load that was asked for succeeds. -/
def Loaded (c : Course step) (e : ℕ) : Prop :=
  ∃ k job, Pending c k e job .load ∧ c.input e = .reply job (.loaded (.ok ()))

/-- A background job was spawned, and it was not told yet what came of a load. -/
def Warming (c : Course step) (n b : ℕ) : Prop :=
  ∃ k < n, .spawned b .load ∈ c.output k ∧
    ∀ m, k < m → m < n → ∀ r, .finish b (.ready r) ∉ c.output m

open Classical in
/-- How many loads were asked for before a position. -/
noncomputable def loadsBefore (c : Course step) (n : ℕ) : ℕ :=
  Nat.count (fun k => ∃ job, .ask job .load ∈ c.output k) n

lemma loadsBefore_eq (hkn : k ≤ n) (h : ∀ m, k ≤ m → m < n → ∀ job, .ask job .load ∉ c.output m) :
    loadsBefore c n = loadsBefore c k := by
  induction n, hkn using Nat.le_induction with
  | base => rfl
  | succ n hkn ih =>
    rw [← ih fun m hkm hmn => h m hkm (by omega)]
    simp only [loadsBefore, Nat.count_succ]
    rw [if_neg fun ⟨job, hjob⟩ => h n hkn (Nat.lt_succ_self n) job hjob, Nat.add_zero]

lemma orderly_new_idle (o : PickerOptions) {x : Primary} (idle : x.IsIdle) :
    (new o x).inside.Orderly := by
  obtain ⟨hloading, hbackground, hwaiting⟩ := idle
  exact {
    queued := fun j => by simp [new, stage?, hwaiting]
    line := by simp [new, hwaiting]
    background := fun j hj => by simp [new, hbackground] at hj
    loading := fun j => by simp [new, stage?, hloading]
    busy := fun _ => hwaiting
    ready := fun _ => hloading }

lemma orderly_new (o : PickerOptions) : (new o .unloaded).inside.Orderly :=
  orderly_new_idle o ⟨rfl, rfl, rfl⟩

section

variable (hp : ∀ n, (c.state n).Tidy) (ho : ∀ n, (c.state n).inside.Orderly)
include hp ho

lemma primes_state (n : ℕ) :
    (c.state n).Primes (c.input n) ((c.state n).step (c.input n)).inside :=
  (turn_step (hp n).tracked (c.input n)).primes (ho n)

omit ho in
lemma loading_iff_pending (h0 : c.start.jobs = []) :
    (c.state n).stage? job = some .loading ↔ ∃ k, Pending c k n job .load := by
  constructor
  · intro hs
    obtain ⟨k, q, hpending, hq⟩ := exists_pending hp h0 hs ⟨_, .loading⟩
    cases hq
    exact ⟨k, hpending⟩
  · rintro ⟨k, hpending⟩
    obtain ⟨s, hs, hq⟩ := hpending.stage hp
    cases hq
    exact hs

/-- One load is under way at a time. -/
lemma pending_load_unique {j j' : ℕ} (h : Pending c k n j .load) (h' : Pending c k' n j' .load) :
    k = k' ∧ j = j' := by
  obtain ⟨s, hs, hq⟩ := h.stage hp
  obtain ⟨s', hs', hq'⟩ := h'.stage hp
  cases hq
  cases hq'
  obtain rfl := (ho n).loading_unique hs hs'
  exact ⟨(h.unique hp h').1, rfl⟩

/-- While a load is under way, no other one is asked for. -/
lemma not_ask_of_pending {m j : ℕ} (h : Pending c k n job .load) (hkm : k < m) (hmn : m < n) :
    .ask j .load ∉ c.output m := by
  intro hask
  have hsame := (pending_load_unique hp ho (h.until (by omega) hmn) (pending_of_ask hask)).1
  omega

lemma client_succ : (c.state (n + 1)).primary.client = (c.state n).primary.client ∨
    ∃ job, (c.state n).stage? job = some .loading ∧ c.input n = .reply job (.loaded (.ok ())) ∧
      (c.state (n + 1)).primary.client = some (c.state n).primary.loads :=
  (primes_state hp ho n).client

omit ho in
lemma loaded_iff (h0 : c.start.jobs = []) : Loaded c n ↔
    ∃ job, (c.state n).stage? job = some .loading ∧ c.input n = .reply job (.loaded (.ok ())) := by
  simp only [loading_iff_pending hp h0, Loaded]
  constructor
  · rintro ⟨k, job, hk, hi⟩
    exact ⟨job, ⟨k, hk⟩, hi⟩
  · rintro ⟨job, ⟨k, hk⟩, hi⟩
    exact ⟨k, job, hk, hi⟩

/-- The predictor is there after a step if it was before, or if a load succeeds. -/
lemma ready_succ (h0 : c.start.jobs = []) : (c.state (n + 1)).primary.isReady = true ↔
    (c.state n).primary.isReady = true ∨ Loaded c n := by
  have hclient := client_succ hp ho (n := n)
  rw [loaded_iff hp h0]
  unfold Primary.isReady
  constructor
  · intro hready
    rcases hclient with hsame | ⟨job, hstage, hi, -⟩
    · exact .inl (hsame ▸ hready)
    · exact .inr ⟨job, hstage, hi⟩
  · rintro (hready | ⟨job, hstage, hi⟩)
    · rcases hclient with hsame | ⟨_, _, _, hnew⟩
      · exact hsame ▸ hready
      · rw [hnew]
        rfl
    · rw [Course.state_succ, hi, client_loaded hstage]
      rfl

lemma ready_iff_loaded (h0 : c.start.jobs = []) (hunready : c.start.primary.isReady = false) :
    (c.state n).primary.isReady = true ↔ ∃ e < n, Loaded c e := by
  induction n with
  | zero => simp [Course.state_zero, hunready]
  | succ n ih =>
    rw [ready_succ hp ho h0, ih]
    constructor
    · rintro (⟨e, hen, he⟩ | hn)
      · exact ⟨e, by omega, he⟩
      · exact ⟨n, Nat.lt_succ_self n, hn⟩
    · rintro ⟨e, hen, he⟩
      rcases Nat.lt_succ_iff_lt_or_eq.mp hen with hlt | rfl
      · exact .inl ⟨e, hlt, he⟩
      · exact .inr he

lemma loads_eq (hloads : c.start.primary.loads = 0) :
    (c.state n).primary.loads = loadsBefore c n := by
  induction n with
  | zero => simp [Course.state_zero, hloads, loadsBefore]
  | succ n ih =>
    have hprimes := primes_state hp ho n
    by_cases hask : ∃ job, .ask job .load ∈ c.output n
    · obtain ⟨job, hmem⟩ := hask
      have hmeans := hprimes.means _ ((mem_inside rfl).mpr hmem)
      have hcount : loadsBefore c (n + 1) = loadsBefore c n + 1 := by
        simp only [loadsBefore, Nat.count_succ]
        rw [if_pos ⟨job, hmem⟩]
      rw [hcount, ← ih]
      exact hmeans.of_load.2
    · have hcount : loadsBefore c (n + 1) = loadsBefore c n := by
        simp only [loadsBefore, Nat.count_succ]
        rw [if_neg hask, Nat.add_zero]
      rcases hprimes.loads with hsame | ⟨job, hmem⟩
      · rw [hcount, ← ih]
        exact hsame
      · exact absurd ⟨job, (mem_inside rfl).mp hmem⟩ hask

/-- The predictor is the one that the load gave which succeeded. -/
lemma client_eq (h0 : c.start.jobs = []) (hloads : c.start.primary.loads = 0)
    (hclient : c.start.primary.client = none) {m : ℕ} (h : (c.state n).primary.client = some m) :
    ∃ e k job, e < n ∧ Pending c k e job .load ∧ c.input e = .reply job (.loaded (.ok ())) ∧
      m = loadsBefore c (k + 1) := by
  induction n with
  | zero => simp [Course.state_zero, hclient] at h
  | succ n ih =>
    rcases client_succ hp ho (n := n) with hsame | ⟨job, hstage, hi, hnew⟩
    · obtain ⟨e, k, job, hen, he⟩ := ih (hsame ▸ h)
      exact ⟨e, k, job, by omega, he⟩
    · obtain ⟨k, hk⟩ := (loading_iff_pending hp h0).mp hstage
      refine ⟨n, k, job, Nat.lt_succ_self n, hk, hi, ?_⟩
      -- no load is asked for between the one that succeeds and its answer
      have hcount : loadsBefore c n = loadsBefore c (k + 1) :=
        loadsBefore_eq hk.before fun m hkm hmn j => not_ask_of_pending hp ho hk hkm hmn
      rw [← hcount, ← loads_eq hp ho hloads]
      exact Option.some.inj (h.symm.trans hnew)

/-- The background job is the one that was spawned and not told yet what came of a load. -/
lemma background_iff_warming (hnone : c.start.primary.background = none) {b : ℕ} :
    (c.state n).primary.background = some b ↔ Warming c n b := by
  induction n with
  | zero => simp [Course.state_zero, hnone, Warming]
  | succ n ih =>
    have hstep : (c.state (n + 1)).primary.background = some b ↔
        ((c.state n).primary.background = some b ∧
          ∀ r, .finish b (.ready r) ∉ ((c.state n).step (c.input n)).inside.told) ∨
        .spawned b .load ∈ ((c.state n).step (c.input n)).inside.told :=
      (primes_state hp ho n).background b
    have hfinish (r : Option Failure) :
        .finish b (.ready r) ∈ ((c.state n).step (c.input n)).inside.told ↔
          .finish b (.ready r) ∈ c.output n := mem_inside rfl
    have hspawned : .spawned b .load ∈ ((c.state n).step (c.input n)).inside.told ↔
        .spawned b .load ∈ c.output n := mem_inside rfl
    simp only [hfinish, hspawned, ih] at hstep
    rw [hstep]
    constructor
    · rintro (⟨⟨k, hkn, hk, hstill⟩, hlast⟩ | hnew)
      · refine ⟨k, by omega, hk, fun m hkm hmn => ?_⟩
        rcases Nat.lt_succ_iff_lt_or_eq.mp hmn with hlt | rfl
        · exact hstill m hkm hlt
        · exact hlast
      · exact ⟨n, Nat.lt_succ_self n, hnew, fun m hnm hmn => by omega⟩
    · rintro ⟨k, hkn, hk, hstill⟩
      rcases Nat.lt_succ_iff_lt_or_eq.mp hkn with hlt | rfl
      · exact .inl ⟨⟨k, hlt, hk, fun m hkm hmn => hstill m hkm (by omega)⟩,
          hstill n hlt (Nat.lt_succ_self n)⟩
      · exact .inr hk

end

/-- What holds of loads, of the predictor and of the background job at every moment. -/
structure LoadsOnce (c : Course step) : Prop where
  /-- One load is under way at a time. -/
  single {n k k' j j' : ℕ} (h : Pending c k n j .load) (h' : Pending c k' n j' .load) :
    k = k' ∧ j = j'
  /-- The predictor is there once a load has succeeded, and it stays. -/
  ready (n : ℕ) : (c.state n).primary.isReady = true ↔ ∃ e < n, Loaded c e
  /-- One load succeeds, and after it none is asked for. -/
  success {e e' : ℕ} (h : Loaded c e) (h' : Loaded c e') : e = e'
  last {e n j : ℕ} (h : Loaded c e) (hen : e ≤ n) : .ask j .load ∉ c.output n
  /-- All predictions are asked of the predictor that this load gave. -/
  predictor {n j m : ℕ} {text : String} (h : .ask j (.predict m text) ∈ c.output n) :
    ∃ e k job, e < n ∧ Pending c k e job .load ∧ c.input e = .reply job (.loaded (.ok ())) ∧
      m = loadsBefore c (k + 1)
  /-- Who waited for the predictor is told that it is there when it is, and is told of a failure
  when the load that it ran itself has failed. -/
  served {n j : ℕ} (h : .finish j (.ready none) ∈ c.output n) :
    (c.state (n + 1)).primary.isReady = true
  failed {n j : ℕ} {e : Failure} (h : .finish j (.ready (some e)) ∈ c.output n) :
    c.input n = .reply j (.loaded (.error e)) ∧ ∃ k, Pending c k n j .load
  /-- The background job is known exactly while there is one that is not over; there is never
  another one. -/
  background (n b : ℕ) : (c.state n).primary.background = some b ↔ Warming c n b
  alone {n b b' : ℕ} (h : Warming c n b) (h' : Warming c n b') : b = b'
  alive {n b : ℕ} (h : Warming c n b) : ∃ s, (c.state n).stage? b = some s ∧ s.isLoad = true
  /-- A background job is spawned only if it is needed, and whoever warms up then gets one. -/
  spawned {n b : ℕ} (h : .spawned b .load ∈ c.output n) :
    (c.state n).primary.isReady = false ∧ ∀ b', ¬ Warming c n b'
  retried {n : ℕ} (hi : c.input n = .warmUp) (unready : (c.state n).primary.isReady = false)
    (idle : ∀ b, ¬ Warming c n b) : ∃ b, .spawned b .load ∈ c.output n ∧ Warming c (n + 1) b

/-- **The predictor is loaded once**, whatever is called, dropped or answered in which order. -/
theorem loadsOnce {o : PickerOptions} (hc : c.start = new o .unloaded) : LoadsOnce c := by
  have hp (n : ℕ) : (c.state n).Tidy := tidy_state hc rfl n
  have ho (n : ℕ) : (c.state n).inside.Orderly := by
    induction n with
    | zero => rw [Course.state_zero, hc]; exact orderly_new o
    | succ n ih => exact orderly_step (hp n) ih (c.input n)
  have h0 : c.start.jobs = [] := by rw [hc]; rfl
  have hready (n : ℕ) : (c.state n).primary.isReady = true ↔ ∃ e < n, Loaded c e :=
    ready_iff_loaded hp ho h0 (by rw [hc]; rfl)
  have hback (n b : ℕ) : (c.state n).primary.background = some b ↔ Warming c n b :=
    background_iff_warming hp ho (by rw [hc]; rfl)
  have hmeans {n : ℕ} {out : Output} (hout : out ∈ c.output n) (hinner : out.isInner = true) :
      (c.state n).Means (c.input n) (c.state (n + 1)).primary out :=
    (primes_state hp ho n).means out ((mem_inside hinner).mpr hout)
  have hunready {k n j : ℕ} (h : Pending c k n j .load) :
      (c.state n).primary.isReady = false :=
    (ho n).unready ((loading_iff_pending hp h0).mpr ⟨k, h⟩)
  exact {
    single := pending_load_unique hp ho
    ready := hready
    success := fun {e e'} h h' => by
      have hle {a b : ℕ} (ha : Loaded c a) (hb : Loaded c b) : b ≤ a := by
        obtain ⟨k, job, hk, -⟩ := hb
        refine Nat.le_of_not_lt fun hlt => ?_
        have := (hready b).mpr ⟨a, hlt, ha⟩
        simp [hunready hk] at this
      exact Nat.le_antisymm (hle h' h) (hle h h')
    last := fun {e n j} h hen hask => by
      have := (hready (n + 1)).mpr ⟨e, by omega, h⟩
      simp [hunready (pending_of_ask hask)] at this
    predictor := fun {n j m text} h => client_eq hp ho h0 (by rw [hc]; rfl) (by rw [hc]; rfl)
      (hmeans h rfl).of_predict
    served := fun h => (hmeans h rfl).of_served
    failed := fun h => by
      obtain ⟨hi, hstage⟩ := (hmeans h rfl).of_failed
      exact ⟨hi, (loading_iff_pending hp h0).mp hstage⟩
    background := hback
    alone := fun {n b b'} h h' =>
      Option.some.inj (((hback n b).mpr h).symm.trans ((hback n b').mpr h'))
    alive := fun {n b} h => (ho n).background b ((hback n b).mpr h)
    spawned := fun {n b} h => by
      obtain ⟨unready, alone⟩ := (hmeans h rfl).of_spawned
      refine ⟨unready, fun b' hb' => ?_⟩
      simp [(hback n b').mpr hb'] at alone
    retried := fun {n} hi unready idle => by
      have alone : (c.state n).primary.background = none := by
        cases hb : (c.state n).primary.background with
        | none => rfl
        | some b => exact absurd ((hback n b).mp hb) (idle b)
      have hout : .spawned (c.state n).nextJob .load ∈ c.output n := by
        rw [Course.output, hi]
        simp [step, warmUp, unready, alone, spawn]
      exact ⟨_, hout, n, Nat.lt_succ_self n, hout, fun m hnm hmn => by omega⟩ }

/-- The background job fails and leaves the load to a caller that waited; a second background job
gets its turn when the caller is dropped, and its load succeeds. -/
def retrying : Course step where
  start := new ⟨2, ⟨10000, true⟩⟩ .unloaded
  input
    | 0 => .warmUp
    | 1 => .begin 0
    | 2 => .start .ensureReady
    | 3 => .start (.lookup "ber")
    | 4 => .reply 0 (.loaded (.error (.http .transport)))
    | 5 => .warmUp
    | 6 => .begin 3
    | 7 => .cancel 1
    | 8 => .reply 3 (.loaded (.ok ()))
    | _ => .start (.predict "bern")

theorem retrying_loadsOnce : LoadsOnce retrying ∧
    Loaded retrying 8 ∧
    .ask 4 (.predict 3 "bern") ∈ retrying.output 9 ∧
    ∀ n, 9 ≤ n → (retrying.state n).primary.isReady = true := by
  have h : LoadsOnce retrying := loadsOnce (c := retrying) rfl
  have hask : retrying.output 7 = [.ask 3 .load] := rfl
  have hpredict : retrying.output 9 = [.started 4, .ask 4 (.predict 3 "bern")] := rfl
  have hloaded : Loaded retrying 8 :=
    ⟨7, 3, pending_of_ask (by simp [hask]), rfl⟩
  exact ⟨h, hloaded, by simp [hpredict], fun n hn => (h.ready n).mpr ⟨8, hn, hloaded⟩⟩

end Picker

end Whereto
