import Whereto.Proofs.Picker.Attended
import Whereto.Proofs.Place.Position

/-!
Lookups of the position over time. A lookup succeeds when the device has answered a position and
then the geocoder has answered, with an address or without one. The locator knows what the latest
lookup found that succeeded; all others leave what it knows as it was.
-/

namespace Whereto

/-- Whether the device or the geocoder is asked. -/
def Question.isLocal : Question → Bool
  | position _ | address _ => true
  | _ => false

lemma Stage.Asks.isLocal {s : Stage} {q : Question} (h : s.Asks q) :
    q.isLocal = s.isLocating := by
  cases h <;> rfl

lemma Stage.exists_asks {s : Stage} (h : s.isLocating = true) : ∃ q, s.Asks q := by
  cases s with
  | positioning fill => exact ⟨.position ⟨0, false⟩, .positioning⟩
  | describing x fill => exact ⟨.address x, .describing⟩
  | _ => cases h

/-- The coordinates and the address that the locator knows are all those of a lookup; if there is
none, it knows nothing. -/
structure Locator.Knows (l : Locator) (x : Option Located) : Prop where
  latitude : l.latitude = x.map (·.position.latitude)
  longitude : l.longitude = x.map (·.position.longitude)
  address : l.address = x.map (·.address)

namespace Locator.Knows

variable {l : Locator} {x y : Option Located}

lemma idle : Locator.idle.Knows none := ⟨rfl, rfl, rfl⟩

lemma found (l : Locator) (x : Located) : (l.found x).Knows (some x) := ⟨rfl, rfl, rfl⟩

lemma unique (h : l.Knows x) (h' : l.Knows y) : x = y := by
  have hlatitude := h.latitude.symm.trans h'.latitude
  have hlongitude := h.longitude.symm.trans h'.longitude
  have haddress := h.address.symm.trans h'.address
  cases x with
  | none => cases y with
    | none => rfl
    | some y => cases hlatitude
  | some x => cases y with
    | none => cases hlatitude
    | some y =>
      obtain ⟨⟨_, _⟩, _⟩ := x
      obtain ⟨⟨_, _⟩, _⟩ := y
      cases hlatitude
      cases hlongitude
      cases haddress
      rfl

end Locator.Knows

/-- What a locator knows is what another one knows. -/
structure Locator.Agrees (l l' : Locator) : Prop where
  latitude : l.latitude = l'.latitude
  longitude : l.longitude = l'.longitude
  address : l.address = l'.address

lemma Locator.Agrees.knows {l l' : Locator} {x : Option Located} (h : l.Agrees l')
    (h' : l'.Knows x) : l.Knows x where
  latitude := h.latitude.trans h'.latitude
  longitude := h.longitude.trans h'.longitude
  address := h.address.trans h'.address

namespace Picker

variable {p : Picker} {i : Input} {v : Inside} {job : Nat}

/-! ### One step -/

lemma mem_asked_put {s : Option Stage} {q q' : Question} {j : Nat} (quiet : v.asked job = [])
    (h : q ∈ (v.put j s [.ask j q']).asked job) : j = job ∧ q = q' := by
  simp only [asked_put, quiet, List.nil_append, List.mem_filterMap, List.mem_singleton] at h
  obtain ⟨_, rfl, hq⟩ := h
  simp only [Output.question?, Option.ite_none_right_eq_some, Option.some.injEq] at hq
  exact ⟨hq.1, hq.2.symm⟩

/-- Whoever asks for an address has just been answered the position. -/
lemma Turn.of_address (h : p.Turn i v) {x : Coordinates} (hx : .address x ∈ v.asked job) :
    i = .reply job (.position (.ok x)) ∧ ∃ fill, p.stage? job = some (.positioning fill) := by
  have next {w : Inside} (hw : w.asked job = []) : .address x ∉ w.next.asked job := by
    intro hmem
    cases hline : w.primary.waiting with
    | nil =>
      rw [Inside.next_nil hline] at hmem
      have hold : .address x ∈ w.asked job := hmem
      simp [hw] at hold
    | cons j rest =>
      rw [Inside.next_cons hline] at hmem
      cases (mem_asked_put (s := some .loading) hw hmem).2
  cases h with
  | warmed warm => simp [warm.asked] at hx
  | asked _ warm search asks =>
    obtain ⟨-, rfl⟩ := mem_asked_put (warm.asked _) hx
    cases asks
    cases search
  | finished _ warm => simp [asked_put, warm.asked] at hx
  | locating => cases (mem_asked_put rfl hx).2
  | describing stage =>
    obtain ⟨rfl, hq⟩ := mem_asked_put rfl hx
    cases hq
    exact ⟨rfl, _, stage⟩
  | served =>
    rw [asked_leave] at hx
    cases hx
  | loading => cases (mem_asked_put rfl hx).2
  | loaded =>
    rw [Inside.ready, asked_leave] at hx
    cases hx
  | failed => exact absurd hx (next (asked_leave _ _ _ _))
  | abandoned => exact absurd hx (next rfl)
  | _ => cases hx

/-- A call that is made while another lookup is under way is over at once. -/
lemma overlap_step {fill : Bool} (h : p.locator.locating = true) :
    (p.step (.start (locateCall fill))).1.locator = p.locator ∧
    (∃ a, .finish p.nextJob a ∈ (p.step (.start (locateCall fill))).2) ∧
    ∀ j q, .ask j q ∉ (p.step (.start (locateCall fill))).2 := by
  have hstep : p.step (.start (locateCall fill)) =
      andThen ({ p with nextJob := p.nextJob + 1 }, [.started p.nextJob])
        (settle · p.nextJob fill) := by
    cases fill <;> simp [step, start, locateCall, locate, andThen, h]
  have hsettle (q : Picker) : (q.settle p.nextJob fill).1.locator = q.locator ∧
      (∃ a, .finish p.nextJob a ∈ (q.settle p.nextJob fill).2) ∧
      ∀ j a, .ask j a ∉ (q.settle p.nextJob fill).2 := by
    refine ⟨congrArg Inside.locator (inside_settle q p.nextJob fill), ?_⟩
    unfold settle
    split
    · split
      · simp
      · split <;> simp [done]
    · simp [done]
  obtain ⟨hlocator, ⟨a, ha⟩, hask⟩ := hsettle { p with nextJob := p.nextJob + 1 }
  rw [hstep]
  exact ⟨hlocator, ⟨a, by simp [andThen, ha]⟩, by simp [andThen, hask]⟩

lemma locator_described {x : Coordinates} {fill : Bool} {result : Except Failure Address}
    (stage : p.stage? job = some (.describing x fill)) :
    (p.step (.reply job (.address result))).1.locator =
      p.locator.found ⟨x, Address.describe x result.toOption⟩ := by
  have hstep : p.step (.reply job (.address result)) =
      { p with locator := p.locator.found ⟨x, Address.describe x result.toOption⟩ }.settle
        job fill := by
    simp [step, reply, stage]
  rw [hstep]
  exact congrArg Inside.locator (inside_settle
    { p with locator := p.locator.found ⟨x, Address.describe x result.toOption⟩ } job fill)

/-! ### Runs -/

variable {c : Course step} {n : ℕ}

/-- A lookup comes to its end: the device has answered the position, and then the geocoder has
answered for that position. -/
def Succeeds (c : Course step) (e : ℕ) (l : Located) : Prop :=
  ∃ k k' job options result, Pending c k' k job (.position options) ∧
    c.input k = .reply job (.position (.ok l.position)) ∧
    Pending c k e job (.address l.position) ∧ c.input e = .reply job (.address result) ∧
    l.address = Address.spelled l.position result

/-- What the latest lookup found that has succeeded, if any has. -/
def LatestFound (c : Course step) (n : ℕ) : Option Located → Prop
  | none => ∀ e < n, ∀ l, ¬ Succeeds c e l
  | some l => ∃ e < n, Succeeds c e l ∧ ∀ e', e < e' → e' < n → ∀ l', ¬ Succeeds c e' l'

lemma LatestFound.succ {x : Option Located} (h : LatestFound c n x)
    (hnone : ∀ l, ¬ Succeeds c n l) : LatestFound c (n + 1) x := by
  cases x with
  | none =>
    intro e hen
    rcases Nat.lt_succ_iff_lt_or_eq.mp hen with hlt | rfl
    · exact h e hlt
    · exact hnone
  | some l =>
    obtain ⟨e, hen, he, hlast⟩ := h
    refine ⟨e, by omega, he, fun e' hee' hen' => ?_⟩
    rcases Nat.lt_succ_iff_lt_or_eq.mp hen' with hlt | rfl
    · exact hlast e' hee' hlt
    · exact hnone

section

variable (hp : ∀ n, (c.state n).Tidy) (h0 : c.start.jobs = [])
include hp h0

lemma looks_iff_pending : (c.state n).inside.Looks job ↔
    ∃ k q, Pending c k n job q ∧ q.isLocal = true := by
  constructor
  · rintro ⟨s, hs, hlook⟩
    obtain ⟨k, q, hpending, hq⟩ := exists_pending hp h0 hs (Stage.exists_asks hlook)
    exact ⟨k, q, hpending, hq.isLocal.trans hlook⟩
  · rintro ⟨k, q, hpending, hlocal⟩
    obtain ⟨s, hs, hq⟩ := hpending.stage hp
    exact ⟨s, hs, hq.isLocal.symm.trans hlocal⟩

lemma succeeds_iff {l : Located} : Succeeds c n l ↔ ∃ job fill result,
    (c.state n).stage? job = some (.describing l.position fill) ∧
      c.input n = .reply job (.address result) ∧
      l.address = Address.spelled l.position result := by
  constructor
  · rintro ⟨k, k', job, options, result, -, -, hpending, hi, haddress⟩
    obtain ⟨s, hs, hq⟩ := hpending.stage hp
    cases hq with
    | describing => exact ⟨job, _, result, hs, hi, haddress⟩
  · rintro ⟨job, fill, result, hs, hi, haddress⟩
    obtain ⟨k, q, hpending, hq⟩ := exists_pending hp h0 hs ⟨_, .describing⟩
    cases hq
    have hturn := turn_step (hp k).tracked (c.input k)
    obtain ⟨hk, fill', hpositioning⟩ := hturn.of_address (mem_asked.mpr hpending.asked)
    obtain ⟨k', q', hpending', hq'⟩ := exists_pending hp h0 hpositioning
      (Stage.exists_asks rfl)
    cases hq' with
    | positioning => exact ⟨k, k', job, _, result, hpending', hk, hpending, hi, haddress⟩

lemma knows_of_succeeds {l : Located} (h : Succeeds c n l) :
    (c.state (n + 1)).locator.Knows (some l) := by
  obtain ⟨job, fill, result, hs, hi, haddress⟩ := (succeeds_iff hp h0).mp h
  rw [Course.state_succ, hi, locator_described hs, Address.describe_toOption, ← haddress]
  exact .found _ l

/-- A step at which no lookup succeeds leaves what the locator knows. -/
lemma agrees_of_not_succeeds (h : ∀ l, ¬ Succeeds c n l) :
    (c.state (n + 1)).locator.Agrees (c.state n).locator := by
  have hstep := locates_step (c.state n) (c.input n)
  rw [Course.state_succ]
  generalize ((c.state n).step (c.input n)).1.locator = l at hstep
  generalize hi : c.input n = i at hstep
  cases hstep with
  | @found job x fill result stage =>
    have hsucceeds : Succeeds c n ⟨x, Address.describe x result.toOption⟩ :=
      (succeeds_iff hp h0).mpr ⟨job, fill, result, stage, hi, Address.describe_toOption x result⟩
    exact absurd hsucceeds (h _)
  | _ => exact ⟨rfl, rfl, rfl⟩

/-- What the locator knows, the latest lookup has found that succeeded. -/
lemma knows_latestFound (hidle : c.start.locator = .idle) (n : ℕ) :
    ∃ x, LatestFound c n x ∧ (c.state n).locator.Knows x := by
  induction n with
  | zero =>
    refine ⟨none, nofun, ?_⟩
    rw [Course.state_zero, hidle]
    exact .idle
  | succ n ih =>
    by_cases hnow : ∃ l, Succeeds c n l
    · obtain ⟨l, hl⟩ := hnow
      exact ⟨some l, ⟨n, Nat.lt_succ_self n, hl, fun e' hne hen => by omega⟩,
        knows_of_succeeds hp h0 hl⟩
    · have hnone (l : Located) : ¬ Succeeds c n l := fun h => hnow ⟨l, h⟩
      obtain ⟨x, hlatest, hknows⟩ := ih
      exact ⟨x, hlatest.succ hnone, (agrees_of_not_succeeds hp h0 hnone).knows hknows⟩

end

/-- Whoever waits for the device or for the geocoder was called for it while nobody else did. -/
lemma pending_caller (hp : ∀ n, (c.state n).Tidy) (h0 : c.start.jobs = []) {k : ℕ} {q : Question}
    (h : Pending c k n job q) (hq : q.isLocal = true) :
    ∃ m < n, ∃ fill, c.input m = .start (locateCall fill) ∧ job = (c.state m).nextJob ∧
      (c.state m).locator.locating = false := by
  have caller {m : ℕ} {fill : Bool} (hmem : (job, .positioning fill) ∈ (c.state m).jobs) :
      ∃ m' < m, ∃ fill, c.input m' = .start (locateCall fill) ∧ job = (c.state m').nextJob ∧
        (c.state m').locator.locating = false := by
    rcases positioning_origin (Nat.zero_le m) hmem with hold | ⟨m', -, hlt, hjob, hi, hidle⟩
    · simp [Course.state_zero, h0] at hold
    · exact ⟨m', hlt, fill, hi, hjob, hidle⟩
  obtain ⟨s, hs, hasks⟩ := h.stage hp
  have hmem := mem_of_stage? hs
  cases hasks with
  | positioning => exact caller hmem
  | describing =>
    obtain ⟨e, hen, -, hstage⟩ := describing_origin h0 hmem
    obtain ⟨m, hme, hm⟩ := caller (mem_of_stage? hstage)
    exact ⟨m, by omega, hm⟩
  | _ => cases hq

/-- What holds of lookups of the position at every moment. -/
structure LooksOnce (c : Course step) : Prop where
  /-- The two flags are set exactly while a call waits for the device or for the geocoder. -/
  loading (n : ℕ) : (c.state n).locator.loading = (c.state n).locator.locating
  busy (n : ℕ) : (c.state n).locator.locating = true ↔
    ∃ k job q, Pending c k n job q ∧ q.isLocal = true
  /-- One call does so at a time, and it waits for one of them. -/
  single {n k k' j j' : ℕ} {q q' : Question} (h : Pending c k n j q) (h' : Pending c k' n j' q')
    (hq : q.isLocal = true) (hq' : q'.isLocal = true) : k = k' ∧ j = j' ∧ q = q'
  caller {n k j : ℕ} {q : Question} (h : Pending c k n j q) (hq : q.isLocal = true) :
    ∃ m < n, ∃ fill, c.input m = .start (locateCall fill) ∧ j = (c.state m).nextJob ∧
      (c.state m).locator.locating = false
  /-- Meanwhile all other calls are over at once and change nothing. -/
  overlap {n : ℕ} {fill : Bool} (hi : c.input n = .start (locateCall fill))
    (h : (c.state n).locator.locating = true) :
    (c.state (n + 1)).locator = (c.state n).locator ∧
      (∃ a, .finish (c.state n).nextJob a ∈ c.output n) ∧ ∀ j q, .ask j q ∉ c.output n
  /-- There is an error only when nobody looks the position up. -/
  error {n : ℕ} (h : (c.state n).locator.error ≠ none) : (c.state n).locator.loading = false
  /-- The coordinates and the address are those that the latest lookup found that succeeded; as
  long as none has, there are none. -/
  known (n : ℕ) : ∃ x, LatestFound c n x ∧ (c.state n).locator.Knows x
  /-- All steps at which no lookup succeeds leave them as they were. -/
  kept {n : ℕ} (h : ∀ l, ¬ Succeeds c n l) : (c.state (n + 1)).locator.Agrees (c.state n).locator

/-- **One lookup of the position is under way at a time**, and what the locator knows comes from
the latest one that succeeded. -/
theorem looksOnce {o : PickerOptions} {primary : Primary} (hc : c.start = new o primary)
    (hline : primary.waiting = []) : LooksOnce c := by
  have hp (n : ℕ) : (c.state n).Tidy := tidy_state hc hline n
  have h0 : c.start.jobs = [] := by rw [hc]; rfl
  have ha (n : ℕ) : (c.state n).inside.Attended := by
    induction n with
    | zero => rw [Course.state_zero, hc]; exact attended_new o primary
    | succ n ih => exact attended_step (hp n) ih (c.input n)
  exact {
    loading := fun n => (ha n).loading
    busy := fun n => by
      have hbusy : (c.state n).locator.locating = true ↔ _ := (ha n).busy
      rw [hbusy]
      simp only [looks_iff_pending hp h0]
      exact exists_comm
    single := fun {n k k' j j' q q'} h h' hq hq' => by
      obtain rfl : j = j' := (ha n).single j j' ((looks_iff_pending hp h0).mpr ⟨k, q, h, hq⟩)
        ((looks_iff_pending hp h0).mpr ⟨k', q', h', hq'⟩)
      obtain ⟨hk, hqq⟩ := h.unique hp h'
      exact ⟨hk, rfl, hqq⟩
    caller := pending_caller hp h0
    overlap := fun {n fill} hi h => by
      rw [Course.state_succ, Course.output, hi]
      exact overlap_step h
    error := fun {n} h => by
      have hloading := (ha n).loading
      cases hlocating : (c.state n).locator.locating with
      | false => exact hloading.trans hlocating
      | true => exact absurd ((ha n).error hlocating) h
    known := knows_latestFound hp h0 (by rw [hc]; rfl)
    kept := agrees_of_not_succeeds hp h0 }

/-- A lookup is overlapped by another call and succeeds, though no address is found; a second one
is dropped while it waits for the geocoder, and the time for a third one runs out. The last one is
answered by the device and by the geocoder. -/
def strolling : Course step where
  start := new ⟨2, ⟨10000, true⟩⟩ .unloaded
  input
    | 0 => .start .locate
    | 1 => .start .useLocation
    | 2 => .reply 0 (.position (.ok ⟨59.5, 10.25⟩))
    | 3 => .reply 0 (.address (.error (.http .decode)))
    | 4 => .start .useLocation
    | 5 => .reply 2 (.position (.ok ⟨60, 5⟩))
    | 6 => .cancel 2
    | 7 => .start .locate
    | 8 => .expire 3
    | 9 => .start .locate
    | 10 => .reply 4 (.position (.ok ⟨60.375, 5.25⟩))
    | 11 => .reply 4 (.address (.ok ⟨some " Bergen", some "Vestland", some "Norway"⟩))
    | _ => .focus

theorem strolling_looksOnce :
    LooksOnce strolling ∧
    (strolling.state 2).locator = (strolling.state 1).locator ∧
    (strolling.state 9).locator.error = some .timeout ∧
    (strolling.state 9).locator.loading = false ∧
    LatestFound strolling 9 (some ⟨⟨59.5, 10.25⟩,
      coordinateStyle.render 10.25 ++ ", " ++ coordinateStyle.render 59.5⟩) ∧
    LatestFound strolling 12 (some ⟨⟨60.375, 5.25⟩, "Bergen, Vestland, Norway"⟩) := by
  have h : LooksOnce strolling := looksOnce (c := strolling) rfl rfl
  have hcall : strolling.input 1 = .start (locateCall true) := rfl
  have herror : (strolling.state 9).locator.error = some .timeout := rfl
  have latest {n : ℕ} {x : Located} (hx : (strolling.state n).locator.Knows (some x)) :
      LatestFound strolling n (some x) := by
    obtain ⟨y, hlatest, hknows⟩ := h.known n
    rwa [hknows.unique hx] at hlatest
  refine ⟨h, (h.overlap hcall rfl).1, herror, h.error (by simp [herror]), ?_, ?_⟩
  · exact latest ⟨rfl, rfl, rfl⟩
  · exact latest ⟨rfl, rfl, by decide +kernel⟩

end Picker

end Whereto
