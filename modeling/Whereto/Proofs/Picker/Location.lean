import Whereto.Proofs.Picker.Position
import Whereto.Proofs.Place.Position

/-!
The position of the device. A call that is to fill the field picks what the locator knows when the
call is over. That is what the device answered to the call itself, unless another lookup was under
way when the call was made: then it is what the locator knew before.
-/

namespace Whereto

/-- What a call picks when the locator is as it is. -/
def Locator.pick (l : Locator) : Option Suggestion :=
  match l.error with
  | some _ => none
  | none => l.suggestion?

/-- The field after a call that picked a suggestion, or none. -/
def Field.fill (r : Option Suggestion) (f : Field) : Field :=
  match r with
  | some s => f.select s
  | none => f

/-- A field takes over a position: its text is the longitude and the latitude, it is precise and
its list is closed, and it is in a new generation. -/
structure Field.Takes (f : Field) (x : Coordinates) (s : Suggestion) (g : Field) : Prop where
  value : s.value =
    coordinateStyle.render x.longitude ++ ", " ++ coordinateStyle.render x.latitude
  field : g = { f with
    text := s.value, precise := true, isOpen := false, generation := f.generation + 1 }

lemma Field.Takes.of_select {f g : Field} {x : Coordinates} {label : String}
    (h : g = f.select ⟨label, x.text, .geolocation⟩) : f.Takes x ⟨label, x.text, .geolocation⟩ g :=
  ⟨x.text_eq, h⟩

namespace Picker

variable {p : Picker} {i : Input} {x : Suggestion} {c : Course step}

/-! ### The end of a call -/

lemma field_settled (p : Picker) (job : ℕ) :
    (p.settled job true).field = p.field.fill p.locator.pick := by
  unfold settled Locator.pick
  cases p.locator.error with
  | some e => rfl
  | none => cases hs : p.locator.suggestion? <;> simp [Field.fill]

lemma picked_mem_settled {job job' : ℕ} {fill : Bool} {r : Option Suggestion} :
    .finish job' (.picked r) ∈ (p.settled job fill).told ↔
      fill = true ∧ job' = job ∧ r = p.locator.pick := by
  unfold settled Locator.pick
  cases fill with
  | false => simp [still]
  | true =>
    cases p.locator.error with
    | some e => simp
    | none => cases hs : p.locator.suggestion? <;> simp

lemma picked_notMem_ending {job job' : ℕ} {t : Ticket} {found : List Suggestion}
    {r : Option Suggestion} : .finish job' (.picked r) ∉ (p.ending job t found).told := by
  unfold ending
  split
  · split <;> simp
  · simp

/-- A call that fills the field is over when its lookup is. -/
lemma finish_picked {job : ℕ} {r : Option Suggestion}
    (h : .finish job (.picked r) ∈ (p.step i).2) :
    ∃ l, p.Settles i job true l ∧ r = l.pick ∧
      (p.step i).1.field = p.field.fill r := by
  have htold := (mem_told (r := p.step i) rfl).mpr h
  by_cases hi : i.isWork = true
  · have hsight := sight_step p hi
    change ∃ l, _ ∧ _ ∧ (p.step i).view.field = _
    generalize (p.step i).view = v at htold hsight
    cases hsight with
    | still => simp [still] at htold
    | ended => exact absurd htold picked_notMem_ending
    | locating => simp at htold
    | givenUp => simp at htold
    | @settled _ _ _ l hsettles =>
      obtain ⟨rfl, rfl, hr⟩ := picked_mem_settled.mp htold
      exact ⟨l, hsettles, hr, by rw [field_settled, hr]⟩
  · cases tells_step (by simpa using hi) htold

/-! ### Selections -/

/-- What is told to be picked from the list stands in the list. -/
lemma picked_step {r : Option Suggestion} (h : .picked r ∈ (p.step i).2) :
    ∃ index, i = .selectIndex index ∧ p.field.suggestions[index]? = r := by
  rcases told_step rfl h with h | ⟨-, ⟨_, h⟩ | ⟨_, _, h⟩⟩
  · generalize ho : Output.picked r = o at h
    cases h with
    | picked => exact ⟨_, rfl, by simpa using ho.symm⟩
    | _ => cases ho
  · cases h
  · cases h

/-- A selection is made by the user, or it is the end of a call for the position. -/
lemma selects_cases (h : p.Selects i x) :
    (i = .select x ∨ ∃ index, i = .selectIndex index ∧ p.field.suggestions[index]? = some x) ∨
      ∃ job l, p.Settles i job true l ∧ (p.step i).1.field = p.field.select x := by
  cases h with
  | select => exact .inl (.inl rfl)
  | located h =>
    obtain ⟨l, hsettles, -, hfield⟩ := finish_picked h
    exact .inr ⟨_, l, hsettles, hfield⟩
  | picked h => exact .inl (.inr (picked_step h))

/-- What is selected goes into the field. -/
lemma field_of_selects (h : p.Selects i x) : (p.step i).1.field = p.field.select x := by
  rcases selects_cases h with (rfl | ⟨index, rfl, hx⟩) | ⟨-, -, -, hfield⟩
  · rfl
  · simp [step, selectIndex, hx]
  · exact hfield

lemma not_selects (hi : i.job? = none) (hselect : ∀ y, i ≠ .select y)
    (hindex : ∀ index, i ≠ .selectIndex index) (hcall : i ≠ .start .useLocation) :
    ¬ p.Selects i x := by
  intro h
  rcases selects_cases h with (rfl | ⟨index, rfl, -⟩) | ⟨job, l, hsettles, -⟩
  · exact hselect x rfl
  · exact hindex index rfl
  · rcases hsettles.job with h | ⟨-, h⟩
    · simp [hi] at h
    · exact hcall h

lemma NoneLocating.not_selects {p : Picker} {i : Input} {x : Suggestion} (h : p.NoneLocating)
    (hi : i.job? ≠ none) : ¬ p.Selects i x := by
  intro hsel
  rcases selects_cases hsel with (rfl | ⟨_, rfl, -⟩) | ⟨_, _, hs, -⟩
  · exact hi rfl
  · exact hi rfl
  · exact h.not_settles (fun fill hf => hi (by rw [hf]; rfl)) hs

/-! ### What calls find -/

/-- A call fills the field with what the device answered to the call itself; and it leaves the
field as it is if the device answered nothing. -/
def FillsFromOwn (c : Course step) (job d : ℕ) : Option Suggestion → Prop
  | some s => ∃ e x, e < d ∧ Finds c e job x ∧
      (c.state d).field.Takes x s (c.state (d + 1)).field
  | none => (c.state (d + 1)).field = (c.state d).field ∧ ∀ e x, e < d → ¬ Finds c e job x

/-- The call at a position comes while another lookup is under way and an older position is
known. -/
def Overlaps (c : Course step) (a : ℕ) : Prop :=
  (c.state a).locator.locating = true ∧ (c.state a).locator.located ≠ none

/-- The end of a call goes back to its start: it was made while another lookup was under way and
is over at once, or its own job ends. -/
lemma fillsFromOwn_of_picked {a d : ℕ} {r : Option Suggestion} (h0 : c.start.jobs = [])
    (hidle : c.start.locator = .idle) (called : c.input a = .start .useLocation)
    (h : .finish (c.state a).nextJob (.picked r) ∈ c.output d) :
    ((c.state a).locator.locating = true ∧ d = a ∧ r = (c.state a).locator.suggestion? ∧
      (c.state (a + 1)).field = (c.state a).field.fill r) ∨
    ((c.state a).locator.locating = false ∧ FillsFromOwn c (c.state a).nextJob d r) := by
  obtain ⟨l, hsettles, hr, hfield⟩ := finish_picked h
  rw [← Course.state_succ] at hfield
  -- a job that asks for the position is that of the call, and nobody else asked at the call
  have own {fill : Bool} {e : ℕ} (hmem : ((c.state a).nextJob, .positioning fill) ∈
      (c.state e).jobs) : (c.state a).locator.locating = false := by
    rcases positioning_origin (Nat.zero_le e) hmem with hzero | ⟨k, -, -, hjob, hk, hfree⟩
    · simp [Course.state_zero, h0] at hzero
    · rwa [start_unique called hk hjob]
  generalize hi : c.input d = i at hsettles
  generalize hj : (c.state a).nextJob = job at hsettles
  cases hsettles with
  | known busy =>
    obtain rfl : a = d := start_unique called hi hj
    rw [Locator.pick, isSound_locator hidle a busy] at hr
    exact .inl ⟨busy, rfl, hr, hfield⟩
  | failed stage =>
    subst hj
    subst hr
    exact .inr ⟨own (mem_of_stage? stage), hfield, fun e x hed hfinds =>
      hfinds.not_positioning h0 hed (mem_of_stage? stage)⟩
  | expired stage =>
    subst hj
    subst hr
    exact .inr ⟨own (mem_of_stage? stage), hfield, fun e x hed hfinds =>
      hfinds.not_positioning h0 hed (mem_of_stage? stage)⟩
  | found stage =>
    subst hj
    subst hr
    obtain ⟨e, hed, hreply, hstage⟩ := describing_origin h0 (mem_of_stage? stage)
    exact .inr ⟨own (mem_of_stage? hstage), e, _, hed, ⟨hreply, _, hstage⟩, .of_select hfield⟩

/-- A job that ends its lookup of the position was started for it. -/
lemma Settles.started {e job : ℕ} {fill : Bool} {l : Locator} (h0 : c.start.jobs = [])
    (h : (c.state e).Settles (c.input e) job fill l) :
    ∃ k ≤ e, job = (c.state k).nextJob ∧ c.input k = .start (locateCall fill) := by
  have origin {n : ℕ} (hne : n ≤ e) (hmem : (job, .positioning fill) ∈ (c.state n).jobs) :
      ∃ k ≤ e, job = (c.state k).nextJob ∧ c.input k = .start (locateCall fill) := by
    rcases positioning_origin (Nat.zero_le n) hmem with hzero | ⟨k, -, hkn, hjob, hk, -⟩
    · simp [Course.state_zero, h0] at hzero
    · exact ⟨k, by omega, hjob, hk⟩
  generalize hi : c.input e = i at h
  cases h with
  | known => exact ⟨e, le_rfl, rfl, hi⟩
  | failed stage => exact origin le_rfl (mem_of_stage? stage)
  | expired stage => exact origin le_rfl (mem_of_stage? stage)
  | found stage =>
    obtain ⟨n, hne, -, hstage⟩ := describing_origin h0 (mem_of_stage? stage)
    exact origin hne.le (mem_of_stage? hstage)

lemma Settles.fills {a e : ℕ} {fill : Bool} {l : Locator} (h0 : c.start.jobs = [])
    (called : c.input a = .start .useLocation)
    (h : (c.state e).Settles (c.input e) (c.state a).nextJob fill l) : fill = true := by
  obtain ⟨k, -, hk, hstart⟩ := h.started h0
  obtain rfl := start_unique called hstart hk
  rw [called] at hstart
  cases fill with
  | true => rfl
  | false => cases hstart

/-- A job that ends a lookup of suggestions was not started for the position. -/
lemma Ends.not_useLocation {a e job : ℕ} {t : Ticket} (h0 : c.start.jobs = [])
    (called : c.input a = .start .useLocation) (h : (c.state e).Ends (c.input e) job t) :
    job ≠ (c.state a).nextJob := by
  rintro rfl
  rcases h.origin (r := .ofCourse c) (Nat.zero_le e) rfl with
    ⟨s, hmem, -⟩ | ⟨k, -, -, hk, hstarts⟩
  · simp [Course.state_zero, h0] at hmem
  · have ha : (c.state a).nextJob < (c.state (a + 1)).nextJob := by
      rw [Course.state_succ, called]
      exact nextJob_start _ _
    obtain rfl := position_unique (r := .ofCourse c) ha hstarts.nextJob_lt hk
    obtain ⟨i, hi, hstart⟩ := hstarts
    obtain rfl : c.input a = i := by simpa using hi
    rw [called] at hstart
    cases hstart

/-- Until a call is over, and when it is dropped, its job leaves the field alone. -/
lemma field_of_not_picked {a e : ℕ} (h0 : c.start.jobs = [])
    (called : c.input a = .start .useLocation)
    (hjob : e = a ∨ (c.input e).job? = some (c.state a).nextJob)
    (hnone : ∀ r, .finish (c.state a).nextJob (.picked r) ∉ c.output e) :
    (c.state (e + 1)).field = (c.state e).field := by
  have hwork : (c.input e).isWork = true := by
    rcases hjob with rfl | hjob
    · rw [called]
      rfl
    · generalize c.input e = i at hjob
      cases i <;> first | rfl | cases hjob
  have hsame {job : ℕ} (h : (c.input e).job? = some job) : job = (c.state a).nextJob := by
    rcases hjob with rfl | hjob
    · simp [called, Input.job?] at h
    · simpa [h] using hjob
  have htold (r : Option Suggestion) :
      .finish (c.state a).nextJob (.picked r) ∉ ((c.state e).step (c.input e)).view.told :=
    mt (mem_told rfl).mp (hnone r)
  have hsight := sight_step (c.state e) hwork
  change ((c.state e).step (c.input e)).view.field = _
  generalize ((c.state e).step (c.input e)).view = v at htold hsight
  generalize hi : c.input e = i at hsight
  cases hsight with
  | still => rfl
  | locating => rfl
  | givenUp => rfl
  | ended hends =>
    rw [← hi] at hends
    rcases hends.job with h | h
    · exact absurd (hsame h) (hends.not_useLocation h0 called)
    · rcases hjob with rfl | hjob
      · simp [h] at called
      · simp [h, Input.job?] at hjob
  | @settled _ job fill l hsettles =>
    rw [← hi] at hsettles
    obtain rfl : job = (c.state a).nextJob := by
      rcases hsettles.job with h | ⟨h, hcall⟩
      · exact hsame h
      · rcases hjob with rfl | hjob
        · exact h
        · simp [hcall, Input.job?] at hjob
    obtain rfl := hsettles.fills h0 called
    exact absurd (picked_mem_settled.mpr ⟨rfl, rfl, rfl⟩) (htold _)

/-- A call that overlaps with another lookup is over at once. -/
lemma picked_of_overlaps {a : ℕ} (hidle : c.start.locator = .idle)
    (called : c.input a = .start .useLocation) (h : Overlaps c a) :
    .finish (c.state a).nextJob (.picked (c.state a).locator.suggestion?) ∈ c.output a := by
  have hpick : (c.state a).locator.pick = (c.state a).locator.suggestion? := by
    rw [Locator.pick, isSound_locator hidle a h.1]
  refine (mem_told rfl).mp ?_
  rw [called, step, view_start]
  dsimp only
  rw [view_locate, if_pos h.1]
  exact picked_mem_settled.mpr ⟨rfl, rfl, hpick.symm⟩

/-- **Filling the field with the position.** When a call is over, the field holds what the device
answered to this very call, or it is left as it was if there is no such answer, unless the call
overlaps with another lookup and an older position is known. In that case, and only then, the
call is over at once and fills the field with the older position, which the device answered to
somebody else. Until it is over, and when it is dropped, a call leaves the field alone. -/
theorem fillsFromOwn_iff_not_overlaps {o : PickerOptions} {primary : Primary}
    (hc : c.start = new o primary) {a : ℕ} (called : c.input a = .start .useLocation) :
    (∀ d r, .finish (c.state a).nextJob (.picked r) ∈ c.output d →
      (FillsFromOwn c (c.state a).nextJob d r ↔ ¬ Overlaps c a)) ∧
    (Overlaps c a → ∃ s e job x,
      .finish (c.state a).nextJob (.picked (some s)) ∈ c.output a ∧
      e < a ∧ job ≠ (c.state a).nextJob ∧ Finds c e job x ∧
      (c.state a).field.Takes x s (c.state (a + 1)).field) ∧
    ∀ e, e = a ∨ (c.input e).job? = some (c.state a).nextJob →
      (∀ r, .finish (c.state a).nextJob (.picked r) ∉ c.output e) →
      (c.state (e + 1)).field = (c.state e).field := by
  have h0 : c.start.jobs = [] := by rw [hc]; rfl
  have hidle : c.start.locator = .idle := by rw [hc]; rfl
  -- no answer comes to a job before it is started
  have notBefore {e job : ℕ} {x : Coordinates} (hea : e ≤ a) (h : Finds c e job x) :
      job ≠ (c.state a).nextJob := by
    rintro rfl
    obtain ⟨k, _, hke, hjob, hk⟩ := h.started h0
    have := start_unique called hk hjob
    omega
  refine ⟨fun d r h => ?_, fun h => ?_, fun e he hnone => field_of_not_picked h0 called he hnone⟩
  · rcases fillsFromOwn_of_picked h0 hidle called h with
      ⟨hbusy, rfl, rfl, hfield⟩ | ⟨hfree, hown⟩
    · cases hl : (c.state d).locator.located with
      | none =>
        have hnone : (c.state d).locator.suggestion? = none := by simp [Locator.suggestion?, hl]
        rw [hnone] at hfield ⊢
        exact iff_of_true ⟨hfield, fun e x hed hfinds => notBefore hed.le hfinds rfl⟩
          fun hover => hover.2 hl
      | some l =>
        have hsome : (c.state d).locator.suggestion? =
            some ⟨l.address, l.position.text, .geolocation⟩ := by
          simp [Locator.suggestion?, hl]
        rw [hsome]
        exact iff_of_false (fun ⟨e, x, hed, hfinds, _⟩ => notBefore hed.le hfinds rfl)
          fun hnot => hnot ⟨hbusy, by simp [hl]⟩
    · exact iff_of_true hown fun hover => by simp [hover.1] at hfree
  · have hpicked := picked_of_overlaps hidle called h
    obtain ⟨l, hl⟩ := Option.ne_none_iff_exists'.mp h.2
    have hsome : (c.state a).locator.suggestion? =
        some ⟨l.address, l.position.text, .geolocation⟩ := by
      simp [Locator.suggestion?, hl]
    obtain ⟨e, job, hea, hfinds⟩ := located_origin h0 hidle hl
    rcases fillsFromOwn_of_picked h0 hidle called hpicked with ⟨-, -, -, hfield⟩ | ⟨hfree, -⟩
    · rw [hsome] at hpicked hfield
      exact ⟨_, e, job, _, hpicked, hea, notBefore hea.le hfinds, hfinds, .of_select hfield⟩
    · simp [h.1] at hfree

/-- The position is looked up and found. Then another place is typed and the position is looked up
again; before that is answered, somebody asks for the position. -/
def meanwhile (x : Coordinates) : Course step where
  start := new ⟨2, ⟨10000, true⟩⟩ .ready
  input
    | 0 => .start .useLocation
    | 1 => .reply 0 (.position (.ok x))
    | 2 => .reply 0 (.address (.ok ⟨none, none, none⟩))
    | 3 => .setText "Oslo, Norway"
    | 4 => .start .locate
    | 5 => .start .useLocation
    | _ => .dismiss

theorem meanwhile_overlaps :
    FillsFromOwn (meanwhile ⟨1.5, 2.5⟩) 0 2
      (some ⟨coordinateStyle.render 2.5 ++ ", " ++ coordinateStyle.render 1.5,
        coordinateStyle.render 2.5 ++ ", " ++ coordinateStyle.render 1.5, .geolocation⟩) ∧
    Overlaps (meanwhile ⟨1.5, 2.5⟩) 5 :=
  ⟨((fillsFromOwn_iff_not_overlaps (a := 0) rfl rfl).1 2 _ (.head _)).mpr
    (fun h => nomatch h.1), rfl, nofun⟩

/-- The call fills the field with the older position. -/
theorem meanwhile_not_fillsFromOwn :
    (meanwhile ⟨1.5, 2.5⟩).input 5 = .start .useLocation ∧
    ((meanwhile ⟨1.5, 2.5⟩).state 5).nextJob = 2 ∧
    .finish 2 (.picked (some ⟨coordinateStyle.render 2.5 ++ ", " ++ coordinateStyle.render 1.5,
        coordinateStyle.render 2.5 ++ ", " ++ coordinateStyle.render 1.5, .geolocation⟩)) ∈
      (meanwhile ⟨1.5, 2.5⟩).output 5 ∧
    ((meanwhile ⟨1.5, 2.5⟩).state 5).field.text = "Oslo, Norway" ∧
    ((meanwhile ⟨1.5, 2.5⟩).state 6).field.text =
      coordinateStyle.render 2.5 ++ ", " ++ coordinateStyle.render 1.5 ∧
    ¬ FillsFromOwn (meanwhile ⟨1.5, 2.5⟩) 2 5
      (some ⟨coordinateStyle.render 2.5 ++ ", " ++ coordinateStyle.render 1.5,
        coordinateStyle.render 2.5 ++ ", " ++ coordinateStyle.render 1.5, .geolocation⟩) := by
  refine ⟨rfl, rfl, .tail _ (.head _), rfl, rfl, ?_⟩
  rintro ⟨e, x, he, ⟨hi, -⟩, -⟩
  have hinputs : ∀ e < 5, (meanwhile ⟨1.5, 2.5⟩).input e ≠ .reply 2 (.position (.ok x)) := by
    intro e he h
    match e with
    | 0 | 1 | 2 | 3 | 4 => cases h
  exact hinputs e he hi

end Picker

end Whereto
