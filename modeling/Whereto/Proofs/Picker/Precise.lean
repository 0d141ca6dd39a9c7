import Whereto.Proofs.Picker.Content
import Whereto.Proofs.Place.CityText

/-!
Submissions. The field is precise if and only if what was put there last is the position that a
call found; so what is submitted is the text of coordinates that the device answered, or it looks
like a city, and everything else is refused.
-/

namespace Whereto

namespace Picker

variable {p : Picker} {c : Course step} {k n : ℕ}

/-! ### The position in the field -/

/-- The field holds a position. It was put there last, by a call for the position that picked it;
the device answered it before, and the text is its longitude and its latitude. -/
def HoldsPosition (c : Course step) (n : ℕ) (x : Coordinates) : Prop :=
  (c.state n).field.text =
    coordinateStyle.render x.longitude ++ ", " ++ coordinateStyle.render x.latitude ∧
  ∃ a k s, c.input a = .start .useLocation ∧ k < n ∧
    .finish (c.state a).nextJob (.picked (some s)) ∈ c.output k ∧ (Trail.ofCourse c).Keeps k n ∧
    (c.state k).field.Takes x s (c.state (k + 1)).field ∧ ∃ e job, e < k ∧ Finds c e job x

/-- What a call for the position picks goes into the field; the device answered it. -/
lemma position_of_picked {job : ℕ} {s : Suggestion} (h0 : c.start.jobs = [])
    (hidle : c.start.locator = .idle) (h : .finish job (.picked (some s)) ∈ c.output k) :
    (∃ a, c.input a = .start .useLocation ∧ (c.state a).nextJob = job) ∧
      ∃ x, (c.state k).field.Takes x s (c.state (k + 1)).field ∧
        ∃ e job, e < k ∧ Finds c e job x := by
  obtain ⟨l, hsettles, hpick, hfield⟩ := finish_picked h
  obtain ⟨a, -, hjob, ha⟩ := hsettles.started h0
  have hsuggestion : l.suggestion? = some s := by
    unfold Locator.pick at hpick
    split at hpick
    · cases hpick
    · exact hpick.symm
  obtain ⟨located, hlocated, rfl⟩ := Option.map_eq_some_iff.mp hsuggestion
  refine ⟨⟨a, ha, hjob.symm⟩, located.position, .of_select hfield, ?_⟩
  generalize c.input k = i at hsettles
  cases hsettles with
  | known =>
    obtain ⟨e, job, hek, hfinds⟩ := located_origin h0 hidle hlocated
    exact ⟨e, job, hek, hfinds⟩
  | failed => cases hpick
  | expired => cases hpick
  | found stage =>
    obtain ⟨e, hek, hreply, hstage⟩ := describing_origin h0 (mem_of_stage? stage)
    cases hlocated
    exact ⟨e, _, hek, hreply, _, hstage⟩

/-- What makes the field precise was picked by a call for the position. -/
lemma picked_of_writes (hempty : c.start.field.suggestions = [])
    (hselect : ∀ s, c.input n ≠ .select s) (hw : (c.state n).Writes (c.input n))
    (h : (c.state (n + 1)).field.precise = true) :
    ∃ job s, .finish job (.picked (some s)) ∈ c.output n := by
  rw [Course.state_succ] at h
  generalize hi : c.input n = i at hw hselect
  cases hw with
  | typed => simp [hi, step, Field.setText] at h
  | @selected _ s hsel =>
    have hsource : s.source = .geolocation := by
      rw [hi, field_of_selects hsel] at h
      simpa [Field.select] using h
    have list {index : ℕ} (hs : (c.state n).field.suggestions[index]? = some s) : False := by
      obtain ⟨e, j, -, -, hfound⟩ := suggestions_origin (r := .ofCourse c) hempty
        (List.mem_of_getElem? hs)
      exact source_of_found hfound hsource
    cases hsel with
    | select => exact absurd rfl (hselect s)
    | picked hpicked =>
      obtain ⟨index, -, hs⟩ := picked_step hpicked
      exact (list hs).elim
    | located hlocated => exact ⟨_, s, by rw [Course.output, hi]; exact hlocated⟩

/-- **Precise fields** hold the position of the device, if suggestions are only selected from the
list. -/
theorem precise_iff_holdsPosition (h0 : c.start.jobs = []) (hidle : c.start.locator = .idle)
    (hempty : c.start.field = .empty) (picks : ∀ k s, c.input k ≠ .select s) (n : ℕ) :
    (c.state n).field.precise = true ↔ ∃ x, HoldsPosition c n x := by
  constructor
  · intro h
    induction n with
    | zero => simp [Course.state_zero, hempty, Field.empty] at h
    | succ n ih =>
      by_cases hw : (Trail.ofCourse c).Writes n
      · obtain ⟨i, hi, hwrites⟩ := hw
        obtain rfl : c.input n = i := by simpa using hi
        obtain ⟨job, s, hpicked⟩ := picked_of_writes (by rw [hempty]; rfl) (picks n)
          hwrites h
        obtain ⟨⟨a, ha, rfl⟩, x, htakes, horigin⟩ := position_of_picked h0 hidle hpicked
        exact ⟨x, by rw [htakes.field, ← htakes.value], a, n, s, ha, Nat.lt_succ_self n, hpicked,
          fun j _ _ => by omega, htakes, horigin⟩
      · obtain ⟨htext, hprecise⟩ := (Trail.ofCourse c).kept hw
        obtain ⟨x, hx, a, k, s, ha, hkn, hpicked, hkeeps, hs⟩ := ih (hprecise.symm.trans h)
        exact ⟨x, htext.trans hx, a, k, s, ha, by omega, hpicked, hkeeps.succ hw, hs⟩
  · rintro ⟨x, -, a, k, s, -, hkn, -, hkeeps, htakes, -⟩
    induction n, hkn using Nat.le_induction with
    | base => rw [htakes.field]
    | succ n hkn ih =>
      exact ((Trail.ofCourse c).kept (hkeeps n hkn (Nat.lt_succ_self n))).2.trans
        (ih (hkeeps.mono (Nat.le_succ n)))

/-! ### Submissions -/

/-- A submission leaves the picker alone. -/
lemma submit_still (p : Picker) : (p.step .submit).1 = p := by
  simp only [step, submit]
  split <;> rfl

/-- What a submission answers is what can be used of the field. -/
lemma submitted_iff {d : Option Destination} :
    .submitted d ∈ (p.step .submit).2 ↔ d = p.field.submit? := by
  simp only [step, submit]
  cases p.field.submit? <;> simp

/-- What a submission may answer: the position in the field, a text that looks like a city, or
nothing. -/
inductive Answers (c : Course step) (n : ℕ) : Option Destination → Prop
  | position {x : Coordinates} (h : HoldsPosition c n x) : Answers c n (some
      ⟨coordinateStyle.render x.longitude ++ ", " ++ coordinateStyle.render x.latitude, true⟩)
  | city (typed : (c.state n).field.precise = false)
      (shaped : IsCityShaped (Text.trim (c.state n).field.text)) :
      Answers c n (some ⟨Text.trim (c.state n).field.text, false⟩)
  | refused (typed : (c.state n).field.precise = false)
      (shapeless : ¬ IsCityShaped (Text.trim (c.state n).field.text)) : Answers c n none

/-- **Submissions are sound**, if suggestions are only selected from the list. The field is
precise if and only if it holds a position that the device answered. A submission changes nothing.
It is answered once: with the longitude and the latitude of the position, or with the trimmed text
if that looks like a city, and it is refused exactly if the field is not precise and the text does
not. -/
theorem submit_answers {o : PickerOptions} {primary : Primary} (hc : c.start = new o primary)
    (picks : ∀ k s, c.input k ≠ .select s) (n : ℕ) :
    ((c.state n).field.precise = true ↔ ∃ x, HoldsPosition c n x) ∧
    ((c.state n).step .submit).1 = c.state n ∧
    (∃ d, (∀ d', .submitted d' ∈ ((c.state n).step .submit).2 ↔ d' = d) ∧ Answers c n d) ∧
    (.submitted none ∈ ((c.state n).step .submit).2 ↔
      (c.state n).field.precise = false ∧ ¬ IsCityShaped (Text.trim (c.state n).field.text)) := by
  have hprecise := precise_iff_holdsPosition (c := c) (by rw [hc]; rfl) (by rw [hc]; rfl)
    (by rw [hc]; rfl) picks n
  refine ⟨hprecise, submit_still _, ⟨_, fun d' => submitted_iff, ?_⟩, ?_⟩
  · cases hp : (c.state n).field.precise with
    | true =>
      obtain ⟨x, hholds⟩ := hprecise.mp hp
      have htrim : Text.trim (c.state n).field.text = (c.state n).field.text := by
        rw [hholds.1, ← x.text_eq, x.trim_text]
      have hanswer : (c.state n).field.submit? = some ⟨(c.state n).field.text, true⟩ := by
        simp [Field.submit?, Destination.resolve?, Destination.isValid, hp, htrim]
      rw [hanswer, hholds.1]
      exact .position hholds
    | false =>
      have hanswer : (c.state n).field.submit? =
          if isCityText (Text.trim (c.state n).field.text)
          then some ⟨Text.trim (c.state n).field.text, false⟩ else none := by
        simp [Field.submit?, Destination.resolve?, Destination.isValid, hp]
      rw [hanswer]
      split
      · rename_i hs
        exact .city hp (isCityText_iff.mp hs)
      · rename_i hs
        exact .refused hp (mt isCityText_iff.mpr hs)
  · rw [submitted_iff, ← isCityText_iff, eq_comm]
    simp [Field.submit?, Destination.resolve?, Destination.isValid]

/-- The position is looked up and submitted, and then other places are typed and submitted. -/
def wandering (x : Coordinates) : Course step where
  start := new ⟨2, ⟨10000, true⟩⟩ .ready
  input
    | 0 => .setText "Oslo"
    | 1 => .start .useLocation
    | 2 => .reply 0 (.position (.ok x))
    | 3 => .reply 0 (.address (.ok ⟨none, none, none⟩))
    | 4 => .submit
    | 5 => .setText " Oslo, Norway"
    | 6 => .submit
    | 7 => .setText "Oslo"
    | 8 => .submit
    | _ => .dismiss

/-- The position is held as long as nothing else is typed. -/
theorem wandering_answers :
    (∀ k s, (wandering ⟨1.5, 2.5⟩).input k ≠ .select s) ∧
    HoldsPosition (wandering ⟨1.5, 2.5⟩) 4 ⟨1.5, 2.5⟩ ∧
    .submitted (some ⟨coordinateStyle.render 2.5 ++ ", " ++ coordinateStyle.render 1.5, true⟩) ∈
      (wandering ⟨1.5, 2.5⟩).output 4 ∧
    (∀ x, ¬ HoldsPosition (wandering ⟨1.5, 2.5⟩) 6 x) ∧
    .submitted (some ⟨"Oslo, Norway", false⟩) ∈ (wandering ⟨1.5, 2.5⟩).output 6 ∧
    .submitted none ∈ (wandering ⟨1.5, 2.5⟩).output 8 := by
  have picks : ∀ k s, (wandering ⟨1.5, 2.5⟩).input k ≠ .select s := by
    intro k s
    unfold wandering
    dsimp only
    split <;> nofun
  have hall := fun n => submit_answers (c := wandering ⟨1.5, 2.5⟩) rfl picks n
  have answered {x : Coordinates} (h : HoldsPosition (wandering ⟨1.5, 2.5⟩) 4 x) :
      x = ⟨1.5, 2.5⟩ := by
    obtain ⟨-, -, k, -, -, hk, -, -, -, e, job, hek, hi, -⟩ := h
    have he : e = 0 ∨ e = 1 ∨ e = 2 := by omega
    rcases he with rfl | rfl | rfl <;> cases hi
    rfl
  have held : HoldsPosition (wandering ⟨1.5, 2.5⟩) 4 ⟨1.5, 2.5⟩ := by
    obtain ⟨x, hx⟩ := (hall 4).1.mp rfl
    rwa [answered hx] at hx
  refine ⟨picks, held, ?_, fun x hx => ?_, ?_, ?_⟩
  · obtain ⟨d, hd, hanswer⟩ := (hall 4).2.2.1
    cases hanswer with
    | position hx =>
      rw [answered hx] at hd
      exact (hd _).mpr rfl
    | city typed => cases typed
    | refused typed => cases typed
  · exact absurd ((hall 6).1.mpr ⟨x, hx⟩) (by decide)
  · obtain ⟨d, hd, hanswer⟩ := (hall 6).2.2.1
    exact (hd _).mpr ((hd _).mp (submitted_iff.mpr (by decide +kernel)))
  · exact (hall 8).2.2.2.mpr ⟨rfl, mt isCityText_iff.mpr (by decide +kernel)⟩

end Picker

end Whereto
