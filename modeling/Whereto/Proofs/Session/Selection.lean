import Whereto.Proofs.Picker.Location
import Whereto.Proofs.Picker.Race
import Whereto.Proofs.Picker.Sound
import Whereto.Proofs.Session.Moves

/-!
Selections in a session. What is selected stays in the field until somebody changes it. The list
stays closed as well, unless a text still waits that equals the selected one: the pump cannot tell
it from a text that was typed after the selection, and what is found for it is shown.
-/

namespace Whereto

namespace Session

open Picker (Input Output)

variable {s : Session} {m : Move} {now : ℕ} {c d : Course move}

/-- The move puts another text into the field, or has suggestions looked up or shown. -/
inductive Disturbs (s : Session) : Move → Prop
  | typed {text : String} : Disturbs s (.type text)
  | setText {text : String} : Disturbs s (.input (.setText text))
  | focused : Disturbs s (.input .focus)
  | issued {query : String} : Disturbs s (.input (.issue query))
  | dispatched {query : String} : Disturbs s (.input (.dispatch query))
  | handled {query : String} : Disturbs s (.input (.start (.handle query)))
  | completed {t : Ticket} : Disturbs s (.input (.start (.complete t)))
  | selected {i : Input} {x : Suggestion} (h : s.picker.Selects i x) : Disturbs s (.input i)

/-- Nothing disturbs the field up to a position. -/
def Calm (c : Course move) (n : ℕ) : Prop := ∀ k < n, ¬ Disturbs (c.state k) (c.input k).2

/-- The pump may still take the text for one that was typed, and it is long enough to be looked
up. -/
def Lingers (s : Session) (text : String) : Prop :=
  text ∈ s.waiting ∧ s.picker.isShort text = false

lemma asks_cases {i : Input} (h : s.asks m = some i) :
    m = .input i ∨ (∃ text, m = .type text ∧ i = .setText text) ∨
      ∃ query, m = .pump ∧ s.ready? = some query ∧ i = .dispatch query := by
  cases m with
  | input j =>
    cases h
    exact .inl rfl
  | type text =>
    cases h
    exact .inr (.inl ⟨text, rfl, rfl⟩)
  | pump =>
    obtain ⟨query, hready, rfl⟩ := Option.map_eq_some_iff.mp h
    exact .inr (.inr ⟨query, rfl, hready, rfl⟩)
  | fire => cases h
  | leave => cases h

/-- **Calm moves** keep the text of the field. They open the list only by the end of a lookup under
the latest ticket that found something. -/
theorem calm_step (hm : ¬ Disturbs s m) :
    (s.move (now, m)).1.picker.field.text = s.picker.field.text ∧
    ((s.move (now, m)).1.picker.field.isOpen = true → s.picker.field.isOpen = true ∨
      ∃ i job t, s.asks m = some i ∧ s.picker.Ends i job t ∧
        t.generation = s.picker.field.generation ∧ i.found ≠ []) := by
  rw [picker_move]
  cases hasks : s.asks m with
  | none => exact ⟨rfl, .inl⟩
  | some i =>
    have direct {j : Input} (hj : i = j) (hd : Disturbs s (.input j))
        (htext : ∀ text, j = .setText text → Disturbs s (.type text))
        (hquery : ∀ query, j ≠ .dispatch query) : False := by
      subst hj
      rcases asks_cases hasks with rfl | ⟨text, rfl, rfl⟩ | ⟨query, rfl, -, rfl⟩
      · exact hm hd
      · exact hm (htext text rfl)
      · exact hquery query rfl
    have heffect := Picker.effect_step s.picker i
    change ((s.picker.step i).1.field.text = _) ∧ ((s.picker.step i).1.field.isOpen = _ → _)
    generalize (s.picker.step i).1.field = f at heffect
    cases heffect with
    | typed => exact (direct rfl .setText (fun _ _ => .typed) nofun).elim
    | issued => exact (direct rfl .issued nofun nofun).elim
    | dispatched => exact ⟨rfl, .inl⟩
    | handled => exact (direct rfl .handled nofun nofun).elim
    | cleared => exact (direct rfl .handled nofun nofun).elim
    | selected h =>
      refine (direct rfl (.selected h) (fun _ _ => .typed) fun query hq => ?_).elim
      subst hq
      exact Picker.not_selects rfl (by simp) (by simp) (by simp) h
    | dismissed => exact ⟨rfl, fun h => by cases h⟩
    | focused => exact (direct rfl .focused nofun nofun).elim
    | @displayed _ job t hends latest =>
      exact ⟨rfl, fun h => .inr ⟨i, job, t, rfl, hends, latest, by
        simpa [Field.display] using h⟩⟩
    | same => exact ⟨rfl, .inl⟩

/-! ### The list stays closed -/

/-- All lookups under way are superseded. -/
def Outdated (s : Session) : Prop :=
  ∀ job t, s.picker.Carries job t → t.generation < s.picker.field.generation

/-- Up to a position, lookups are made only under tickets that were issued before. -/
def Honest (c : Course move) (a : ℕ) : Prop :=
  ∀ k t, k ≤ a → (c.input k).2 = .input (.start (.complete t)) →
    ∃ j, j < k ∧ .issued t ∈ c.output j

lemma issued_generation {j n : ℕ} {t : Ticket} (h : .issued t ∈ c.output j) (hjn : j < n) :
    t.generation ≤ (c.state n).picker.field.generation := by
  obtain ⟨i, hi, hout⟩ := mem_output.mp h
  obtain ⟨hsup, hgen⟩ := Picker.issued_step hout
  have hlt : (c.state j).picker.field.generation < (c.state n).picker.field.generation :=
    Picker.generation_lt_of_supersedes (r := trail c) ⟨i, hi, hsup⟩ hjn
  omega

/-- A selection supersedes all lookups under way. -/
lemma outdated_of_selects {a : ℕ} {i : Input} {x : Suggestion}
    (h0 : c.start.picker.jobs = []) (honest : Honest c a) (hi : (c.input a).2 = .input i)
    (hsel : (c.state a).picker.Selects i x) : Outdated (c.state (a + 1)) := by
  have hasks : (c.state a).asks (c.input a).2 = some i := by rw [hi]; rfl
  have hfield : (c.state (a + 1)).picker.field = (c.state a).picker.field.select x := by
    rw [picker_succ hasks, Picker.field_of_selects hsel]
  intro job t hcarries
  rw [hfield]
  change t.generation < (c.state a).picker.field.generation + 1
  rcases hcarries.origin (r := trail c) (m := 0) (Nat.zero_le (a + 1)) with
    ⟨st, hmem, -⟩ | ⟨k, -, hka, -, i', hi', hstarts⟩
  · change _ ∈ c.start.picker.jobs at hmem
    simp [h0] at hmem
  · -- a job that takes a new ticket is not started by a selection
    have fresh (hgen : t.generation = (c.state k).picker.field.generation + 1)
        (hsup : (c.state k).picker.Supersedes i') (hnot : ∀ y, ¬ (c.state k).picker.Selects i' y) :
        t.generation < (c.state a).picker.field.generation + 1 := by
      have hne : k ≠ a := by
        rintro rfl
        obtain rfl : i' = i := by simpa [hasks] using hi'.symm
        exact hnot x hsel
      have hlt : (c.state k).picker.field.generation < (c.state a).picker.field.generation :=
        Picker.generation_lt_of_supersedes (r := trail c) ⟨i', hi', hsup⟩ (by omega)
      omega
    cases hstarts with
    | complete =>
      obtain ⟨j, hjk, hissued⟩ := honest k t (by omega) (input_of_start hi')
      exact Nat.lt_succ_of_le (issued_generation hissued (by omega))
    | handle =>
      exact fresh rfl .handle fun y =>
        Picker.not_selects rfl (by simp) (by simp) (by simp)
    | dispatch =>
      exact fresh rfl .dispatch fun y =>
        Picker.not_selects rfl (by simp) (by simp) (by simp)

/-- A lookup that found something under a ticket had asked for it. -/
lemma long_of_ends {p : Picker} {i : Input} {job : ℕ} {t : Ticket} (hlong : p.AsksLong)
    (h : p.Ends i job t) (hfound : i.found ≠ []) : p.isShort t.query = false := by
  cases h with
  | started => exact absurd rfl hfound
  | begun => exact absurd rfl hfound
  | predicted stage => exact hlong job _ t (Picker.mem_of_stage? stage) rfl
  | searched stage => exact hlong job _ t (Picker.mem_of_stage? stage) rfl

lemma waiting_calm {n : ℕ} (calm : Calm d n) : (d.state n).waiting ⊆ d.start.waiting := by
  refine Course.keep (c := d) (P := fun s => s.waiting ⊆ d.start.waiting) (Nat.zero_le n)
    (List.Subset.refl _) fun k _ hkn hk => ?_
  refine List.Subset.trans (waiting_move fun text htext => calm k hkn ?_) hk
  rw [htext]
  exact .typed

lemma text_calm {n : ℕ} (calm : Calm d n) :
    (d.state n).picker.field.text = d.start.picker.field.text :=
  Course.keep (c := d) (P := fun s => s.picker.field.text = d.start.picker.field.text)
    (Nat.zero_le n) rfl fun k _ hkn hk => (calm_step (calm k hkn)).1.trans hk

/-- A lookup that is the latest began after the selection, for a text that waited. -/
lemma lingers_of_latest {n job : ℕ} {i : Input} {t : Ticket} (hout : Outdated d.start)
    (hlong : d.start.picker.AsksLong) (calm : Calm d (n + 1))
    (hi : (d.state n).asks (d.input n).2 = some i) (hends : (d.state n).picker.Ends i job t)
    (latest : t.generation = (d.state n).picker.field.generation) (hfound : i.found ≠ []) :
    Lingers d.start d.start.picker.field.text := by
  have hshort : (d.state n).picker.isShort t.query = false :=
    long_of_ends (keep_picker (fun _ _ h => h.of_step) hlong n) hends hfound
  rcases hends.origin (r := trail d) (Nat.zero_le n) hi with
    hcarries | ⟨k, -, hkn, -, j, hj, hstarts⟩
  · have hlt : t.generation < (d.state n).picker.field.generation :=
      calc t.generation < d.start.picker.field.generation := hout job t hcarries
        _ ≤ (d.state n).picker.field.generation :=
          Picker.generation_mono (r := trail d) (Nat.zero_le n)
    exact absurd latest (Nat.ne_of_lt hlt)
  · have hk : k < n + 1 := by omega
    have hcalm : Calm d k := fun m hm => calm m (by omega)
    cases hstarts with
    | complete => exact absurd (input_of_start hj ▸ .completed) (calm k hk)
    | handle => exact absurd (input_of_start hj ▸ .handled) (calm k hk)
    | @dispatch query =>
      rcases asks_cases hj with hm | ⟨_, -, h⟩ | ⟨_, -, hready, h⟩
      · exact absurd (hm ▸ .dispatched) (calm k hk)
      · cases h
      · cases h
        have htext : query = d.start.picker.field.text :=
          (text_of_ready? hready).symm.trans (text_calm hcalm)
        subst htext
        exact ⟨waiting_calm hcalm (mem_waiting_of_ready? hready),
          (isShort_state d n _).symm.trans hshort⟩

/-- The list stays closed if the text does not linger. -/
lemma closed_of_calm {n : ℕ} (hout : Outdated d.start) (hlong : d.start.picker.AsksLong)
    (hclosed : d.start.picker.field.isOpen = false)
    (hnot : ¬ Lingers d.start d.start.picker.field.text) (calm : Calm d n) :
    (d.state n).picker.field.isOpen = false := by
  induction n with
  | zero => exact hclosed
  | succ n ih =>
    have hn := ih fun k hk => calm k (by omega)
    have hstep : (d.state (n + 1)).picker.field.isOpen = true → _ :=
      (calm_step (calm n (Nat.lt_succ_self n))).2
    by_contra hopen
    rcases hstep (by simpa using hopen) with h | ⟨i, job, t, hi, hends, latest, hfound⟩
    · simp [hn] at h
    · exact hnot (lingers_of_latest hout hlong calm hi hends latest hfound)

/-! ### The list opens again -/

/-- A calm course, all at one time, opens the list. -/
def Opens (s : Session) (now : ℕ) : Prop :=
  ∃ (d : Course move) (n : ℕ), d.start = s ∧ (∀ k, (d.input k).1 = now) ∧ Calm d n ∧
    (d.state n).picker.field.isOpen = true

lemma Opens.of_isOpen (h : s.picker.field.isOpen = true) : Opens s now :=
  ⟨⟨s, fun _ => (now, .fire)⟩, 0, rfl, fun _ => rfl, nofun, h⟩

lemma Opens.of_move (hm : ¬ Disturbs s m) (h : Opens (s.move (now, m)).1 now) : Opens s now := by
  obtain ⟨d, n, hd, htime, calm, hopen⟩ := h
  have hstate (k : ℕ) : (Course.cons s (now, m) d).state (k + 1) = d.state k :=
    Course.state_cons hd k
  refine ⟨.cons s (now, m) d, n + 1, rfl, fun k => ?_, fun k hk => ?_, ?_⟩
  · cases k with
    | zero => rfl
    | succ k => exact htime k
  · cases k with
    | zero => exact hm
    | succ k =>
      rw [hstate]
      exact calm k (by omega)
  · rw [hstate]
    exact hopen

lemma not_disturbs_fire (s : Session) : ¬ Disturbs s .fire := by
  intro h
  cases h

lemma not_disturbs_pump (s : Session) : ¬ Disturbs s .pump := by
  intro h
  cases h

lemma not_disturbs_lookup {job : ℕ} {i : Input} (hi : i = .begin job ∨
    (∃ result, i = .reply job (.predictions result)) ∨ ∃ result, i = .reply job (.cities result)) :
    ¬ Disturbs s (.input i) := by
  have hsel (x : Suggestion) : ¬ s.picker.Selects i x := by
    intro h
    rcases Picker.selects_cases h with (rfl | ⟨_, rfl, -⟩) | ⟨_, _, h, -⟩
    · simp at hi
    · simp at hi
    · rcases hi with rfl | ⟨_, rfl⟩ | ⟨_, rfl⟩ <;> cases h
  intro h
  cases h with
  | selected h => exact hsel _ h
  | _ => simp at hi

/-- A job that looks suggestions up under the latest ticket has the list opened, if only the city
directory finds something. -/
lemma opens_of_spawned {job : ℕ} {t : Ticket}
    (stage : s.picker.stage? job = some (.spawned (.complete t)))
    (long : s.picker.isShort t.query = false)
    (latest : t.generation = s.picker.field.generation) : Opens s now := by
  refine .of_move (m := .input (.begin job)) (not_disturbs_lookup (.inl rfl)) ?_
  refine .of_move (m := .input (.reply job (.predictions (.ok []))))
    (not_disturbs_lookup (.inr (.inl ⟨_, rfl⟩))) ?_
  refine .of_move (m := .input (.reply job (.cities (.ok [⟨"Oslo", none, "Norway"⟩]))))
    (not_disturbs_lookup (.inr (.inr ⟨_, rfl⟩))) ?_
  refine .of_isOpen ?_
  obtain ⟨hstage, hfield⟩ := Picker.searching_of_spawned stage long
  simp only [picker_move, asks, Picker.after]
  generalize ((s.picker.step (.begin job)).1.step (.reply job (.predictions (.ok [])))).1 = q
    at hstage hfield
  simp [Picker.step, Picker.reply, hstage, Picker.conclude, hfield, latest,
    Picker.directoryEntries, Field.display, Picker.retire]

/-- The pump takes one text after the other until it comes to that of the field. -/
lemma opens_of_inbox {d : Debouncer String} {inbox : List String}
    (htyping : s.typing = some ⟨d, inbox⟩) (hmem : s.picker.field.text ∈ inbox)
    (long : s.picker.isShort s.picker.field.text = false) : Opens s now := by
  induction inbox generalizing s with
  | nil => cases hmem
  | cons query rest ih =>
    refine .of_move (m := .pump) (not_disturbs_pump s) ?_
    by_cases hq : query = s.picker.field.text
    · subst hq
      have hpump : (s.move (now, .pump)).1 =
          ⟨(s.picker.step (.dispatch s.picker.field.text)).1, some ⟨d, rest⟩⟩ := by
        simp [move, pump, htyping, step]
      rw [hpump]
      exact opens_of_spawned (s.picker.stage?_dispatch _) long rfl
    · have hpump : (s.move (now, .pump)).1 = ⟨s.picker, some ⟨d, rest⟩⟩ := by
        simp [move, pump, htyping, hq]
      rw [hpump]
      exact ih rfl ((List.mem_cons.mp hmem).resolve_left (Ne.symm hq)) long

/-- From some time on, the list can be opened by a text that lingers. -/
lemma opens_of_lingers (h : Lingers s s.picker.field.text) : ∃ due, ∀ now ≥ due, Opens s now := by
  obtain ⟨hmem, long⟩ := h
  cases htyping : s.typing with
  | none => simp [waiting, htyping] at hmem
  | some t =>
    obtain ⟨⟨quiet, pending⟩, inbox⟩ := t
    simp only [waiting, htyping] at hmem
    cases pending with
    | none => exact ⟨0, fun now _ => opens_of_inbox htyping (by simpa using hmem) long⟩
    | some p =>
      refine ⟨p.2, fun now hnow => .of_move (m := .fire) (not_disturbs_fire s) ?_⟩
      have hfire : (s.move (now, .fire)).1 = ⟨s.picker, some ⟨⟨quiet, none⟩, inbox ++ [p.1]⟩⟩ := by
        simp [move, fire, htyping, Debouncer.fire, hnow]
      rw [hfire]
      exact opens_of_inbox rfl (by simpa using hmem) long

/-- One course goes on where another one has got to, at no earlier time. -/
structure Follows (c : Course move) (a : ℕ) (d : Course move) : Prop where
  start : d.start = c.state (a + 1)
  time : ∀ k, (c.input a).1 ≤ (d.input k).1 ∧ (d.input k).1 ≤ (d.input (k + 1)).1

/-- **A selection is final**, but for a text that lingers. The selected text stays in the field as
long as nothing disturbs it. The list stays closed in every calm course that follows if and only
if the selected text does not wait to be looked up itself, as one that was typed before; if it
does, it is looked up as if it had been typed after the selection. -/
theorem closed_iff_not_lingers {o : PickerOptions} {primary : Primary} {quiet : ℕ}
    (hc : c.start = start (.new o primary) quiet) {a : ℕ} {i : Input} {x : Suggestion}
    (hi : (c.input a).2 = .input i) (selects : (c.state a).picker.Selects i x) :
    (∀ d n, Follows c a d → Calm d n → (d.state n).picker.field.text = x.value) ∧
    (Honest c a →
      ((∀ d n, Follows c a d → Calm d n → (d.state n).picker.field.isOpen = false) ↔
        ¬ Lingers (c.state (a + 1)) x.value)) := by
  have h0 : c.start.picker.jobs = [] := by rw [hc]; rfl
  have hfield : (c.state (a + 1)).picker.field = (c.state a).picker.field.select x := by
    rw [picker_succ (by rw [hi]; rfl), Picker.field_of_selects selects]
  have htext : (c.state (a + 1)).picker.field.text = x.value := by rw [hfield]; rfl
  refine ⟨fun d n hd calm => ?_, fun honest => ⟨fun hall hling => ?_, fun hnot d n hd calm => ?_⟩⟩
  · rw [text_calm calm, hd.start, htext]
  · obtain ⟨due, hopens⟩ := opens_of_lingers (s := c.state (a + 1)) (by rwa [htext])
    obtain ⟨d, n, hstart, htime, calm, hopen⟩ := hopens (max due (c.input a).1) (le_max_left _ _)
    have hd : Follows c a d := ⟨hstart, fun k => by
      rw [htime, htime]
      exact ⟨le_max_right _ _, le_rfl⟩⟩
    simp [hall d n hd calm] at hopen
  · have hlong : (c.state (a + 1)).picker.AsksLong :=
      keep_picker (fun _ _ h => h.of_step) (fun job st t hmem => by simp [h0] at hmem) (a + 1)
    have hout := outdated_of_selects h0 honest hi selects
    rw [← hd.start] at hlong hout htext hnot
    rw [← htext] at hnot
    refine closed_of_calm hout hlong ?_ hnot calm
    rw [hd.start, hfield]
    rfl

/-- A place is typed, and before the pause it is selected from somewhere else. -/
def reselecting : Course move where
  start := start (.new ⟨2, ⟨10000, true⟩⟩ .ready) 300
  input
    | 0 => (0, .type "Oslo, Norway")
    | 1 => (100, .input (.select ⟨"Oslo, Norway", "Oslo, Norway", .primary⟩))
    | 2 => (300, .fire)
    | 3 => (300, .pump)
    | 4 => (300, .input (.begin 0))
    | 5 => (300, .input (.reply 0 (.predictions (.ok [⟨"Oslo, Norway", ["Oslo", "Norway"]⟩]))))
    | _ => (300, .fire)

theorem reselecting_lingers :
    Lingers (reselecting.state 2) "Oslo, Norway" ∧
    ¬ ∀ d n, Follows reselecting 1 d → Calm d n → (d.state n).picker.field.isOpen = false := by
  have lingers : Lingers (reselecting.state 2) "Oslo, Norway" := ⟨.head _, by decide⟩
  have honest : Honest reselecting 1 := by
    intro k t hk h
    match k with
    | 0 | 1 => cases h
  exact ⟨lingers, fun hall =>
    ((closed_iff_not_lingers (a := 1) rfl rfl .select).2 honest).mp hall lingers⟩

/-- The list opens after the selection although nothing disturbs it. -/
theorem reselecting_opens :
    (reselecting.state 1).picker.Selects (.select ⟨"Oslo, Norway", "Oslo, Norway", .primary⟩)
      ⟨"Oslo, Norway", "Oslo, Norway", .primary⟩ ∧
    (∀ k, 1 < k → k < 6 → ¬ Disturbs (reselecting.state k) (reselecting.input k).2) ∧
    (reselecting.state 6).picker.field.isOpen = true := by
  refine ⟨.select, fun k hk hk6 => ?_, by decide⟩
  match k with
  | 2 => exact not_disturbs_fire _
  | 3 => exact not_disturbs_pump _
  | 4 => exact not_disturbs_lookup (.inl rfl)
  | 5 => exact not_disturbs_lookup (.inr (.inl ⟨_, rfl⟩))

end Session

end Whereto
