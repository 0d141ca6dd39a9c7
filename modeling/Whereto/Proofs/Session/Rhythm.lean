import Mathlib.Order.Monotone.Basic
import Whereto.Proofs.Session.Selection

/-!
The rhythm of typing. While somebody types and does nothing else, a text waits, is due, and gets
its ticket, unless the next text comes first. So tickets are issued in the order of typing, once
for every text that is followed by a pause, and at the end of the pause.
-/

namespace Whereto

namespace Session

open Picker (Input Output)

variable {c : Course move} {quiet : ℕ}

/-- The time of a position. -/
def time (c : Course move) (n : ℕ) : ℕ := (c.input n).1

/-- A text is typed at a position. -/
def Types (c : Course move) (i : ℕ) (text : String) : Prop := (c.input i).2 = .type text

/-- Nothing is typed between two positions. -/
def Rests (c : Course move) (i n : ℕ) : Prop := ∀ j, i < j → j < n → ∀ text, ¬ Types c j text

/-- What happens while somebody types and does nothing else. -/
inductive Plays : Move → Prop
  | type {text : String} : Plays (.type text)
  | fire : Plays .fire
  | pump : Plays .pump
  | begin {job : ℕ} : Plays (.input (.begin job))
  | reply {job : ℕ} {r : Reply} : Plays (.input (.reply job r))

/-- Nothing is left to do before a time. -/
structure Idle (s : Session) (next : ℕ) : Prop where
  inbox : ∀ t, s.typing = some t → t.inbox = []
  begun : ∀ job e, s.picker.stage? job ≠ some (.spawned e)
  due : ∀ due, s.due? = some due → next ≤ due

/-- Somebody types, and does nothing else. What can be done is done before time goes on, and
nothing is typed in the moment in which a pause ends. -/
structure Rhythm (c : Course move) (quiet : ℕ) : Prop where
  start : ∃ o primary, primary.waiting = [] ∧ c.start = .start (.new o primary) quiet
  plays : ∀ n, Plays (c.input n).2
  onward : ∀ n, time c n ≤ time c (n + 1)
  prompt : ∀ n, time c n < time c (n + 1) → Idle (c.state (n + 1)) (time c (n + 1))
  apart : ∀ i j u v, i < j → Types c i u → Types c j v → Rests c i j →
    time c j ≠ time c i + quiet

/-- A job is spawned at a position to look up what a ticket asks for. -/
def Dispatches (c : Course move) (k job : ℕ) (t : Ticket) : Prop :=
  .spawned job (.complete t) ∈ c.output k

namespace Rhythm

lemma time_mono (h : Rhythm c quiet) {m n : ℕ} (hmn : m ≤ n) : time c m ≤ time c n :=
  monotone_nat_of_le_succ h.onward hmn

lemma asks_cases (h : Rhythm c quiet) {n : ℕ} {i : Input}
    (hi : (c.state n).asks (c.input n).2 = some i) :
    (∃ text, Types c n text ∧ i = .setText text) ∨
    (∃ query, (c.input n).2 = .pump ∧ (c.state n).ready? = some query ∧ i = .dispatch query) ∨
    (c.input n).2 = .input i ∧ ((∃ job, i = .begin job) ∨ ∃ job r, i = .reply job r) := by
  have hplays := h.plays n
  rcases Session.asks_cases hi with hm | ⟨text, hm, rfl⟩ | ⟨query, hm, hready, rfl⟩
  · rw [hm] at hplays
    refine .inr (.inr ⟨hm, ?_⟩)
    cases hplays with
    | begin => exact .inl ⟨_, rfl⟩
    | reply => exact .inr ⟨_, _, rfl⟩
  · exact .inl ⟨text, hm, rfl⟩
  · exact .inr (.inl ⟨query, hm, hready, rfl⟩)

lemma not_start (h : Rhythm c quiet) {n : ℕ} {i : Input}
    (hi : (c.state n).asks (c.input n).2 = some i) (call : Call) : i ≠ .start call := by
  rintro rfl
  have hplays := h.plays n
  rw [input_of_start hi] at hplays
  cases hplays

/-- While somebody types, nobody asks for the position. -/
lemma noneLocating (h : Rhythm c quiet) (n : ℕ) : (c.state n).picker.NoneLocating := by
  induction n with
  | zero =>
    obtain ⟨o, primary, -, hstart⟩ := h.start
    rw [Course.state_zero, hstart]
    nofun
  | succ n ih =>
    cases hasks : (c.state n).asks (c.input n).2 with
    | none => exact picker_rest hasks ▸ ih
    | some i => exact picker_succ hasks ▸ ih.of_step fun fill => h.not_start hasks _

lemma sound (h : Rhythm c quiet) (n : ℕ) : (c.state n).picker.Sound := by
  obtain ⟨o, primary, hline, hstart⟩ := h.start
  refine keep_picker (P := Picker.Sound) (fun _ i hp => (Picker.moves_step hp i).sound) ?_ n
  rw [hstart]
  exact Picker.sound_new o primary hline

/-- Only typing disturbs the field. -/
lemma calm (h : Rhythm c quiet) {n : ℕ} (hn : ∀ text, ¬ Types c n text) :
    ¬ Disturbs (c.state n) (c.input n).2 := by
  have hplays := h.plays n
  generalize hm : (c.input n).2 = m at hplays
  cases hplays with
  | type => exact absurd hm (hn _)
  | fire => exact not_disturbs_fire _
  | pump => exact not_disturbs_pump _
  | begin =>
    intro hd
    cases hd with
    | selected hsel => exact (h.noneLocating n).not_selects (by simp [Input.job?]) hsel
  | reply =>
    intro hd
    cases hd with
    | selected hsel => exact (h.noneLocating n).not_selects (by simp [Input.job?]) hsel

/-! ### Phases -/

/-- The pump dispatches what is ready, and nothing else is dispatched. -/
lemma dispatches_iff (h : Rhythm c quiet) {k job : ℕ} {t : Ticket} :
    Dispatches c k job t ↔ (c.input k).2 = .pump ∧ (c.state k).ready? = some t.query ∧
      job = (c.state k).picker.nextJob ∧
      t.generation = (c.state k).picker.field.generation + 1 := by
  rw [Dispatches, mem_output]
  constructor
  · rintro ⟨i, hasks, hmem⟩
    obtain ⟨rfl, hjob, hgen⟩ := Picker.spawned_step hmem
    rcases h.asks_cases hasks with ⟨_, -, hi⟩ | ⟨_, hm, hready, hi⟩ |
      ⟨-, ⟨_, hi⟩ | ⟨_, _, hi⟩⟩
    · cases hi
    · cases hi
      exact ⟨hm, hready, hjob, hgen⟩
    · cases hi
    · cases hi
  · rintro ⟨hm, hready, rfl, hgen⟩
    refine ⟨.dispatch t.query, by simp [hm, asks, hready], ?_⟩
    simp [Picker.step, Picker.dispatch, Picker.spawn, Field.issue, ← hgen]

/-- A move dispatches no more than one job. -/
lemma dispatches_unique (h : Rhythm c quiet) {k job job' : ℕ} {t t' : Ticket}
    (hd : Dispatches c k job t) (hd' : Dispatches c k job' t') : job = job' ∧ t = t' := by
  obtain ⟨-, hready, hjob, hgen⟩ := h.dispatches_iff.mp hd
  obtain ⟨-, hready', hjob', hgen'⟩ := h.dispatches_iff.mp hd'
  have hquery : t.query = t'.query := Option.some.inj (hready.symm.trans hready')
  refine ⟨hjob.trans hjob'.symm, ?_⟩
  cases t
  cases t'
  simp_all

lemma not_dispatches (h : Rhythm c quiet) {k : ℕ} (hk : (c.input k).2 ≠ .pump) (job : ℕ)
    (t : Ticket) : ¬ Dispatches c k job t := fun hd => hk (h.dispatches_iff.mp hd).1

end Rhythm

/-- A text was typed, and nothing since. -/
structure Last (c : Course move) (i n : ℕ) (text : String) : Prop where
  before : i < n
  types : Types c i text
  rests : Rests c i n

/-- Nothing is dispatched between two positions. -/
def Silent (c : Course move) (i n : ℕ) : Prop :=
  ∀ k, i < k → k < n → ∀ job t, ¬ Dispatches c k job t

/-- How far it has got with what was typed last. -/
inductive Phase (c : Course move) (quiet n : ℕ) : Prop
  | fresh (rests : ∀ j, j < n → ∀ text, ¬ Types c j text)
      (silent : ∀ k, k < n → ∀ job t, ¬ Dispatches c k job t)
      (typing : (c.state n).typing = some ⟨⟨quiet, none⟩, []⟩)
  | waits {i : ℕ} {text : String} (last : Last c i n text) (silent : Silent c i n)
      (holds : (c.state n).picker.field.text = text)
      (typing : (c.state n).typing = some ⟨⟨quiet, some (text, time c i + quiet)⟩, []⟩)
      (early : time c n ≤ time c i + quiet)
  | due {i : ℕ} {text : String} (last : Last c i n text) (silent : Silent c i n)
      (holds : (c.state n).picker.field.text = text)
      (typing : (c.state n).typing = some ⟨⟨quiet, none⟩, [text]⟩)
      (now : time c n = time c i + quiet)
  | issued {i k job : ℕ} {text : String} {t : Ticket} (last : Last c i n text)
      (after : i < k) (before : k < n) (dispatches : Dispatches c k job t)
      (query : t.query = text) (now : time c k = time c i + quiet) (silentBefore : Silent c i k)
      (silentAfter : Silent c k n)
      (typing : (c.state n).typing = some ⟨⟨quiet, none⟩, []⟩)

section

variable {i n : ℕ} {text : String}

lemma Last.succ (h : Last c i n text) (hn : ∀ text, ¬ Types c n text) : Last c i (n + 1) text where
  before := Nat.lt_succ_of_lt h.before
  types := h.types
  rests j hij hj := by
    rcases Nat.lt_succ_iff_lt_or_eq.mp hj with hlt | rfl
    · exact h.rests j hij hlt
    · exact hn

lemma Silent.succ (h : Silent c i n) (hn : ∀ job t, ¬ Dispatches c n job t) :
    Silent c i (n + 1) := by
  intro k hik hk
  rcases Nat.lt_succ_iff_lt_or_eq.mp hk with hlt | rfl
  · exact h k hik hlt
  · exact hn

lemma silent_succ (i : ℕ) : Silent c i (i + 1) := fun k hik hk => by omega

end

namespace Rhythm

variable {n : ℕ}

/-- Time does not go on while something is in the inbox. -/
lemma time_of_inbox (h : Rhythm c quiet) {d : Debouncer String} {query : String}
    {rest : List String} (ht : (c.state (n + 1)).typing = some ⟨d, query :: rest⟩) :
    time c (n + 1) = time c n := by
  rcases (h.onward n).lt_or_eq with hlt | heq
  · cases (h.prompt n hlt).inbox _ ht
  · exact heq.symm

/-- Time does not pass the moment in which a text is due. -/
lemma time_of_due (h : Rhythm c quiet) {text : String} {due : ℕ} {inbox : List String}
    (ht : (c.state (n + 1)).typing = some ⟨⟨quiet, some (text, due)⟩, inbox⟩)
    (hn : time c n ≤ due) : time c (n + 1) ≤ due := by
  rcases (h.onward n).lt_or_eq with hlt | heq
  · exact (h.prompt n hlt).due due (by simp [due?, ht, Debouncer.due?])
  · exact heq ▸ hn

lemma text_succ (h : Rhythm c quiet) (hn : ∀ text, ¬ Types c n text) :
    (c.state (n + 1)).picker.field.text = (c.state n).picker.field.text :=
  (calm_step (h.calm hn)).1

/-- A move that neither types nor fires nor dispatches leaves the phase as it is. -/
lemma phase_stay (h : Rhythm c quiet) (hn : ∀ text, ¬ Types c n text)
    (hsilent : ∀ job t, ¬ Dispatches c n job t)
    (htyping : (c.state (n + 1)).typing = (c.state n).typing) (hphase : Phase c quiet n) :
    Phase c quiet (n + 1) := by
  cases hphase with
  | fresh rests silent typing =>
    refine .fresh (fun j hj => ?_) (fun k hk => ?_) (htyping.trans typing)
    · rcases Nat.lt_succ_iff_lt_or_eq.mp hj with hlt | rfl
      · exact rests j hlt
      · exact hn
    · rcases Nat.lt_succ_iff_lt_or_eq.mp hk with hlt | rfl
      · exact silent k hlt
      · exact hsilent
  | waits last silent holds typing early =>
    exact .waits (last.succ hn) (silent.succ hsilent) ((h.text_succ hn).trans holds)
      (htyping.trans typing) (h.time_of_due (htyping.trans typing) early)
  | due last silent holds typing now =>
    exact .due (last.succ hn) (silent.succ hsilent) ((h.text_succ hn).trans holds)
      (htyping.trans typing) ((h.time_of_inbox (htyping.trans typing)).trans now)
  | issued last after before dispatches query now silentBefore silentAfter typing =>
    exact .issued (last.succ hn) after (Nat.lt_succ_of_lt before) dispatches query now
      silentBefore (silentAfter.succ hsilent) (htyping.trans typing)

/-- A typed text waits, and what was typed before it is settled. -/
lemma phase_type (h : Rhythm c quiet) {text : String} (hn : Types c n text)
    (hphase : Phase c quiet n) : Phase c quiet (n + 1) := by
  have hstate : c.state (n + 1) = ((c.state n).typeText (time c n) text).1 :=
    state_move hn
  have waits {pending : Option (String × ℕ)}
      (ht : (c.state n).typing = some ⟨⟨quiet, pending⟩, []⟩) : Phase c quiet (n + 1) := by
    have htyping : (c.state (n + 1)).typing =
        some ⟨⟨quiet, some (text, time c n + quiet)⟩, []⟩ := by
      rw [hstate]
      simp [typeText, step, ht, Debouncer.push]
    exact .waits ⟨Nat.lt_succ_self n, hn, fun j hnj hj => by omega⟩ (silent_succ n)
      (by rw [hstate]; rfl) htyping (h.time_of_due htyping (Nat.le_add_right _ _))
  cases hphase with
  | fresh _ _ typing => exact waits typing
  | waits _ _ _ typing => exact waits typing
  | due last _ _ _ now => exact absurd now (h.apart _ n _ _ last.before last.types hn last.rests)
  | issued _ _ _ _ _ _ _ _ typing => exact waits typing

/-- A timer makes a text due, if its time has come. -/
lemma phase_fire (h : Rhythm c quiet) (hn : (c.input n).2 = .fire) (hphase : Phase c quiet n) :
    Phase c quiet (n + 1) := by
  have hstate : c.state (n + 1) = (c.state n).fire (time c n) := state_move hn
  have htypes (text : String) : ¬ Types c n text := by simp [Types, hn]
  have hsilent := h.not_dispatches (k := n) (by simp [hn])
  have stay (ht : ((c.state n).fire (time c n)).typing = (c.state n).typing) :
      Phase c quiet (n + 1) :=
    h.phase_stay htypes hsilent (by rw [hstate, ht]) hphase
  cases hphase with
  | fresh _ _ typing => exact stay (by simp [fire, typing, Debouncer.fire])
  | @waits i text last silent holds typing early =>
    by_cases hdue : time c i + quiet ≤ time c n
    · have htyping : (c.state (n + 1)).typing = some ⟨⟨quiet, none⟩, [text]⟩ := by
        rw [hstate]
        simp [fire, typing, Debouncer.fire, hdue]
      exact .due (last.succ htypes) (silent.succ hsilent) ((h.text_succ htypes).trans holds)
        htyping ((h.time_of_inbox htyping).trans (le_antisymm early hdue))
    · exact stay (by simp [fire, typing, Debouncer.fire, hdue])
  | due _ _ _ typing => exact stay (by simp [fire, typing, Debouncer.fire])
  | issued _ _ _ _ _ _ _ _ typing => exact stay (by simp [fire, typing, Debouncer.fire])

/-- The pump has a ticket issued for a text that is due. -/
lemma phase_pump (h : Rhythm c quiet) (hn : (c.input n).2 = .pump) (hphase : Phase c quiet n) :
    Phase c quiet (n + 1) := by
  have hstate : c.state (n + 1) = (c.state n).pump.1 := state_move hn
  have htypes (text : String) : ¬ Types c n text := by simp [Types, hn]
  have stay {pending : Option (String × ℕ)}
      (ht : (c.state n).typing = some ⟨⟨quiet, pending⟩, []⟩) : Phase c quiet (n + 1) := by
    have hpump : (c.state n).pump = (c.state n, []) := by simp [pump, ht]
    have hready : (c.state n).ready? = none := by simp [ready?, ht]
    refine h.phase_stay htypes (fun job t hd => ?_) (by rw [hstate, hpump]) hphase
    have := (h.dispatches_iff.mp hd).2.1
    simp [hready] at this
  cases hphase with
  | fresh _ _ typing => exact stay typing
  | waits _ _ _ typing => exact stay typing
  | @due i text last silent holds typing now =>
    have hready : (c.state n).ready? = some text := by simp [ready?, typing, holds]
    have htyping : (c.state (n + 1)).typing = some ⟨⟨quiet, none⟩, []⟩ := by
      rw [hstate]
      simp [pump, typing, holds, step]
    exact .issued (last.succ htypes) last.before (Nat.lt_succ_self n)
      (h.dispatches_iff (t := ⟨text, (c.state n).picker.field.generation + 1⟩).mpr
        ⟨hn, hready, rfl, rfl⟩) rfl now silent (silent_succ n) htyping
  | issued _ _ _ _ _ _ _ _ typing => exact stay typing

/-- **The rhythm of typing**: at every position the session is in one of the phases. -/
theorem phase (h : Rhythm c quiet) (n : ℕ) : Phase c quiet n := by
  induction n with
  | zero =>
    obtain ⟨o, primary, -, hstart⟩ := h.start
    refine .fresh nofun nofun ?_
    rw [Course.state_zero, hstart]
    rfl
  | succ n ih =>
    have hplays := h.plays n
    generalize hm : (c.input n).2 = m at hplays
    cases hplays with
    | type => exact h.phase_type hm ih
    | fire => exact h.phase_fire hm ih
    | pump => exact h.phase_pump hm ih
    | begin =>
      refine h.phase_stay (by simp [Types, hm]) (h.not_dispatches (by simp [hm])) ?_ ih
      rw [state_move hm]
      rfl
    | reply =>
      refine h.phase_stay (by simp [Types, hm]) (h.not_dispatches (by simp [hm])) ?_ ih
      rw [state_move hm]
      rfl

end Rhythm

end Session

end Whereto
