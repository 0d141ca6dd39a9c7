import Mathlib.Order.Nat
import Whereto.Proofs.Session.Rhythm

/-!
What a session comes to. Every text that is followed by a pause gets a ticket and a job that looks
it up; and what the field shows in the end is what was found for the text that was typed last,
however many older lookups are under way or end later.
-/

namespace Whereto

namespace Session

open Picker (Input Output)

variable {c : Course move} {quiet i k n job : ℕ} {t : Ticket}

/-- The ticket of a job is issued for a text that was typed. -/
structure Issues (c : Course move) (i k job : ℕ) (t : Ticket) : Prop where
  after : i < k
  types : Types c i t.query
  rests : Rests c i k
  dispatches : Dispatches c k job t

/-- What a move finds for the job that it goes to. -/
def found : Move → List Suggestion
  | .input i => i.found
  | _ => []

lemma Last.unique {u v : String} {j : ℕ} (hi : Last c i n u) (hj : Last c j n v) : i = j := by
  rcases Nat.lt_trichotomy i j with h | h | h
  · exact absurd hj.types (hi.rests j h hj.before v)
  · exact h
  · exact absurd hi.types (hj.rests i h hi.before u)

namespace Rhythm

/-! ### Tickets -/

/-- A ticket is issued at the end of the pause after a text. -/
lemma issues_of_dispatches (h : Rhythm c quiet) (hd : Dispatches c k job t) :
    ∃ i, Issues c i k job t ∧ time c k = time c i + quiet ∧ Silent c i k := by
  obtain ⟨-, hready, -, -⟩ := h.dispatches_iff.mp hd
  have empty {pending : Option (String × ℕ)}
      (ht : (c.state k).typing = some ⟨⟨quiet, pending⟩, []⟩) : False := by
    simp [ready?, ht] at hready
  cases h.phase k with
  | fresh _ _ typing => exact (empty typing).elim
  | waits _ _ _ typing => exact (empty typing).elim
  | @due i text last silent holds typing now =>
    obtain rfl : text = t.query := by simpa [ready?, typing, holds] using hready
    exact ⟨i, ⟨last.before, last.types, last.rests, hd⟩, now, silent⟩
  | issued _ _ _ _ _ _ _ _ typing => exact (empty typing).elim

lemma of_issues (h : Rhythm c quiet) (hi : Issues c i k job t) :
    time c k = time c i + quiet ∧ Silent c i k := by
  obtain ⟨j, hj, hnow, hsilent⟩ := h.issues_of_dispatches hi.dispatches
  have hij : i = j := Last.unique ⟨hi.after, hi.types, hi.rests⟩ ⟨hj.after, hj.types, hj.rests⟩
  rw [hij]
  exact ⟨hnow, hsilent⟩

/-- Once for every text. -/
lemma issues_unique (h : Rhythm c quiet) {k' job' : ℕ} {t' : Ticket} (hi : Issues c i k job t)
    (hi' : Issues c i k' job' t') : k = k' ∧ job = job' ∧ t = t' := by
  rcases Nat.lt_trichotomy k k' with hlt | rfl | hlt
  · exact absurd hi.dispatches ((h.of_issues hi').2 k hi.after hlt job t)
  · exact ⟨rfl, h.dispatches_unique hi.dispatches hi'.dispatches⟩
  · exact absurd hi'.dispatches ((h.of_issues hi).2 k' hi'.after hlt job' t')

/-- In the order of typing. -/
lemma issues_lt_iff (h : Rhythm c quiet) {i' k' job' : ℕ} {t' : Ticket}
    (hi : Issues c i k job t) (hi' : Issues c i' k' job' t') : i < i' ↔ k < k' := by
  have lt {i k job i' k' job' : ℕ} {t t' : Ticket} (hi : Issues c i k job t)
      (hi' : Issues c i' k' job' t') (hlt : i < i') : k < k' := by
    by_contra hle
    have := hi'.after
    exact hi.rests i' hlt (by omega) _ hi'.types
  constructor
  · exact lt hi hi'
  · intro hlt
    rcases Nat.lt_trichotomy i i' with h' | rfl | h'
    · exact h'
    · exact absurd (h.issues_unique hi hi').1 (Nat.ne_of_lt hlt)
    · have := lt hi' hi h'
      omega

/-- A text gets a ticket if and only if no other text was typed before the end of the pause. -/
lemma issues_iff (h : Rhythm c quiet) {text : String} (hi : Types c i text)
    (hn : time c i + quiet < time c n) :
    (∃ k job t, Issues c i k job t) ↔
      ∀ j v, i < j → Types c j v → time c i + quiet ≤ time c j := by
  have hin : i < n := by
    by_contra hle
    have := h.time_mono (m := n) (n := i) (by omega)
    omega
  constructor
  · rintro ⟨k, job, t, hk⟩ j v hij hj
    have hkj : k ≤ j := by
      by_contra hlt
      exact hk.rests j hij (by omega) v hj
    rw [← (h.of_issues hk).1]
    exact h.time_mono hkj
  · intro hlater
    -- when the pause is over and nothing else was typed, the ticket was issued
    have done {m : ℕ} (him : i < m) (hrests : Rests c i m)
        (hm : time c i + quiet < time c m) : ∃ k job t, Issues c i k job t := by
      have last : Last c i m text := ⟨him, hi, hrests⟩
      cases h.phase m with
      | fresh rests => exact absurd hi (rests i him text)
      | waits last' _ _ _ early =>
        rw [last.unique last'] at hm
        omega
      | due last' _ _ _ now =>
        rw [last.unique last'] at hm
        omega
      | @issued i' k job text' t last' after before dispatches query =>
        obtain rfl := last.unique last'
        exact ⟨k, job, t, after, query ▸ last'.types,
          fun j hij hjk => hrests j hij (by omega), dispatches⟩
    by_cases hrests : Rests c i n
    · exact done hin hrests hn
    · -- else the first text after it came later than the end of the pause
      have hex : ∃ j, i < j ∧ ∃ v, Types c j v := by
        simp only [Rests, not_forall, not_not] at hrests
        obtain ⟨j, hij, -, v, hv⟩ := hrests
        exact ⟨j, hij, v, hv⟩
      classical
      obtain ⟨hij, v, hv⟩ := Nat.find_spec hex
      have hrests' : Rests c i (Nat.find hex) := fun j hij hj w hw =>
        Nat.find_min hex hj ⟨hij, w, hw⟩
      have hne := h.apart i _ text v hij hi hv hrests'
      have hle := hlater _ v hij hv
      exact done hij hrests' (by omega)

/-! ### Lookups -/

/-- A dispatched job stays spawned until it begins. -/
lemma stage_of_dispatches (h : Rhythm c quiet) (hd : Dispatches c k job t) {m : ℕ} (hkm : k < m)
    (hnot : ∀ b, k < b → b < m → (c.input b).2 ≠ .input (.begin job)) :
    (c.state m).picker.stage? job = some (.spawned (.complete t)) := by
  obtain ⟨hpump, hready, rfl, hgen⟩ := h.dispatches_iff.mp hd
  induction m, Nat.succ_le_of_lt hkm using Nat.le_induction with
  | base =>
    rw [picker_succ (i := .dispatch t.query) (by simp [hpump, asks, hready])]
    rw [Picker.stage?_dispatch, ← hgen]
  | succ m hkm ih =>
    have hs := ih (by omega) fun b hkb hbm => hnot b hkb (by omega)
    cases hasks : (c.state m).asks (c.input m).2 with
    | none => rw [picker_rest hasks, hs]
    | some i =>
      rw [picker_succ hasks]
      refine Picker.spawned_stays (h.sound m) hs ?_ ?_
      · rintro rfl
        rcases h.asks_cases hasks with ⟨_, -, hi⟩ | ⟨_, -, -, hi⟩ | ⟨hm, -⟩
        · cases hi
        · cases hi
        · exact hnot m (by omega) (by omega) hm
      · rintro rfl
        rcases h.asks_cases hasks with ⟨_, -, hi⟩ | ⟨_, -, -, hi⟩ |
          ⟨-, ⟨_, hi⟩ | ⟨_, _, hi⟩⟩ <;> cases hi

/-- Time goes on from the last position of a moment. -/
lemma last_of_time (h : Rhythm c quiet) (hn : time c k < time c n) :
    ∃ m, k ≤ m ∧ time c m = time c k ∧ time c m < time c (m + 1) := by
  induction n with
  | zero => exact absurd (h.time_mono (Nat.zero_le k)) (Nat.not_le_of_lt hn)
  | succ n ih =>
    by_cases hlt : time c k < time c n
    · exact ih hlt
    · have hkn : k ≤ n := by
        by_contra hle
        have := h.time_mono (m := n + 1) (n := k) (by omega)
        omega
      have hnow := h.time_mono hkn
      exact ⟨n, hkn, by omega, by omega⟩

/-- A dispatched job begins in the same moment, and asks somebody if its query is long enough. -/
lemma begins_of_dispatches (h : Rhythm c quiet) (hd : Dispatches c k job t)
    (hn : time c k < time c n) :
    ∃ b, k < b ∧ time c b = time c k ∧ (c.input b).2 = .input (.begin job) ∧
      ((∃ question, .ask job question ∈ c.output b) ↔ c.start.picker.isShort t.query = false) ∧
      (c.start.picker.isShort t.query = true →
        ∃ shown, .finish job (.applied shown) ∈ c.output b) := by
  classical
  obtain ⟨m, hkm, hnow, hlt⟩ := h.last_of_time hn
  -- before time goes on, all jobs have begun
  have hex : ∃ b, k < b ∧ b ≤ m ∧ (c.input b).2 = .input (.begin job) := by
    by_contra hnone
    have hs := h.stage_of_dispatches hd (Nat.lt_succ_of_le hkm) fun b hkb hbm hb =>
      hnone ⟨b, hkb, Nat.le_of_lt_succ hbm, hb⟩
    exact (h.prompt m hlt).begun job _ hs
  obtain ⟨hkb, hbm, hb⟩ := Nat.find_spec hex
  have hs := h.stage_of_dispatches hd hkb fun b hkb hbfind hb =>
    Nat.find_min hex hbfind ⟨hkb, by omega, hb⟩
  have hout (o : Output) : o ∈ c.output (Nat.find hex) ↔
      o ∈ ((c.state (Nat.find hex)).picker.complete job t).2 := by
    rw [mem_output, hb]
    simp [asks, Picker.step, Picker.begin, hs]
  have hkb' := h.time_mono hkb.le
  have hbm' := h.time_mono hbm
  refine ⟨Nat.find hex, hkb, by omega, hb, ?_⟩
  simp only [hout, ← isShort_state c (Nat.find hex)]
  exact Picker.complete_asks _ job t

/-! ### What is shown in the end -/

lemma starts_iff (h : Rhythm c quiet) :
    (trail c).Starts k t ↔ Dispatches c k (c.state k).picker.nextJob t := by
  rw [h.dispatches_iff]
  constructor
  · rintro ⟨i, hi, hstarts⟩
    rcases h.asks_cases hi with ⟨_, -, rfl⟩ | ⟨query, hpump, hready, rfl⟩ |
      ⟨-, ⟨_, rfl⟩ | ⟨_, _, rfl⟩⟩
    · cases hstarts
    · cases hstarts
      exact ⟨hpump, hready, rfl, rfl⟩
    · cases hstarts
    · cases hstarts
  · rintro ⟨hpump, hready, -, hgen⟩
    refine ⟨.dispatch t.query, by simp [hpump, asks, hready], ?_⟩
    have ht : t = ⟨t.query, (c.state k).picker.field.generation + 1⟩ := by rw [← hgen]
    rw [ht]
    exact .dispatch

/-- As long as nothing else is typed, no other ticket is issued. -/
lemma silent_of_issues (h : Rhythm c quiet) (hi : Issues c i k job t) (hrests : Rests c i n) :
    Silent c k n := by
  intro m hkm hmn job' t' hd
  obtain ⟨j, hj, -⟩ := h.issues_of_dispatches hd
  have him : i < m := hi.after.trans hkm
  have hij : i = j := Last.unique ⟨him, hi.types, fun l hl hlm => hrests l hl (by omega)⟩
    ⟨hj.after, hj.types, hj.rests⟩
  have := (h.issues_unique hi (hij ▸ hj)).1
  omega

lemma not_supersedes (h : Rhythm c quiet) {m : ℕ} (htypes : ∀ text, ¬ Types c m text)
    (hsilent : ∀ job t, ¬ Dispatches c m job t) : ¬ (trail c).Supersedes m := by
  rintro ⟨i, hi, hsup⟩
  have work (hi : i.job? ≠ none) (hsel : ∀ x, ¬ (c.state m).picker.Selects i x) : False := by
    cases hsup with
    | selection hs => exact hsel _ hs
    | _ => exact hi rfl
  rcases h.asks_cases hi with ⟨text, htext, -⟩ | ⟨query, hpump, hready, -⟩ | ⟨-, hwork⟩
  · exact htypes text htext
  · exact hsilent _ ⟨query, _⟩ (h.dispatches_iff.mpr ⟨hpump, hready, rfl, rfl⟩)
  · have hjob : i.job? ≠ none := by
      rcases hwork with ⟨_, rfl⟩ | ⟨_, _, rfl⟩ <;> simp [Picker.Input.job?]
    exact work hjob fun x => (h.noneLocating m).not_selects hjob

lemma start_jobs (h : Rhythm c quiet) : (c.state 0).picker.jobs = [] := by
  obtain ⟨o, primary, -, hstart⟩ := h.start
  rw [Course.state_zero, hstart]
  rfl

/-- A dispatched ticket has the generation of the field after it. -/
lemma generation_succ (h : Rhythm c quiet) (hd : Dispatches c k job t) :
    (c.state (k + 1)).picker.field.generation = t.generation := by
  obtain ⟨hpump, hready, -, hgen⟩ := h.dispatches_iff.mp hd
  have hsup : (trail c).Supersedes k :=
    ⟨.dispatch t.query, by simp [hpump, asks, hready], .dispatch⟩
  rcases Picker.generation_trail (trail c) k with ⟨-, heq⟩ | ⟨hnot, -⟩
  · rw [hgen]
    exact heq
  · exact absurd hsup hnot

lemma generation_of_issues (h : Rhythm c quiet) (hi : Issues c i k job t) {m : ℕ} (hkm : k < m)
    (hmn : m ≤ n) (hrests : Rests c i n) :
    (c.state m).picker.field.generation = t.generation := by
  rw [← h.generation_succ hi.dispatches]
  refine (Picker.generation_eq_iff (r := trail c) (m := k + 1) hkm).mpr fun l hkl hlm => ?_
  have hafter := hi.after
  exact h.not_supersedes (hrests l (by omega) (by omega))
    (h.silent_of_issues hi hrests l (by omega) (by omega))

/-- The end of the lookup for a ticket, while nothing else is typed. -/
lemma ends_of_issues (h : Rhythm c quiet) (hi : Issues c i k job t) {f : ℕ} {shown : Bool}
    (hf : .finish job (.applied shown) ∈ c.output f) :
    ∃ j, (c.input f).2 = .input j ∧ k < f ∧ (c.state f).picker.Ends j job t ∧
      (c.state (f + 1)).picker = ((c.state f).picker.step j).1 ∧
      ((c.state f).picker.step j).view = (c.state f).picker.ending job t j.found := by
  obtain ⟨j, hasks, hf⟩ := mem_output.mp hf
  obtain ⟨-, -, hjob, -⟩ := h.dispatches_iff.mp hi.dispatches
  have hstarts : (trail c).Starts k t := h.starts_iff.mpr (hjob ▸ hi.dispatches)
  rw [hjob] at hf
  obtain ⟨hends, hview, -⟩ := Picker.ends_of_starts (r := trail c) h.start_jobs hstarts
    (fun _ _ hq => h.not_start hq _ rfl) hasks hf
  simp only [state_trail, ← hjob] at hends hview
  have old {s : Stage} (hs : (c.state f).picker.stage? job = some s) : k < f := by
    have hlt := (h.sound f).fresh _ s hs
    by_contra hle
    have := Picker.nextJob_mono (r := trail c) (m := f) (n := k) (by omega)
    simp only [state_trail] at this
    omega
  have hkf : k < f := by
    cases hends with
    | started => exact absurd rfl (h.not_start hasks _)
    | begun stage => exact old stage
    | predicted stage => exact old stage
    | searched stage => exact old stage
  have hm : (c.input f).2 = .input j := by
    rcases h.asks_cases hasks with ⟨_, -, rfl⟩ | ⟨_, -, -, rfl⟩ | ⟨hm, -⟩
    · cases hends
    · cases hends
    · exact hm
  exact ⟨j, hm, hkf, hends, picker_succ hasks, hview⟩

lemma asksLong (h : Rhythm c quiet) (n : ℕ) : (c.state n).picker.AsksLong := by
  refine keep_picker (fun _ _ hp => hp.of_step) (fun job s t hmem => ?_) n
  rw [show c.start.picker.jobs = [] from h.start_jobs] at hmem
  cases hmem

/-- As long as nothing is typed and no ticket is issued, the field changes only by the end of the
lookup under the latest ticket. -/
lemma field_succ (h : Rhythm c quiet) (htypes : ∀ text, ¬ Types c n text)
    (hsilent : ∀ job t, ¬ Dispatches c n job t)
    (hnot : ∀ i job t, (c.state n).asks (c.input n).2 = some i →
      (c.state n).picker.Ends i job t → t.generation ≠ (c.state n).picker.field.generation) :
    (c.state (n + 1)).picker.field = (c.state n).picker.field := by
  cases hasks : (c.state n).asks (c.input n).2 with
  | none => rw [picker_rest hasks]
  | some i =>
    rw [picker_succ hasks]
    have hwork : i.isWork = true ∧ i.job? ≠ none := by
      rcases h.asks_cases hasks with ⟨text, htext, -⟩ | ⟨query, hpump, hready, -⟩ |
        ⟨-, ⟨_, rfl⟩ | ⟨_, _, rfl⟩⟩
      · exact absurd htext (htypes text)
      · exact absurd (h.dispatches_iff.mpr ⟨hpump, hready, rfl, rfl⟩) (hsilent _ ⟨query, _⟩)
      · exact ⟨rfl, by simp [Picker.Input.job?]⟩
      · exact ⟨rfl, by simp [Picker.Input.job?]⟩
    rcases Picker.field_work (p := (c.state n).picker) hwork.1 with
      ⟨x, hsel, -⟩ | ⟨job, t, hends, latest, -⟩ | hsame
    · exact absurd hsel ((h.noneLocating n).not_selects hwork.2)
    · exact absurd latest (hnot i job t hasks hends)
    · exact hsame

/-- After the latest lookup has ended, none that ends is the latest. -/
lemma not_latest_after (h : Rhythm c quiet) (hi : Issues c i k job t) (hrests : Rests c i n)
    {f m job' : ℕ} {t' : Ticket} {j : Input} (hkf : k < f)
    (hgone : ∀ s, (job, s) ∉ (c.state (f + 1)).picker.jobs) (hfm : f < m) (hmn : m < n)
    (hj : (c.state m).asks (c.input m).2 = some j) (hends : (c.state m).picker.Ends j job' t') :
    t'.generation ≠ (c.state m).picker.field.generation := by
  intro latest
  rw [h.generation_of_issues hi (by omega) (by omega) hrests] at latest
  have hsilent := h.silent_of_issues hi hrests
  have hnone {l : ℕ} (hkl : k < l) (hlm : l ≤ m) : ¬ (trail c).Starts l t' := fun hs =>
    hsilent l hkl (by omega) _ _ (h.starts_iff.mp hs)
  rcases hends.origin (r := trail c) (m := f + 1) hfm hj with hcarries | ⟨l, hl, hlm, -, hs⟩
  · rcases hcarries.origin (r := trail c) (Nat.zero_le (f + 1)) with
      ⟨s, hmem, -⟩ | ⟨l, -, hlf, rfl, hs⟩
    · simp only [state_trail, h.start_jobs] at hmem
      cases hmem
    · -- the job that carries the ticket is an older one, and so is its ticket
      rcases Nat.lt_trichotomy l k with hlk | rfl | hkl
      · obtain ⟨-, -, -, hgen⟩ := h.dispatches_iff.mp hi.dispatches
        have hlt : t'.generation < t.generation :=
          calc t'.generation = (c.state (l + 1)).picker.field.generation :=
                (h.generation_succ (h.starts_iff.mp hs)).symm
            _ ≤ (c.state k).picker.field.generation := Picker.generation_mono (r := trail c) hlk
            _ < t.generation := hgen ▸ Nat.lt_succ_self _
        exact absurd latest (Nat.ne_of_lt hlt)
      · obtain ⟨s, hmem, -⟩ := hcarries
        obtain ⟨-, -, hjob, -⟩ := h.dispatches_iff.mp hi.dispatches
        exact hgone s (hjob ▸ hmem)
      · exact hnone hkl (by omega) hs
  · exact hnone (by omega) hlm hs

/-- When the lookup for the text that was typed last has ended, what it found is shown. -/
lemma shown_of_issues (h : Rhythm c quiet) (hi : Issues c i k job t) (hrests : Rests c i n)
    {f : ℕ} {shown : Bool} (hf : .finish job (.applied shown) ∈ c.output f) (hfn : f < n) :
    (c.state n).picker.field.suggestions = found (c.input f).2 ∧
    (c.state n).picker.field.isOpen = !(found (c.input f).2).isEmpty ∧
    (c.start.picker.isShort t.query = true → found (c.input f).2 = []) := by
  obtain ⟨j, hm, hkf, hends, hpicker, hview⟩ := h.ends_of_issues hi hf
  have hfound : found (c.input f).2 = j.found := by rw [hm]; rfl
  rw [hfound]
  have hfield : (c.state (f + 1)).picker.field = (c.state f).picker.field.display j.found := by
    have hlatest := h.generation_of_issues hi hkf (by omega) hrests
    rw [hpicker]
    change ((c.state f).picker.step j).view.field = _
    rw [hview, Picker.ending, if_pos hlatest.symm]
  have hkeep : (c.state n).picker.field.suggestions = j.found ∧
      (c.state n).picker.field.isOpen = !j.found.isEmpty := by
    refine Course.keep (c := c) (P := fun s => s.picker.field.suggestions = j.found ∧
      s.picker.field.isOpen = !j.found.isEmpty) (Nat.succ_le_of_lt hfn)
      (by rw [hfield]; exact ⟨rfl, rfl⟩) fun m hfm hmn hold => ?_
    have hafter := hi.after
    have hsame : (c.state (m + 1)).picker.field = (c.state m).picker.field :=
      h.field_succ (hrests m (by omega) hmn)
        (h.silent_of_issues hi hrests m (by omega) hmn) fun j' job' t' hj' hends' =>
        h.not_latest_after hi hrests hkf (hpicker ▸ hends.retired) (by omega) hmn hj' hends'
    rw [hsame]
    exact hold
  refine ⟨hkeep.1, hkeep.2, fun hshort => ?_⟩
  by_contra hne
  have hlong := long_of_ends (h.asksLong f) hends hne
  rw [isShort_state, hshort] at hlong
  cases hlong

end Rhythm

/-- **Convergence.** Tickets are issued for typed texts, each at the end of the pause after its
text. A text gets one if and only if no other text was typed before the end of the pause; it gets
no more than one, and the order of the tickets is that of the texts. The job of a ticket begins
in the same moment, and asks somebody if and only if the text is long enough; otherwise it is
over at once. When the job has ended and nothing else was typed, what is shown is what this job
found, whatever older jobs do. -/
theorem session_converges (h : Rhythm c quiet) :
    (∀ k job t, Dispatches c k job t → ∃ i, Issues c i k job t) ∧
    (∀ i k job t, Issues c i k job t → time c k = time c i + quiet) ∧
    (∀ i text n, Types c i text → time c i + quiet < time c n →
      ((∃ k job t, Issues c i k job t) ↔
        ∀ j v, i < j → Types c j v → time c i + quiet ≤ time c j)) ∧
    (∀ i k job t k' job' t', Issues c i k job t → Issues c i k' job' t' →
      k = k' ∧ job = job' ∧ t = t') ∧
    (∀ i k job t i' k' job' t', Issues c i k job t → Issues c i' k' job' t' →
      (i < i' ↔ k < k')) ∧
    (∀ i k job t n, Issues c i k job t → time c k < time c n →
      ∃ b, k < b ∧ time c b = time c k ∧ (c.input b).2 = .input (.begin job) ∧
        ((∃ question, .ask job question ∈ c.output b) ↔
          c.start.picker.isShort t.query = false) ∧
        (c.start.picker.isShort t.query = true →
          ∃ shown, .finish job (.applied shown) ∈ c.output b)) ∧
    (∀ i k job t f n shown, Issues c i k job t → Rests c i n →
      .finish job (.applied shown) ∈ c.output f → f < n →
      (c.state n).picker.field.suggestions = found (c.input f).2 ∧
      (c.state n).picker.field.isOpen = !(found (c.input f).2).isEmpty ∧
      (c.start.picker.isShort t.query = true → found (c.input f).2 = [])) := by
  refine ⟨fun k job t hd => ?_, fun i k job t hi => (h.of_issues hi).1,
    fun i text n hi hn => h.issues_iff hi hn,
    fun i k job t k' job' t' hi hi' => h.issues_unique hi hi',
    fun i k job t i' k' job' t' hi hi' => h.issues_lt_iff hi hi',
    fun i k job t n hi hn => h.begins_of_dispatches hi.dispatches hn,
    fun i k job t f n shown hi hrests hf hfn => h.shown_of_issues hi hrests hf hfn⟩
  obtain ⟨i, hi, -⟩ := h.issues_of_dispatches hd
  exact ⟨i, hi⟩

/-- A text is typed, and before the pause a longer one, for which something is found. -/
def typingOn : Course move where
  start := start (.new ⟨2, ⟨10000, true⟩⟩ .ready) 300
  input
    | 0 => (0, .type "be")
    | 1 => (100, .type "berl")
    | 2 => (400, .fire)
    | 3 => (400, .pump)
    | 4 => (400, .input (.begin 0))
    | 5 => (500, .input (.reply 0 (.predictions (.ok [⟨"Berlin", ["Berlin", "Germany"]⟩]))))
    | _ => (500, .fire)

lemma rhythm_typingOn : Rhythm typingOn 300 where
  start := ⟨_, .ready, rfl, rfl⟩
  plays n := by
    match n with
    | 0 | 1 => exact .type
    | 2 => exact .fire
    | 3 => exact .pump
    | 4 => exact .begin
    | 5 => exact .reply
    | n + 6 => exact .fire
  onward n := by
    match n with
    | 0 | 1 | 2 | 3 | 4 | 5 => decide
    | n + 6 => exact le_rfl
  prompt n hn := by
    match n with
    | 0 => exact ⟨fun t ht => by cases ht; rfl, nofun, fun due hd => by cases hd; decide⟩
    | 1 => exact ⟨fun t ht => by cases ht; rfl, nofun, fun due hd => by cases hd; decide⟩
    | 4 =>
      refine ⟨fun t ht => by cases ht; rfl, fun job e hs => ?_, nofun⟩
      have hmem := Picker.mem_of_stage? hs
      cases hmem with
      | tail _ hmem => cases hmem
    | 2 | 3 | 5 => exact absurd hn (by decide)
    | n + 6 => exact absurd hn (lt_irrefl 500)
  apart i j u v hij hi hj hrests := by
    match i, j with
    | 0, 1 => decide
    | i + 1, 1 => omega
    | i, 0 => omega
    | i, 2 | i, 3 | i, 4 | i, 5 | i, n + 6 => cases hj

theorem typingOn_converges :
    Issues typingOn 1 3 0 ⟨"berl", 1⟩ ∧ .finish 0 (.applied true) ∈ typingOn.output 5 ∧
    (¬ ∃ k job t, Issues typingOn 0 k job t) ∧
    (typingOn.state 6).picker.field.suggestions = [⟨"Berlin", "Berlin, Germany", .primary⟩] := by
  have hissues : Issues typingOn 1 3 0 ⟨"berl", 1⟩ := by
    refine ⟨by decide, rfl, fun j h1 h3 text ht => ?_, .head _⟩
    obtain rfl : j = 2 := by omega
    cases ht
  have hrests : Rests typingOn 1 6 := by
    intro j h1 h6 text ht
    match j with
    | 2 | 3 | 4 | 5 => cases ht
  have hfinish : .finish 0 (.applied true) ∈ typingOn.output 5 := .tail _ (.head _)
  obtain ⟨-, -, hiff, -, -, -, hshown⟩ := session_converges rhythm_typingOn
  refine ⟨hissues, hfinish, fun hex => ?_, ?_⟩
  · have hlater := (hiff 0 "be" 5 rfl (by decide)).mp hex 1 "berl" (by decide) rfl
    exact absurd hlater (by decide)
  · exact (hshown 1 3 0 _ 5 6 true hissues hrests hfinish (by decide)).1

end Session

end Whereto
