import Whereto.Proofs.Picker.Content
import Whereto.Proofs.Session.Selection

/-!
Texts that are too short to be looked up. As long as such a text stays in the field the list is
empty and closed: lookups for longer texts may still be under way, but typing the short one has
superseded them; and those that begin after that are made for the short text, so they find nothing.
-/

namespace Whereto

namespace Session

open Picker (Input Output Trail)

variable {c : Course move} {k n w job : ℕ} {t : Ticket} {text : String}

/-- A text is typed at a position, in the session or right into the field. -/
def Enters (c : Course move) (w : ℕ) (text : String) : Prop :=
  (c.state w).asks (c.input w).2 = some (.setText text)

/-- The input issues a ticket for a query. -/
inductive Queries : Input → String → Prop
  | issue {query : String} : Queries (.issue query) query
  | dispatch {query : String} : Queries (.dispatch query) query
  | handle {query : String} : Queries (.start (.handle query)) query

/-- Up to a position, tickets are only issued for the text that the field holds. -/
def Current (c : Course move) (n : ℕ) : Prop :=
  ∀ k i query, k < n → (c.input k).2 = .input i → Queries i query →
    query = (c.state k).picker.field.text

/-! ### Tickets -/

/-- A ticket is issued at a position, for the text that the field holds. -/
structure IssuedAt (c : Course move) (j : ℕ) (t : Ticket) : Prop where
  query : t.query = (c.state j).picker.field.text
  generation : t.generation = (c.state j).picker.field.generation + 1
  asked : ∃ i, (c.state j).asks (c.input j).2 = some i ∧ Queries i t.query

/-- What issues a ticket does so for the text of the field: the pump compares the two, and so does
everybody else. -/
lemma issuedAt_of_queries {i : Input} (current : Current c n) (hkn : k < n)
    (hi : (c.state k).asks (c.input k).2 = some i) (hq : Queries i t.query)
    (hgen : t.generation = (c.state k).picker.field.generation + 1) : IssuedAt c k t where
  query := by
    rcases asks_cases hi with hm | ⟨_, -, rfl⟩ | ⟨query, -, hready, rfl⟩
    · exact current k i _ hkn hm hq
    · cases hq
    · generalize t.query = u at hq
      cases hq
      exact (text_of_ready? hready).symm
  generation := hgen
  asked := ⟨i, hi, hq⟩

lemma issue_of_issued {p : Picker} {i : Input} (h : .issued t ∈ (p.step i).2) :
    i = .issue t.query := by
  rcases Picker.told_step rfl h with h | ⟨-, ⟨_, h⟩ | ⟨_, _, h⟩⟩
  · cases h with
    | issued => rfl
  · cases h
  · cases h

/-- A lookup is made under a ticket that was issued for the text of the field. -/
lemma issuedAt_of_starts (honest : Honest c n) (current : Current c n) (hkn : k < n)
    (h : (trail c).Starts k t) : ∃ j ≤ k, IssuedAt c j t := by
  obtain ⟨i, hi, hstarts⟩ := h
  generalize hp : (trail c).state k = p at hstarts
  cases hstarts with
  | complete =>
    obtain ⟨j, hjk, hissued⟩ := honest k t (by omega) (input_of_start hi)
    obtain ⟨i', hi', hout⟩ := mem_output.mp hissued
    have hissue := issue_of_issued hout
    exact ⟨j, by omega, issuedAt_of_queries current (by omega) hi' (hissue ▸ .issue)
      (Picker.issued_step hout).2⟩
  | handle => exact ⟨k, le_rfl, issuedAt_of_queries current hkn hi .handle (hp ▸ rfl)⟩
  | dispatch => exact ⟨k, le_rfl, issuedAt_of_queries current hkn hi .dispatch (hp ▸ rfl)⟩

/-! ### The list -/

/-- No ticket of the latest generation has a long query while the text of the field is short. -/
lemma short_of_latest {j : ℕ} (entered : Enters c w text)
    (short : c.start.picker.isShort text = true) (keeps : (trail c).Keeps w n) (hwn : w < n)
    (hjn : j < n) (h : IssuedAt c j t)
    (latest : t.generation = (c.state n).picker.field.generation) :
    c.start.picker.isShort t.query = true := by
  have hsup : (trail c).Supersedes w :=
    ⟨_, entered, .short (by rw [state_trail, isShort_state, short])⟩
  have hafter : (c.state w).picker.field.generation < (c.state n).picker.field.generation :=
    Picker.generation_lt_of_supersedes (r := trail c) hsup hwn
  rcases Nat.lt_trichotomy j w with hjw | rfl | hwj
  · -- the short text superseded the ticket
    obtain ⟨i, hi, hq⟩ := h.asked
    have hissue : (trail c).Supersedes j := by
      refine ⟨i, hi, ?_⟩
      generalize t.query = u at hq
      cases hq with
      | issue => exact .issue
      | dispatch => exact .dispatch
      | handle => exact .handle
    have hbefore : (c.state j).picker.field.generation < (c.state w).picker.field.generation :=
      Picker.generation_lt_of_supersedes (r := trail c) hissue hjw
    have := h.generation
    omega
  · -- typing issues no ticket
    obtain ⟨i, hi, hq⟩ := h.asked
    rw [show (c.state j).asks (c.input j).2 = some (.setText text) from entered] at hi
    cases hi
    cases hq
  · -- the ticket was issued for the short text itself
    have htext : (c.state j).picker.field.text = text := by
      have hkept : (c.state j).picker.field.text = (c.state (w + 1)).picker.field.text :=
        (keeps.mono hjn.le).text (Nat.lt_succ_self w) hwj
      rw [hkept, picker_succ entered]
      rfl
    rw [h.query, htext, short]

/-- A lookup that may change the list finds nothing while the text of the field is short. -/
lemma found_eq_nil (h0 : c.start.picker.jobs = []) (honest : Honest c (n + 1))
    (current : Current c (n + 1)) (entered : Enters c w text)
    (short : c.start.picker.isShort text = true) (keeps : (trail c).Keeps w n) (hwn : w < n)
    {i : Input} (hi : (c.state n).asks (c.input n).2 = some i)
    (hends : (c.state n).picker.Ends i job t)
    (latest : t.generation = (c.state n).picker.field.generation) : i.found = [] := by
  by_contra hfound
  have hlong : (c.state n).picker.AsksLong :=
    keep_picker (fun _ _ h => h.of_step) (fun job st t hmem => by simp [h0] at hmem) n
  have hquery := long_of_ends hlong hends hfound
  rcases hends.origin (r := trail c) (Nat.zero_le n) hi with
    ⟨st, hmem, -⟩ | ⟨k, -, hkn, -, hstarts⟩
  · change _ ∈ c.start.picker.jobs at hmem
    simp [h0] at hmem
  · obtain ⟨j, hjk, hissued⟩ := issuedAt_of_starts honest current (by omega) hstarts
    have hjn : j < n := by
      rcases Nat.lt_or_ge j n with hlt | hge
      · exact hlt
      · -- a ticket that is issued only now is not the latest yet
        have := hissued.generation
        obtain rfl : j = n := by omega
        omega
    have hshort := short_of_latest entered short keeps hwn hjn hissued latest
    rw [isShort_state, hshort] at hquery
    cases hquery

/-- **Short texts have no list.** When tickets are issued only for the text of the field and
lookups are made only under tickets that were issued, the list is empty and closed as long as the
field holds a short text that was typed, whatever lookups end meanwhile, whatever texts still wait
and whoever looks at the list. -/
theorem closed_of_short {o : PickerOptions} {primary : Primary}
    (hc : c.start.picker = .new o primary) (hwn : w < n) (honest : Honest c n)
    (current : Current c n) (entered : Enters c w text) (keeps : (trail c).Keeps w n)
    (short : text.length < o.minChars) :
    (c.state n).picker.field.text = text ∧ (c.state n).picker.field.suggestions = [] ∧
      (c.state n).picker.field.isOpen = false := by
  have h0 : c.start.picker.jobs = [] := by rw [hc]; rfl
  have hshort : c.start.picker.isShort text = true := by
    rw [hc]
    exact decide_eq_true short
  have hfirst : (c.state (w + 1)).picker.field =
      { (c.state w).picker.field.supersede with
        suggestions := [], isOpen := false, text := text, precise := false } := by
    have hs : Field.isShort (c.state w).picker.options.minChars text = true := by
      rw [← hshort]
      exact isShort_state c w text
    rw [picker_succ entered]
    simp [Picker.step, Field.setText, hs]
  induction n, hwn using Nat.le_induction with
  | base => exact ⟨by rw [hfirst], by rw [hfirst], by rw [hfirst]⟩
  | succ n hwn ih =>
    obtain ⟨htext, hlist, hclosed⟩ := ih (fun k t hk => honest k t (by omega))
      (fun k i query hk => current k i query (by omega)) (keeps.mono n.le_succ)
    have hkept := keeps n hwn n.lt_succ_self
    refine ⟨((trail c).kept hkept).1.trans htext, ?_⟩
    cases hasks : (c.state n).asks (c.input n).2 with
    | none =>
      rw [picker_rest hasks]
      exact ⟨hlist, hclosed⟩
    | some i =>
      have heffect := Picker.effect_step (c.state n).picker i
      rw [picker_succ hasks]
      generalize ((c.state n).picker.step i).1.field = f at heffect
      cases heffect with
      | typed => exact absurd ⟨_, hasks, .typed⟩ hkept
      | selected h => exact absurd ⟨_, hasks, .selected h⟩ hkept
      | issued => exact ⟨hlist, hclosed⟩
      | dispatched => exact ⟨hlist, hclosed⟩
      | handled => exact ⟨hlist, hclosed⟩
      | cleared => exact ⟨rfl, rfl⟩
      | dismissed => exact ⟨hlist, rfl⟩
      | focused => simpa [Field.focus, hlist] using hclosed
      | displayed hends latest =>
        have hfound := found_eq_nil h0 honest current entered hshort (keeps.mono n.le_succ) hwn
          hasks hends latest
        simp [Field.display, hfound]
      | same => exact ⟨hlist, hclosed⟩

/-- A text is typed and looked up. Before there is an answer the text is shortened; then the answer
comes, the short text is let through, and somebody looks at the list. -/
def shortening : Course move where
  start := start (.new ⟨2, ⟨10000, true⟩⟩ .ready) 300
  input
    | 0 => (0, .type "oslo")
    | 1 => (300, .fire)
    | 2 => (300, .pump)
    | 3 => (300, .input (.begin 0))
    | 4 => (350, .type "o")
    | 5 => (500, .input (.reply 0 (.predictions (.ok [⟨"Oslo, Norway", ["Oslo", "Norway"]⟩]))))
    | 6 => (650, .fire)
    | 7 => (650, .pump)
    | 8 => (650, .input (.begin 1))
    | _ => (700, .input .focus)

/-- The answer to the older lookup is not shown. -/
theorem shortening_closed :
    Honest shortening 10 ∧ Current shortening 10 ∧ Enters shortening 4 "o" ∧
    (trail shortening).Keeps 4 10 ∧ (shortening.state 10).picker.field.text = "o" ∧
    (shortening.state 10).picker.field.suggestions = [] ∧
    (shortening.state 10).picker.field.isOpen = false := by
  have honest : Honest shortening 10 := by
    intro k t hk h
    match k with
    | 0 | 1 | 2 | 3 | 4 | 5 | 6 | 7 | 8 | 9 | 10 => cases h
  have current : Current shortening 10 := by
    intro k i query hk h hq
    match k with
    | 0 | 1 | 2 | 4 | 6 | 7 => cases h
    | 3 | 5 | 8 | 9 => cases h; cases hq
  have entered : Enters shortening 4 "o" := rfl
  have keeps : (trail shortening).Keeps 4 10 := by
    rintro j hj hj10 ⟨i, hi, hw⟩
    match j with
    | 5 =>
      cases hi
      cases hw with
      | selected h => exact not_disturbs_lookup (.inr (.inl ⟨_, rfl⟩)) (.selected h)
    | 6 => cases hi
    | 7 =>
      cases hi
      cases hw with
      | selected h => exact Picker.not_selects rfl (by simp) (by simp) (by simp) h
    | 8 =>
      cases hi
      cases hw with
      | selected h => exact not_disturbs_lookup (.inl rfl) (.selected h)
    | 9 =>
      cases hi
      cases hw with
      | selected h => exact Picker.not_selects rfl (by simp) (by simp) (by simp) h
  exact ⟨honest, current, entered, keeps,
    closed_of_short rfl (by decide) honest current entered keeps (by decide)⟩

end Session

end Whereto
