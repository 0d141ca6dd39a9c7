import Whereto.Proofs.Picker.Content
import Whereto.Proofs.Picker.Race

/-!
What the list shows. A step that shows a lookup puts all that was found into the list; any other
step leaves the list alone or clears it. So the list is empty, or it is what the lookup found that
was shown last, from one source and with a value in every entry.
-/

namespace Whereto

open Picker (usable directoryEntries)

/-- The entries come from one source, which is not the position of the device, and each of them
has a value. -/
structure Listable (ss : List Suggestion) : Prop where
  source : ∃ x, x ≠ Source.geolocation ∧ ∀ s ∈ ss, s.source = x
  value : ∀ s ∈ ss, s.value ≠ ""

lemma Listable.nil : Listable [] where
  source := ⟨.primary, nofun, nofun⟩
  value := nofun

/-- Between a city and its country there is at least a comma. -/
lemma CityToken.text_ne_empty (t : CityToken) : t.text ≠ "" := by
  obtain ⟨city, region, country⟩ := t
  cases region <;> simp [text, parts, Text.joined]

lemma listable_usable (result : Except Failure (List Prediction)) : Listable (usable result) := by
  have made {x : Prediction} {s : Suggestion} (h : x.suggestion? = some s) :
      s.source = .primary ∧ s.value ≠ "" := by
    unfold Prediction.suggestion? at h
    dsimp only at h
    split at h
    · cases h
    · rename_i hne
      cases h
      exact ⟨rfl, by simpa using hne⟩
  cases result with
  | error e => exact .nil
  | ok predictions =>
    constructor
    · refine ⟨.primary, nofun, fun s hs => ?_⟩
      obtain ⟨x, -, hx⟩ := List.mem_filterMap.mp hs
      exact (made hx).1
    · intro s hs
      obtain ⟨x, -, hx⟩ := List.mem_filterMap.mp hs
      exact (made hx).2

lemma listable_directoryEntries (result : Except Failure (List CityRecord)) :
    Listable (directoryEntries result) := by
  cases result with
  | error e => exact .nil
  | ok records =>
    constructor
    · refine ⟨.fallback, nofun, fun s hs => ?_⟩
      obtain ⟨r, -, rfl⟩ := List.mem_map.mp hs
      rfl
    · intro s hs
      obtain ⟨r, -, rfl⟩ := List.mem_map.mp hs
      exact r.token.text_ne_empty

namespace Picker

variable {p : Picker} {i : Input} {c : Course step}

lemma listable_found (i : Input) : Listable i.found := by
  cases i with
  | reply job reply =>
    cases reply with
    | predictions result => exact listable_usable result
    | cities result => exact listable_directoryEntries result
    | _ => exact .nil
  | _ => exact .nil

/-! ### Steps -/

/-- What is seen of the end of a lookup. -/
lemma Ends.view {job : ℕ} {t : Ticket} (h : p.Ends i job t) :
    (p.step i).view = p.ending job t i.found := by
  cases h with
  | started short =>
    rw [step, view_start]
    dsimp only
    rw [view_complete, if_pos short]
    rfl
  | begun stage short =>
    have hstep : p.step (.begin job) = p.conclude job (.display t) [] := by
      simp [step, begin, stage, complete, short]
    rw [hstep, view_conclude_display]
    rfl
  | @predicted _ _ _ result stage hsome =>
    have hstep : p.step (.reply job (.predictions result)) =
        p.conclude job (.display t) (usable result) := by
      simp [step, reply, stage, hsome]
    rw [hstep, view_conclude_display]
    rfl
  | @searched _ _ result stage =>
    have hstep : p.step (.reply job (.cities result)) =
        p.conclude job (.display t) (directoryEntries result) := by
      simp [step, reply, stage]
    rw [hstep, view_conclude_display]
    rfl

/-- The step shows a lookup. -/
def Shows (p : Picker) (i : Input) : Prop := ∃ job, .finish job (.applied true) ∈ (p.step i).2

lemma Ends.shows {job : ℕ} {t : Ticket} (h : p.Ends i job t)
    (latest : t.generation = p.field.generation) : p.Shows i := by
  refine ⟨job, (mem_told rfl).mp ?_⟩
  rw [h.view, applied_mem_ending]
  exact ⟨rfl, by simp [latest]⟩

/-- A lookup that is shown is the end of a job under a ticket, or it was made for a query that is
too short and is over at once. -/
lemma Shows.cases (h : p.Shows i) :
    (∃ job t, p.Ends i job t ∧ .finish job (.applied true) ∈ (p.step i).2 ∧
      (p.step i).1.field = p.field.display i.found) ∨ (p.step i).1.field.suggestions = [] := by
  obtain ⟨job, hout⟩ := h
  rcases finish_applied hout with ⟨query, rfl, rfl⟩ | ⟨t, hends, hview, hshown⟩
  · right
    have heffect := effect_handle p query
    rw [step] at hout ⊢
    generalize hf : (p.start (.handle query)).1.field = f at heffect
    cases heffect with
    | handled long =>
      have htold := (mem_told (r := p.start (.handle query)) rfl).mpr hout
      rw [view_start] at htold
      dsimp only at htold
      rw [view_complete, if_neg (by simpa [isShort] using long)] at htold
      cases htold
    | cleared => rfl
    | selected hsel => exact absurd hsel (not_selects rfl (by simp) (by simp) (by simp))
    | displayed hends => cases hends
    | same _ keeps => exact absurd .handle keeps
  · left
    refine ⟨job, t, hends, hout, ?_⟩
    change (p.step i).view.field = _
    rw [hview, ending, if_pos (hshown.mp rfl)]

/-- A step that shows no lookup leaves the list alone or clears it. -/
lemma suggestions_of_not_shows (h : ¬ p.Shows i) :
    (p.step i).1.field.suggestions = p.field.suggestions ∨ (p.step i).1.field.suggestions = [] := by
  have heffect := effect_step p i
  generalize (p.step i).1.field = f at heffect
  cases heffect with
  | typed =>
    unfold Field.setText
    split
    · exact .inr rfl
    · exact .inl rfl
  | cleared => exact .inr rfl
  | focused =>
    unfold Field.focus
    split <;> exact .inl rfl
  | displayed hends latest => exact absurd (hends.shows latest) h
  | _ => exact .inl rfl

/-- An empty list is never open. -/
lemma closed_step (h : p.field.isOpen = true → p.field.suggestions ≠ []) :
    (p.step i).1.field.isOpen = true → (p.step i).1.field.suggestions ≠ [] := by
  have heffect := effect_step p i
  generalize (p.step i).1.field = f at heffect
  cases heffect with
  | typed =>
    unfold Field.setText
    split
    · intro hopen
      cases hopen
    · exact h
  | cleared =>
    intro hopen
    cases hopen
  | selected =>
    intro hopen
    cases hopen
  | dismissed =>
    intro hopen
    cases hopen
  | focused =>
    unfold Field.focus
    split
    · exact h
    · rename_i hne
      intro _
      simpa using hne
  | displayed =>
    intro hopen
    simpa [Field.display] using hopen
  | _ => exact h

/-! ### Runs -/

/-- The lookup that was shown last before a position: it was made by a job under the ticket with
which the job was started, and it ended at a position after which none is shown. -/
structure ShownLast (c : Course step) (n e job : ℕ) (t : Ticket) : Prop where
  before : e < n
  ends : (c.state e).Ends (c.input e) job t
  answer : .finish job (.applied true) ∈ c.output e
  started : ∃ b ≤ e, job = (c.state b).nextJob ∧ (Trail.ofCourse c).Starts b t
  last : ∀ k, e < k → k < n → ¬ (c.state k).Shows (c.input k)

lemma ShownLast.succ {n e job : ℕ} {t : Ticket} (h : ShownLast c n e job t)
    (hn : ¬ (c.state n).Shows (c.input n)) : ShownLast c (n + 1) e job t where
  before := Nat.lt_succ_of_lt h.before
  ends := h.ends
  answer := h.answer
  started := h.started
  last k hek hkn := by
    rcases Nat.lt_succ_iff_lt_or_eq.mp hkn with hlt | rfl
    · exact h.last k hek hlt
    · exact hn

lemma eq_nil_or_shownLast (h0 : c.start.jobs = []) (hlist : c.start.field.suggestions = [])
    (n : ℕ) : (c.state n).field.suggestions = [] ∨
      ∃ e job t, ShownLast c n e job t ∧ (c.state n).field.suggestions = (c.input e).found := by
  induction n with
  | zero => exact .inl hlist
  | succ n ih =>
    rw [Course.state_succ]
    by_cases hshows : (c.state n).Shows (c.input n)
    · rcases hshows.cases with ⟨job, t, hends, hout, hfield⟩ | hnil
      · right
        have hstarted : ∃ b ≤ n, job = (c.state b).nextJob ∧ (Trail.ofCourse c).Starts b t := by
          rcases hends.origin (r := .ofCourse c) (Nat.zero_le n) rfl with
            ⟨s, hmem, -⟩ | ⟨b, -, hbn, hjob, hstarts⟩
          · simp [Course.state_zero, h0] at hmem
          · exact ⟨b, hbn, hjob, hstarts⟩
        refine ⟨n, job, t, ⟨Nat.lt_succ_self n, hends, hout, hstarted, ?_⟩, by rw [hfield]; rfl⟩
        intro k hnk hkn
        omega
      · exact .inl hnil
    · rcases suggestions_of_not_shows hshows with hsame | hnil
      · rw [hsame]
        rcases ih with hnil | ⟨e, job, t, hlast, hfound⟩
        · exact .inl hnil
        · exact .inr ⟨e, job, t, hlast.succ hshows, hfound⟩
      · exact .inl hnil

/-- **The list is what was shown last.** At every moment the list is empty, or it is the whole list
that was found by the lookup that was shown last, in its order. It is open only if it is not empty;
its entries come from one source, the places service or the city directory; and all of them have a
value. -/
theorem list_of_shownLast {o : PickerOptions} {primary : Primary} (hc : c.start = new o primary)
    (n : ℕ) :
    ((c.state n).field.suggestions = [] ∨
      ∃ e job t, ShownLast c n e job t ∧ (c.state n).field.suggestions = (c.input e).found) ∧
    ((c.state n).field.isOpen = true → (c.state n).field.suggestions ≠ []) ∧
    Listable (c.state n).field.suggestions := by
  have hlist := eq_nil_or_shownLast (c := c) (by rw [hc]; rfl) (by rw [hc]; rfl) n
  refine ⟨hlist, ?_, ?_⟩
  · refine Course.invariant
      (P := fun p : Picker => p.field.isOpen = true → p.field.suggestions ≠ [])
      (fun p i h => closed_step h) (Nat.zero_le n) ?_
    rw [Course.state_zero, hc]
    intro hopen
    cases hopen
  · rcases hlist with hnil | ⟨e, job, t, -, hfound⟩
    · rw [hnil]
      exact .nil
    · rw [hfound]
      exact listable_found _

/-- Nothing usable is predicted for a query, but the directory knows two cities. Another query is
answered too late, since it is typed on, and somebody closes the list and opens it again. -/
def browsing : Course step where
  start := new ⟨2, ⟨10000, true⟩⟩ .ready
  input
    | 0 => .setText "ber"
    | 1 => .start (.handle "ber")
    | 2 => .reply 0 (.predictions (.ok [⟨"Bern", [" "]⟩]))
    | 3 => .reply 0 (.cities (.ok [⟨"Bern", none, "Switzerland"⟩, ⟨"Bergen", some " ", "Norway"⟩]))
    | 4 => .start (.handle "berl")
    | 5 => .issue "berli"
    | 6 => .reply 1 (.predictions (.ok [⟨"Berlin", ["Berlin", "Germany"]⟩]))
    | 7 => .dismiss
    | _ => .focus

theorem browsing_list :
    (browsing.state 9).field.isOpen = true ∧
    (browsing.state 9).field.suggestions =
      [⟨"Bern, Switzerland", "Bern, Switzerland", .fallback⟩,
        ⟨"Bergen, Norway", "Bergen, Norway", .fallback⟩] ∧
    (∃ e job t, ShownLast browsing 9 e job t ∧
      (browsing.state 9).field.suggestions = (browsing.input e).found) ∧
    Listable (browsing.state 9).field.suggestions := by
  obtain ⟨hlist, hopen, hlistable⟩ := list_of_shownLast (c := browsing) rfl 9
  have isOpen : (browsing.state 9).field.isOpen = true := by decide +kernel
  exact ⟨isOpen, by decide +kernel, hlist.resolve_left (hopen isOpen), hlistable⟩

end Picker

end Whereto
