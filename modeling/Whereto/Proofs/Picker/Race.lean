import Whereto.Proofs.Picker.Trail

/-!
Racing lookups. Every ticket carries the generation of the field in which it was issued, and the
result of a lookup is shown if that is still the generation of the field. So it is shown if and
only if no input superseded the ticket between its issue and the end of its lookup.
-/

namespace Whereto.Picker

variable {p : Picker} {i : Input} {c : Course step}

/-! ### The end of a lookup -/

lemma applied_mem_ending {job job' : ℕ} {t : Ticket} {found : List Suggestion} {shown : Bool} :
    .finish job' (.applied shown) ∈ (p.ending job t found).told ↔
      job' = job ∧ (shown = true ↔ t.generation = p.field.generation) := by
  unfold ending
  split
  · rename_i hg
    split <;> simp [hg]
  · rename_i hg
    simp [hg]

lemma applied_notMem_settled {job job' : ℕ} {fill : Bool} {shown : Bool} :
    .finish job' (.applied shown) ∉ (p.settled job fill).told := by
  unfold settled
  split
  · split <;> simp
  · simp [still]

lemma finish_applied_work {job : ℕ} {shown : Bool} (hi : i.isWork = true)
    (h : .finish job (.applied shown) ∈ (p.step i).2) :
    ∃ t, p.Ends i job t ∧ (p.step i).view = p.ending job t i.found ∧
      (shown = true ↔ t.generation = p.field.generation) := by
  have htold := (mem_told (r := p.step i) rfl).mpr h
  have hsight := sight_step p hi
  generalize (p.step i).view = v at htold hsight
  cases hsight with
  | still => simp [still] at htold
  | ended hends =>
    obtain ⟨rfl, hshown⟩ := applied_mem_ending.mp htold
    exact ⟨_, hends, rfl, hshown⟩
  | locating => simp at htold
  | givenUp => simp at htold
  | settled => exact absurd htold applied_notMem_settled

/-- A lookup answers whether it was shown when it ends, and it is shown if its ticket is the
latest. -/
lemma finish_applied {job : ℕ} {shown : Bool}
    (h : .finish job (.applied shown) ∈ (p.step i).2) :
    (∃ query, i = .start (.handle query) ∧ job = p.nextJob) ∨
      ∃ t, p.Ends i job t ∧ (p.step i).view = p.ending job t i.found ∧
        (shown = true ↔ t.generation = p.field.generation) := by
  by_cases hi : i.isWork = true
  · exact .inr (finish_applied_work hi h)
  · cases tells_step (by simpa using hi) ((mem_told rfl).mpr h) with
    | handled => exact .inl ⟨_, rfl, rfl⟩

/-- A ticket is issued in the generation that comes next. -/
lemma issued_step {t : Ticket} (h : .issued t ∈ (p.step i).2) :
    p.Supersedes i ∧ t.generation = p.field.generation + 1 := by
  rcases told_step rfl h with h | ⟨-, ⟨_, h⟩ | ⟨_, _, h⟩⟩
  · cases h with
    | issued => exact ⟨.issue, rfl⟩
  · cases h
  · cases h

/-- The end of a lookup goes back to the start of its job, and so to its ticket. Only a query that is
handled at once has a ticket that is not issued yet. -/
lemma ends_of_starts {r : Trail} {b d : ℕ} {t : Ticket} {shown : Bool}
    (hempty : (r.state 0).jobs = []) (hb : r.Starts b t)
    (hwait : b = d → ∀ query, r.input b ≠ some (.start (.handle query)))
    (hi : r.input d = some i)
    (h : .finish (r.state b).nextJob (.applied shown) ∈ ((r.state d).step i).2) :
    (r.state d).Ends i (r.state b).nextJob t ∧
      ((r.state d).step i).view = (r.state d).ending (r.state b).nextJob t i.found ∧
      (shown = true ↔ t.generation = (r.state d).field.generation) := by
  rcases finish_applied h with ⟨query, rfl, hjob⟩ | ⟨u, hends, hview, hshown⟩
  · have hd : (r.state d).nextJob < (r.state (d + 1)).nextJob := by
      rw [r.step d, hi]
      exact nextJob_start _ _
    obtain rfl := position_unique hb.nextJob_lt hd hjob
    exact absurd hi (hwait rfl query)
  · rcases hends.origin (Nat.zero_le d) hi with ⟨s, hmem, -⟩ | ⟨k, -, -, hjob, hk⟩
    · simp [hempty] at hmem
    · obtain rfl := position_unique hb.nextJob_lt hk.nextJob_lt hjob
      obtain rfl := hb.unique hk
      exact ⟨hends, hview, hshown⟩

/-- **Race safety.** A finished lookup of a ticket answers that it was shown if and only if no
input has superseded the ticket since it was issued. If it was shown, the visible list is what it
found, and it is open unless nothing was found; the text, its precision and the generation stay. If
not, the field is left as it was. So no lookup of a ticket is ever shown once another ticket has
been issued. -/
theorem shown_iff_not_superseded {o : PickerOptions} {primary : Primary}
    (hc : c.start = new o primary) {a b d : ℕ} {t : Ticket} {shown : Bool}
    (issued : .issued t ∈ c.output a) (started : c.input b = .start (.complete t))
    (finished : .finish (c.state b).nextJob (.applied shown) ∈ c.output d) (had : a < d) :
    (shown = true ↔ ∀ k, a < k → k < d → ¬ (c.state k).Supersedes (c.input k)) ∧
    (c.state (d + 1)).field =
      (if shown then { (c.state d).field with
          suggestions := (c.input d).found, isOpen := !(c.input d).found.isEmpty }
        else (c.state d).field) ∧
    ∀ k u, a < k → k < d → .issued u ∈ c.output k → shown = false := by
  have hissued := issued_step issued
  have hgen : (c.state (a + 1)).field.generation = t.generation := by
    rcases generation_step (c.state a) (c.input a) with ⟨-, h⟩ | ⟨hnot, -⟩
    · rw [Course.state_succ, h, hissued.2]
    · exact absurd hissued.1 hnot
  have hstarts : (Trail.ofCourse c).Starts b t := ⟨_, rfl, by rw [started]; exact .complete⟩
  obtain ⟨-, hview, hshown⟩ := ends_of_starts (by simp [Course.state_zero, hc, new]) hstarts
    (by simp [started]) rfl finished
  simp only [Trail.state_ofCourse] at hview hshown
  have hiff : shown = true ↔ ∀ k, a < k → k < d → ¬ (c.state k).Supersedes (c.input k) := by
    rw [hshown, ← hgen, eq_comm]
    exact (generation_eq_iff (r := .ofCourse c) (m := a + 1) had).trans
      (by simp only [Trail.supersedes_ofCourse, Nat.succ_le_iff])
  refine ⟨hiff, ?_, fun k u hak hkd hu => ?_⟩
  · change ((c.state d).step (c.input d)).view.field = _
    rw [hview, ending]
    by_cases hg : t.generation = (c.state d).field.generation
    · simp [hg, hshown.mpr hg, Field.display]
    · simp [hg, mt hshown.mp hg]
  · by_contra hne
    have hall := hiff.mp (by simpa using hne)
    exact hall k hak hkd (issued_step hu).1

/-- Two lookups of which the later one is answered first. -/
def overtaking : Course step where
  start := new ⟨2, ⟨10000, true⟩⟩ .ready
  input
    | 0 => .issue "ber"
    | 1 => .issue "berl"
    | 2 => .start (.complete ⟨"ber", 1⟩)
    | 3 => .start (.complete ⟨"berl", 2⟩)
    | 4 => .reply 1 (.predictions (.ok [⟨"Berlin", ["Berlin", "Germany"]⟩]))
    | 5 => .reply 0 (.predictions (.ok [⟨"Bern", ["Bern", "Switzerland"]⟩]))
    | _ => .focus

theorem overtaking_shows_latest :
    (.finish 1 (.applied true) ∈ overtaking.output 4 ∧ (overtaking.state 5).field =
      ⟨"", false, [⟨"Berlin", "Berlin, Germany", .primary⟩], true, 2⟩) ∧
    .finish 0 (.applied false) ∈ overtaking.output 5 ∧ (overtaking.state 6).field =
      ⟨"", false, [⟨"Berlin", "Berlin, Germany", .primary⟩], true, 2⟩ := by
  have latest : .finish 1 (.applied true) ∈ overtaking.output 4 := .tail _ (.head _)
  have older : .finish 0 (.applied false) ∈ overtaking.output 5 := .tail _ (.head _)
  have shown := (shown_iff_not_superseded (a := 1) (b := 3) rfl (.head _) rfl latest
    (by decide)).2.1
  have kept := (shown_iff_not_superseded (a := 0) (b := 2) rfl (.head _) rfl older
    (by decide)).2.1
  exact ⟨⟨latest, shown⟩, older, kept.trans shown⟩

end Whereto.Picker
