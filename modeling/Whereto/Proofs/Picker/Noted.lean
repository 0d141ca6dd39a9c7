import Whereto.Proofs.Picker.Race
import Whereto.Proofs.Picker.Position

/-!
What is noted. Every note belongs to an answer, and whoever knows the answers knows the notes: a
lookup is noted by the ticket under which its job was started and by the list that is there after
it, a failure by the error of the locator, and a rejection by the text of the field.
-/

namespace Whereto.Picker

/-- The note that an output is. -/
def Output.note? : Output → Option Note
  | .note n => some n
  | _ => none

/-- The ticket under which an input starts a job. -/
def ticketOf? (p : Picker) : Input → Option Ticket
  | .start (.complete t) => some t
  | .start (.handle query) => some ⟨query, p.field.generation + 1⟩
  | .dispatch query => some ⟨query, p.field.generation + 1⟩
  | _ => none

/-- What is to be noted of an output, between two pickers. A ticket is known for every job that was
started under one. -/
def report (p q : Picker) (known : ℕ → Option Ticket) : Output → List Note
  | .finish job (.applied shown) =>
    match known job with
    | some t =>
      if shown then
        if p.isShort t.query then []
        else [.resolved t.query (q.field.suggestions.head?.map (·.source))
          q.field.suggestions.length]
      else [.discarded t.query t.generation q.field.generation]
    | none => []
  | .finish _ (.picked _) => (q.locator.error.map fun e => Note.locatingFailed e.message).toList
  | .submitted none => [.rejected (Text.trim p.field.text)]
  | _ => []

variable {p q : Picker} {i : Input} {t : Ticket} {r : Trail} {k n job : ℕ}
  {known : ℕ → Option Ticket}

/-! ### One step -/

/-- Notes and what is to be noted belong to what callers are told. -/
lemma noted_told (out : List Output) :
    (out.filter Output.tells).filterMap Output.note? = out.filterMap Output.note? := by
  induction out with
  | nil => rfl
  | cons o out ih =>
    by_cases ho : o.tells = true
    · rw [List.filter_cons_of_pos ho, List.filterMap_cons, List.filterMap_cons, ih]
    · have hnote : o.note? = none := by
        cases o with
        | note n => exact absurd rfl ho
        | _ => rfl
      rw [List.filter_cons_of_neg ho, List.filterMap_cons_none hnote, ih]

lemma report_told (out : List Output) :
    (out.filter Output.tells).flatMap (p.report q known) = out.flatMap (p.report q known) := by
  induction out with
  | nil => rfl
  | cons o out ih =>
    by_cases ho : o.tells = true
    · rw [List.filter_cons_of_pos ho, List.flatMap_cons, List.flatMap_cons, ih]
    · have hreport : p.report q known o = [] := by
        cases o with
        | finish job a => cases a <;> first | rfl | exact absurd rfl ho
        | submitted d => exact absurd rfl ho
        | _ => rfl
      rw [List.filter_cons_of_neg ho, List.flatMap_cons, hreport, ih, List.nil_append]

/-- Outputs are noted as they are to be, with one note at most. -/
structure Accounted (p q : Picker) (known : ℕ → Option Ticket) (out : List Output) : Prop where
  noted : out.filterMap Output.note? = out.flatMap (p.report q known)
  single : (out.filterMap Output.note?).length ≤ 1

lemma Accounted.of_told {out : List Output} (h : p.Accounted q known (out.filter Output.tells)) :
    p.Accounted q known out where
  noted := (noted_told out).symm.trans (h.noted.trans (report_told out))
  single := noted_told out ▸ h.single

lemma accounted_ending {found : List Suggestion} (ht : known job = some t)
    (hfield : q.field = (p.ending job t found).field) :
    p.Accounted q known (p.ending job t found).told := by
  unfold ending at hfield ⊢
  split at hfield
  · next hlatest =>
    have hlist : q.field.suggestions = found := by
      rw [hfield]
      rfl
    rw [if_pos hlatest]
    cases hshort : p.isShort t.query with
    | true => constructor <;> simp [List.filterMap_cons, Output.note?, report, ht, hshort]
    | false => constructor <;> simp [List.filterMap_cons, Output.note?, report, ht, hshort, hlist]
  · next hstale =>
    rw [if_neg hstale]
    constructor <;> simp [List.filterMap_cons, Output.note?, report, ht, hfield]

lemma accounted_settled {fill : Bool} (hlocator : q.locator = p.locator) :
    p.Accounted q known (p.settled job fill).told := by
  unfold settled
  cases fill with
  | false => exact ⟨rfl, Nat.zero_le _⟩
  | true =>
    cases herror : p.locator.error with
    | some e => constructor <;> simp [List.filterMap_cons, Output.note?, report, hlocator, herror]
    | none =>
      cases p.locator.suggestion? with
      | some x => constructor <;> simp [List.filterMap_cons, Output.note?, report, hlocator, herror]
      | none => constructor <;> simp [List.filterMap_cons, Output.note?, report, hlocator, herror]

lemma accounted_work (hi : i.isWork = true)
    (ht : ∀ job t, p.Ends i job t → known job = some t) :
    p.Accounted (p.step i).1 known (p.step i).view.told := by
  have hsight := sight_step p hi
  have hfield : (p.step i).1.field = (p.step i).view.field := rfl
  have hlocator : (p.step i).1.locator = (p.step i).view.locator := rfl
  generalize (p.step i).view = v at hsight hfield hlocator
  cases hsight with
  | still => exact ⟨rfl, Nat.zero_le _⟩
  | ended hends => exact accounted_ending (ht _ _ hends) hfield
  | locating => exact ⟨rfl, Nat.zero_le _⟩
  | givenUp => exact ⟨rfl, Nat.zero_le _⟩
  | @settled _ job fill l hsettles =>
    rw [locator_settled] at hlocator
    -- what is to be noted does not depend on the locator before the step
    have haccounted : Accounted { p with locator := l } (p.step i).1 known
        ({ p with locator := l }.settled job fill).told := accounted_settled hlocator
    exact ⟨haccounted.noted, haccounted.single⟩

/-- A query that is handled at once has a ticket of its own. -/
lemma accounted_handle {query : String}
    (ht : known p.nextJob = some ⟨query, p.field.generation + 1⟩) :
    p.Accounted (p.step (.start (.handle query))).1 known
      (p.step (.start (.handle query))).view.told := by
  have hfield : (p.step (.start (.handle query))).1.field =
      (p.step (.start (.handle query))).view.field := rfl
  have hview : (p.step (.start (.handle query))).view = _ := view_start p (.handle query)
  rw [hview] at hfield ⊢
  dsimp only at hfield ⊢
  rw [view_complete] at hfield ⊢
  split at hfield
  · next hshort =>
    rw [if_pos hshort]
    -- nor does it depend on the generation before the step
    have haccounted := accounted_ending (p := { p with field := p.field.supersede }) ht hfield
    exact ⟨haccounted.noted, haccounted.single⟩
  · next hlong =>
    rw [if_neg hlong]
    exact ⟨rfl, Nat.zero_le _⟩

/-- **A step notes what is to be noted** of what comes out. -/
theorem accounted_step (ht : ∀ job t, p.Ends i job t → known job = some t)
    (hhandle : ∀ query, i = .start (.handle query) →
      known p.nextJob = some ⟨query, p.field.generation + 1⟩) :
    p.Accounted (p.step i).1 known (p.step i).2 := by
  by_cases hi : i.isWork = true
  · exact .of_told (accounted_work hi ht)
  · cases i with
    | start call =>
      cases call with
      | handle query => exact .of_told (accounted_handle (hhandle query rfl))
      | _ => exact absurd rfl hi
    | selectIndex index =>
      simp only [step, selectIndex]
      split <;> exact ⟨rfl, Nat.zero_le _⟩
    | submit =>
      simp only [step, submit]
      split
      · exact ⟨rfl, Nat.zero_le _⟩
      · exact ⟨rfl, Nat.le_refl _⟩
    | _ => first | exact ⟨rfl, Nat.zero_le _⟩ | exact absurd rfl hi

/-! ### Trails -/

lemma ticketOf?_eq_some_iff : p.ticketOf? i = some t ↔ p.Starts i t := by
  constructor
  · intro h
    unfold ticketOf? at h
    split at h
    · cases h
      exact .complete
    · cases h
      exact .handle
    · cases h
      exact .dispatch
    · cases h
  · intro h
    cases h <;> rfl

namespace Trail

/-- The ticket under which a job was started, up to a position. -/
def ticket? (r : Trail) (n job : ℕ) : Option Ticket :=
  (List.range (n + 1)).findSome? fun k =>
    if (r.state k).nextJob = job then (r.input k).bind (r.state k).ticketOf? else none

/-- What is to be noted at a position. -/
def account (r : Trail) (n : ℕ) : List Note :=
  (r.output n).flatMap ((r.state n).report (r.state (n + 1)) (r.ticket? n))

lemma starts_iff : r.Starts k t ↔ (r.input k).bind (r.state k).ticketOf? = some t := by
  simp only [Starts, Option.bind_eq_some_iff, ticketOf?_eq_some_iff]

/-- Jobs have the tickets under which they were started. -/
lemma ticket?_of_starts (h : r.Starts k t) (hkn : k ≤ n) :
    r.ticket? n (r.state k).nextJob = some t := by
  have hmem : k ∈ List.range (n + 1) := List.mem_range.mpr (by omega)
  have hsome : (r.ticket? n (r.state k).nextJob).isSome := by
    rw [ticket?, List.findSome?_isSome_iff]
    refine ⟨k, hmem, ?_⟩
    simp [starts_iff.mp h]
  obtain ⟨u, hu⟩ := Option.isSome_iff_exists.mp hsome
  obtain ⟨j, -, hj⟩ := List.exists_of_findSome?_eq_some hu
  rw [Option.ite_none_right_eq_some] at hj
  have hstarts : r.Starts j u := starts_iff.mpr hj.2
  obtain rfl := position_unique hstarts.nextJob_lt h.nextJob_lt hj.1
  rw [hu, hstarts.unique h]

/-- A job that ends its lookup has the ticket that it ends with. -/
lemma ticket?_of_ends (h0 : (r.state 0).jobs = []) (hi : r.input n = some i)
    (h : (r.state n).Ends i job t) : r.ticket? n job = some t := by
  rcases h.origin (Nat.zero_le n) hi with ⟨s, hmem, -⟩ | ⟨k, -, hkn, rfl, hstarts⟩
  · simp [h0] at hmem
  · exact ticket?_of_starts hstarts hkn

lemma accounted_output (h0 : (r.state 0).jobs = []) (n : ℕ) :
    (r.state n).Accounted (r.state (n + 1)) (r.ticket? n) (r.output n) := by
  cases hi : r.input n with
  | none =>
    have hout : r.output n = [] := by rw [output, hi]
    rw [hout]
    exact ⟨rfl, Nat.zero_le _⟩
  | some i =>
    rw [output_of_input hi, state_of_input hi]
    refine accounted_step (fun job t hends => ticket?_of_ends h0 hi hends) ?_
    rintro query rfl
    exact ticket?_of_starts ⟨_, hi, .handle⟩ le_rfl

/-- **What is noted** at a position is what is to be noted of the answers. -/
theorem noted_eq_account (h0 : (r.state 0).jobs = []) (n : ℕ) :
    (r.output n).filterMap Output.note? = r.account n := (accounted_output h0 n).noted

lemma length_account_le (h0 : (r.state 0).jobs = []) (n : ℕ) : (r.account n).length ≤ 1 :=
  noted_eq_account h0 n ▸ (accounted_output h0 n).single

end Trail

end Whereto.Picker
