import Mathlib.Data.List.TakeWhile
import Mathlib.Order.Basic
import Mathlib.Order.Nat
import Mathlib.Tactic.Lemma
import Whereto.Picker.Debouncer

/-!
A debouncer under any schedule. At every moment one value waits at most, the one that was pushed
last, and all that was pushed before it has been decided on. Main statement: what is received by a
time are the values that were followed by a pause which is over by then, in the order in which they
were pushed; and if the debouncer is dropped at that time, the same values are received, however
late, and no others.
-/

namespace Whereto

/-- What can be done to a line. -/
inductive DebounceUse (α : Type) where
  | push (a : α)
  | receive
  | drop
  | abandon

/-- The pushed values that are followed by a pause, one that is over by a time: until its end
nothing else is pushed. -/
def settled {α : Type} (quiet stop : ℕ) : List (ℕ × α) → List α
  | [] => []
  | (t, a) :: later =>
    if t + quiet ≤ stop ∧ ∀ x ∈ later, t + quiet ≤ x.1 then a :: settled quiet stop later
    else settled quiet stop later

namespace DebounceUse

variable {α : Type}

/-- Neither end is given up. -/
def KeepsOpen (u : DebounceUse α) : Prop := u ≠ .drop ∧ u ≠ .abandon

def pushed? : DebounceUse α → Option α
  | push a => some a
  | _ => none

/-- What is pushed by a schedule, and when. -/
def pushes (us : List (ℕ × DebounceUse α)) : List (ℕ × α) :=
  us.filterMap fun u => u.2.pushed?.map (u.1, ·)

/-- The uses of a schedule up to a time. -/
def upTo (stop : ℕ) (us : List (ℕ × DebounceUse α)) : List (ℕ × DebounceUse α) :=
  us.takeWhile (·.1 ≤ stop)

end DebounceUse

namespace DebounceLine

open DebounceUse (pushes upTo)

variable {α : Type}

/-- The line after a use at a time, and what is received by it. What was due by then is emitted
first. -/
def use (l : DebounceLine α) : ℕ × DebounceUse α → DebounceLine α × List α
  | (now, .push a) => (l.push now a, [])
  | (now, .receive) => l.receive now
  | (now, .drop) => ((l.pass now).drop, [])
  | (now, .abandon) => ((l.pass now).abandon, [])

def after (l : DebounceLine α) (us : List (ℕ × DebounceUse α)) : DebounceLine α :=
  us.foldl (fun l u => (l.use u).1) l

/-- All that is received by one use after the other. -/
def received (l : DebounceLine α) : List (ℕ × DebounceUse α) → List α
  | [] => []
  | u :: us => (l.use u).2 ++ received (l.use u).1 us

lemma received_append (l : DebounceLine α) (us vs : List (ℕ × DebounceUse α)) :
    l.received (us ++ vs) = l.received us ++ (l.after us).received vs := by
  induction us generalizing l with
  | nil => rfl
  | cons u us ih =>
    rw [List.cons_append, received, received, ih, List.append_assoc]
    rfl

/-! ### The value that waits -/

/-- Both ends are there, and what waits was pushed at a time, if anything waits. -/
structure Holds (quiet : ℕ) (l : DebounceLine α) (lead : Option (ℕ × α)) : Prop where
  isOpen : l.isOpen = true
  pause : l.debouncer.quiet = quiet
  pending : l.debouncer.pending = lead.map fun x => (x.2, x.1 + quiet)

lemma holds_new (quiet : ℕ) : Holds quiet (new quiet : DebounceLine α) none := ⟨rfl, rfl, rfl⟩

variable {quiet now stop : ℕ} {l : DebounceLine α} {lead : Option (ℕ × α)}
  {rest : List (ℕ × α)}

/-- A value is settled if it is the last one and its pause is over, or if the next one comes only
after that. -/
lemma settled_cons_of_le {t : ℕ} (a : α) (hnow : t + quiet ≤ now) (hstop : now ≤ stop)
    (hrest : ∀ x ∈ rest, now ≤ x.1) :
    settled quiet stop ((t, a) :: rest) = a :: settled quiet stop rest := by
  have hpause : ∀ x ∈ rest, t + quiet ≤ x.1 := fun x hx => hnow.trans (hrest x hx)
  rw [settled, if_pos ⟨hnow.trans hstop, hpause⟩]

lemma settled_cons_of_lt {t : ℕ} {a b : α} (hnow : now < t + quiet) :
    settled quiet stop ((t, a) :: (now, b) :: rest) = settled quiet stop ((now, b) :: rest) := by
  rw [settled, if_neg]
  rintro ⟨-, hpause⟩
  have := hpause (now, b) List.mem_cons_self
  omega

/-- Before the end of its pause nothing is settled. -/
lemma settled_eq_nil (h : ∀ x ∈ rest, stop < x.1 + quiet) : settled quiet stop rest = [] := by
  induction rest with
  | nil => rfl
  | cons x rest ih =>
    obtain ⟨t, a⟩ := x
    have hlate : stop < t + quiet := h (t, a) List.mem_cons_self
    have hrest := ih fun y hy => h y (List.mem_cons_of_mem _ hy)
    simp only [settled, hrest]
    rw [if_neg]
    rintro ⟨hle, -⟩
    omega

/-- When time passes, what waits goes into the channel or goes on waiting; in both cases what is
settled in the end stays the same. -/
lemma Holds.pass (h : Holds quiet l lead) (now : ℕ) :
    ∃ lead', Holds quiet (l.pass now) lead' ∧ (∀ x ∈ lead', now < x.1 + quiet) ∧
      ∀ stop rest, now ≤ stop → (∀ x ∈ rest, now ≤ x.1) →
        (l.pass now).channel ++ settled quiet stop (lead'.toList ++ rest) =
          l.channel ++ settled quiet stop (lead.toList ++ rest) := by
  cases lead with
  | none =>
    have hpass : l.pass now = l := by
      simp [DebounceLine.pass, h.isOpen, Debouncer.fire, h.pending]
    rw [hpass]
    exact ⟨none, h, nofun, fun _ _ _ _ => rfl⟩
  | some x =>
    obtain ⟨t, a⟩ := x
    by_cases hdue : t + quiet ≤ now
    · have hpass : l.pass now = { l with
          debouncer := { l.debouncer with pending := none }, channel := l.channel ++ [a] } := by
        simp [DebounceLine.pass, h.isOpen, Debouncer.fire, h.pending, hdue]
      rw [hpass]
      refine ⟨none, ⟨h.isOpen, h.pause, rfl⟩, nofun, fun stop rest hstop hrest => ?_⟩
      have hsettled := settled_cons_of_le a hdue hstop hrest
      simp [hsettled]
    · have hpass : l.pass now = l := by
        simp [DebounceLine.pass, h.isOpen, Debouncer.fire, h.pending, hdue]
      rw [hpass]
      refine ⟨_, h, fun x hx => ?_, fun _ _ _ _ => rfl⟩
      cases hx
      omega

/-- A use that keeps both ends open: what is received, what is in the channel and what is settled
later are together what they were. -/
lemma Holds.use (h : Holds quiet l lead) {u : DebounceUse α} (hu : u.KeepsOpen)
    (hstop : now ≤ stop) (hrest : ∀ x ∈ rest, now ≤ x.1) :
    ∃ lead', Holds quiet (l.use (now, u)).1 lead' ∧
      (l.use (now, u)).2 ++ (l.use (now, u)).1.channel ++
          settled quiet stop (lead'.toList ++ rest) =
        l.channel ++ settled quiet stop (lead.toList ++ (pushes [(now, u)] ++ rest)) := by
  obtain ⟨lead', hpass, hwaits, hsettled⟩ := h.pass now
  cases u with
  | drop => exact absurd rfl hu.1
  | abandon => exact absurd rfl hu.2
  | receive =>
    have huse : l.use (now, .receive) =
        ({ l.pass now with channel := [] }, (l.pass now).channel) := by
      have habandoned : l.abandoned = false := by
        have hopen := h.isOpen
        simp only [DebounceLine.isOpen, Bool.and_eq_true, Bool.not_eq_true'] at hopen
        exact hopen.2
      simp [DebounceLine.use, receive, habandoned]
    rw [huse]
    refine ⟨lead', ⟨hpass.isOpen, hpass.pause, hpass.pending⟩, ?_⟩
    simpa [pushes, DebounceUse.pushed?] using hsettled stop rest hstop hrest
  | push b =>
    have huse : l.use (now, .push b) =
        ({ l.pass now with debouncer := (l.pass now).debouncer.push now b }, []) := by
      simp [DebounceLine.use, push, h.isOpen]
    rw [huse]
    refine ⟨some (now, b), ⟨hpass.isOpen, hpass.pause, ?_⟩, ?_⟩
    · simp [Debouncer.push, hpass.pause]
    · -- what waited until now was pushed less than a pause ago, so the new value replaces it
      have hnext : ∀ x ∈ (now, b) :: rest, now ≤ x.1 := by
        intro x hx
        rcases List.mem_cons.mp hx with rfl | hx
        · exact le_rfl
        · exact hrest x hx
      have hlead : settled quiet stop (lead'.toList ++ (now, b) :: rest) =
          settled quiet stop ((now, b) :: rest) := by
        cases lead' with
        | none => rfl
        | some x => exact settled_cons_of_lt (hwaits x rfl)
      have hbefore := hsettled stop ((now, b) :: rest) hstop hnext
      rw [hlead] at hbefore
      simpa [pushes, DebounceUse.pushed?] using hbefore

/-! ### Schedules -/

variable {us : List (ℕ × DebounceUse α)}

lemma le_of_mem_pushes {x : ℕ × α} (h : ∀ u ∈ us, now ≤ u.1) (hx : x ∈ pushes us) :
    now ≤ x.1 := by
  obtain ⟨u, hu, hpushed⟩ := List.mem_filterMap.mp hx
  obtain ⟨a, -, rfl⟩ := Option.map_eq_some_iff.mp hpushed
  exact h u hu

/-- **The loop of a debouncer**: what is received by a schedule, what is in the channel after it
and what is settled later are together all that is settled of what is pushed. -/
theorem Holds.after (h : Holds quiet l lead) (ordered : us.Pairwise fun u v => u.1 ≤ v.1)
    (hstop : ∀ u ∈ us, u.1 ≤ stop) (hopen : ∀ u ∈ us, u.2.KeepsOpen) :
    ∃ lead', Holds quiet (l.after us) lead' ∧
      l.received us ++ (l.after us).channel ++ settled quiet stop lead'.toList =
        l.channel ++ settled quiet stop (lead.toList ++ pushes us) := by
  induction us generalizing l lead with
  | nil => exact ⟨lead, h, by simp [received, DebounceLine.after, pushes]⟩
  | cons u us ih =>
    obtain ⟨now, u⟩ := u
    obtain ⟨hlater, ordered⟩ := List.pairwise_cons.mp ordered
    have hrest : ∀ x ∈ pushes us, now ≤ x.1 := fun x hx => le_of_mem_pushes hlater hx
    obtain ⟨middle, hmiddle, huse⟩ := h.use (hopen _ List.mem_cons_self)
      (hstop _ List.mem_cons_self) hrest
    obtain ⟨lead', hlead', hafter⟩ := ih hmiddle ordered
      (fun v hv => hstop v (List.mem_cons_of_mem _ hv))
      (fun v hv => hopen v (List.mem_cons_of_mem _ hv))
    have hpushes : pushes ((now, u) :: us) = pushes [(now, u)] ++ pushes us := by
      rw [pushes, pushes, pushes, ← List.filterMap_append, List.singleton_append]
    refine ⟨lead', hlead', ?_⟩
    calc l.received ((now, u) :: us) ++ (l.after ((now, u) :: us)).channel ++
          settled quiet stop lead'.toList
        = (l.use (now, u)).2 ++ ((l.use (now, u)).1.received us ++
            ((l.use (now, u)).1.after us).channel ++ settled quiet stop lead'.toList) := by
          simp [received, DebounceLine.after]
      _ = (l.use (now, u)).2 ++ ((l.use (now, u)).1.channel ++
            settled quiet stop (middle.toList ++ pushes us)) := by rw [hafter]
      _ = l.channel ++ settled quiet stop (lead.toList ++ pushes ((now, u) :: us)) := by
          rw [← List.append_assoc, huse, hpushes]

/-- By a time, the channel and what was received hold all that is settled by then. -/
lemma received_append_channel (quiet : ℕ) (ordered : us.Pairwise fun u v => u.1 ≤ v.1)
    (hstop : ∀ u ∈ us, u.1 ≤ stop) (hopen : ∀ u ∈ us, u.2.KeepsOpen) :
    (((new quiet).after us).pass stop).isOpen = true ∧
      (new quiet).received us ++ (((new quiet).after us).pass stop).channel =
        settled quiet stop (pushes us) := by
  obtain ⟨lead, hlead, hafter⟩ := (holds_new (α := α) quiet).after ordered hstop hopen
  obtain ⟨lead', hpass, hwaits, hsettled⟩ := hlead.pass stop
  have hnone : settled quiet stop lead'.toList = [] :=
    settled_eq_nil fun x hx => hwaits x (by simpa using hx)
  have hlast := hsettled stop [] le_rfl (by simp)
  simp only [List.append_nil, hnone] at hlast
  refine ⟨hpass.isOpen, ?_⟩
  rw [hlast, ← List.append_assoc, hafter]
  rfl

/-- What is pushed later does not matter. -/
lemma settled_append_of_lt (ps : List (ℕ × α)) (h : ∀ x ∈ rest, stop < x.1) :
    settled quiet stop (ps ++ rest) = settled quiet stop ps := by
  induction ps with
  | nil => exact settled_eq_nil fun x hx => Nat.lt_add_right quiet (h x hx)
  | cons x ps ih =>
    obtain ⟨t, a⟩ := x
    have hiff : (t + quiet ≤ stop ∧ ∀ y ∈ ps ++ rest, t + quiet ≤ y.1) ↔
        (t + quiet ≤ stop ∧ ∀ y ∈ ps, t + quiet ≤ y.1) := by
      refine and_congr_right fun ht => ⟨fun hall y hy => hall y (by simp [hy]), fun hall y hy => ?_⟩
      rcases List.mem_append.mp hy with hy | hy
      · exact hall y hy
      · exact Nat.le_trans ht (h y hy).le
    simp only [List.cons_append, settled, hiff, ih]

lemma settled_pushes_upTo (ordered : us.Pairwise fun u v => u.1 ≤ v.1) :
    settled quiet stop (pushes (upTo stop us)) = settled quiet stop (pushes us) := by
  have hsplit : pushes us = pushes (upTo stop us) ++ pushes (us.dropWhile (·.1 ≤ stop)) := by
    rw [pushes, pushes, pushes, ← List.filterMap_append, upTo, List.takeWhile_append_dropWhile]
  have hlate : ∀ u ∈ us.dropWhile (·.1 ≤ stop), stop + 1 ≤ u.1 := by
    have hsorted := ordered.sublist (List.dropWhile_sublist (fun u => decide (u.1 ≤ stop)))
    cases hdrop : us.dropWhile (·.1 ≤ stop) with
    | nil => exact nofun
    | cons v vs =>
      have hv : ¬ v.1 ≤ stop := by
        have hne : us.dropWhile (·.1 ≤ stop) ≠ [] := by
          rw [hdrop]
          exact List.cons_ne_nil v vs
        simpa [hdrop] using List.head_dropWhile_not _ hne
      rw [hdrop] at hsorted
      intro u hu
      rcases List.mem_cons.mp hu with rfl | hu
      · omega
      · have := (List.pairwise_cons.mp hsorted).1 u hu
        omega
  rw [hsplit, settled_append_of_lt]
  exact fun x hx => le_of_mem_pushes hlate hx

/-- A dropped line emits nothing more, and what it has emitted can be received. -/
lemma received_of_dropped {later : List (ℕ × DebounceUse α)} (hdropped : l.dropped = true)
    (hthere : l.abandoned = false) (hlater : ∀ u ∈ later, u.2 ≠ .abandon) (now : ℕ) :
    l.received (later ++ [(now, .receive)]) = l.channel := by
  have hpass (l : DebounceLine α) (hl : l.dropped = true) (now : ℕ) : l.pass now = l := by
    simp [DebounceLine.pass, isOpen, hl]
  induction later generalizing l with
  | nil => simp [received, use, receive, hthere, hpass l hdropped]
  | cons u later ih =>
    obtain ⟨t, u⟩ := u
    have hstep := ih (l := (l.use (t, u)).1)
    have hrest : ∀ v ∈ later, v.2 ≠ .abandon := fun v hv => hlater v (List.mem_cons_of_mem _ hv)
    rw [List.cons_append, received]
    cases u with
    | push a =>
      have huse : l.use (t, .push a) = (l, []) := by simp [use, push, isOpen, hdropped]
      rw [huse] at hstep ⊢
      exact hstep hdropped hthere hrest
    | receive =>
      have huse : l.use (t, .receive) = ({ l with channel := [] }, l.channel) := by
        simp [use, receive, hthere, hpass l hdropped]
      rw [huse] at hstep ⊢
      rw [hstep hdropped hthere hrest, List.append_nil]
    | drop =>
      rw [hstep rfl ?_ hrest]
      · simp [use, drop, hpass l hdropped]
      · simpa [use, drop, hpass l hdropped] using hthere
    | abandon => exact absurd rfl (hlater _ List.mem_cons_self)

/-- **What a debouncer delivers** under a schedule of pushes and receptions. By a time up to which
neither end was given up, one receives the values that were followed by a pause which is over by
then, each once and in the order in which they were pushed; so each of them is there from the end
of its pause on and not before. If the debouncer is dropped at that time, one receives these values
whatever happens later, and the value that waited is lost. -/
theorem received_eq_settled (quiet stop : ℕ) {us : List (ℕ × DebounceUse α)}
    (ordered : us.Pairwise fun u v => u.1 ≤ v.1)
    (hopen : ∀ u ∈ us, u.1 ≤ stop → u.2.KeepsOpen) :
    (new quiet).received (upTo stop us ++ [(stop, .receive)]) =
      settled quiet stop (pushes us) ∧
    ∀ later now, (∀ u ∈ later, u.2 ≠ .abandon) →
      (new quiet).received (upTo stop us ++ (stop, .drop) :: (later ++ [(now, .receive)])) =
        settled quiet stop (pushes us) := by
  have hbefore : ∀ u ∈ upTo stop us, u.1 ≤ stop := fun u hu => by
    simpa using List.mem_takeWhile_imp hu
  have hkeeps : ∀ u ∈ upTo stop us, u.2.KeepsOpen := fun u hu =>
    hopen u ((List.takeWhile_sublist _).subset hu) (hbefore u hu)
  have horder : (upTo stop us).Pairwise fun u v => u.1 ≤ v.1 :=
    ordered.sublist (List.takeWhile_sublist _)
  obtain ⟨isOpen, hchannel⟩ := received_append_channel quiet horder hbefore hkeeps
  rw [← settled_pushes_upTo ordered, ← hchannel]
  generalize hline : (new quiet).after (upTo stop us) = l at isOpen
  have hthere : (l.pass stop).abandoned = false := by
    simp only [DebounceLine.isOpen, Bool.and_eq_true, Bool.not_eq_true'] at isOpen
    exact isOpen.2
  have hpass : l.abandoned = (l.pass stop).abandoned := by
    unfold DebounceLine.pass
    split <;> rfl
  constructor
  · rw [received_append, hline]
    simp [received, use, receive, hpass, hthere]
  · intro later now hlater
    rw [received_append, hline, received]
    have hdropped : (l.pass stop).drop.received (later ++ [(now, .receive)]) =
        (l.pass stop).channel :=
      received_of_dropped (l := (l.pass stop).drop) rfl hthere hlater now
    simpa [use] using hdropped

/-- A burst, a pause in which the first value is received, a value that is replaced at the last
moment, and one that still waits when the debouncer is dropped. -/
def bursts : List (ℕ × DebounceUse String) :=
  [(0, .push "b"), (0, .push "be"), (299, .push "ber"), (599, .receive), (600, .push "berl"),
    (899, .push "berli"), (1200, .push "berlin")]

theorem bursts_received :
    (new 300).received (DebounceUse.upTo 1499 bursts ++ [(1499, .receive)]) = ["ber", "berli"] ∧
    (new 300).received (DebounceUse.upTo 1499 bursts ++
      (1499, .drop) :: ([(1600, .push "bern")] ++ [(2000, .receive)])) = ["ber", "berli"] := by
  have ordered : bursts.Pairwise fun u v => u.1 ≤ v.1 := by
    simp [bursts]
  have hopen : ∀ u ∈ bursts, u.1 ≤ 1499 → u.2.KeepsOpen := by
    simp [bursts, DebounceUse.KeepsOpen]
  have hsettled : settled 300 1499 (DebounceUse.pushes bursts) = ["ber", "berli"] := by
    decide +kernel
  obtain ⟨hreceived, hdropped⟩ := received_eq_settled 300 1499 ordered hopen
  exact ⟨hreceived.trans hsettled, (hdropped [(1600, .push "bern")] 2000 (by simp)).trans hsettled⟩

end DebounceLine

end Whereto
