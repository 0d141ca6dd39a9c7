import Whereto.Proofs.Session.Selection
import Whereto.Proofs.Telemetry.Monitored
import Whereto.Proofs.Telemetry.Operation

/-!
The account of a session. An enabled recorder takes exactly what is to be noted of the answers, in
their order. The tickets that are noted as stale are older than the field, since nobody looks
something up under a ticket that was not issued; and events show texts only by their hashes.
-/

namespace Whereto

/-! ### Stale tickets -/

namespace Picker

/-- A lookup that was not shown had another ticket than the latest. -/
lemma finish_stale {p : Picker} {i : Input} {job : ℕ}
    (h : .finish job (.applied false) ∈ (p.step i).2) :
    ∃ t, p.Ends i job t ∧ t.generation ≠ p.field.generation ∧ (p.step i).1.field = p.field := by
  by_cases hi : i.isWork = true
  · obtain ⟨t, hends, hview, hshown⟩ := finish_applied_work hi h
    have hstale : t.generation ≠ p.field.generation := fun heq => by simpa using hshown.mpr heq
    have hfield : (p.step i).1.field = (p.ending job t i.found).field := congrArg View.field hview
    rw [ending, if_neg hstale] at hfield
    exact ⟨t, hends, hstale, hfield⟩
  · cases tells_step (by simpa using hi) ((mem_told rfl).mpr h)

end Picker

namespace Session

open Picker (Input Output)

variable {c : Course move} {k n job : ℕ} {i : Input} {t : Ticket} {query : String} {g latest : ℕ}

/-- A lookup ends under a ticket that was issued. -/
lemma generation_le_of_ends (h0 : c.start.picker.jobs = []) (honest : Honest c n)
    (hi : (c.state n).asks (c.input n).2 = some i) (hends : (c.state n).picker.Ends i job t) :
    t.generation ≤ (c.state n).picker.field.generation := by
  rcases hends.origin (r := trail c) (Nat.zero_le n) hi with
    ⟨s, hmem, -⟩ | ⟨k, -, hkn, -, j, hj, hstarts⟩
  · change _ ∈ c.start.picker.jobs at hmem
    simp [h0] at hmem
  · -- a job that takes a new ticket does not end at once
    have fresh (hgen : t.generation = (c.state k).picker.field.generation + 1)
        (hsup : (c.state k).picker.Supersedes j) (hnot : ∀ u, ¬ (c.state k).picker.Ends j job u) :
        t.generation ≤ (c.state n).picker.field.generation := by
      have hne : k ≠ n := by
        rintro rfl
        obtain rfl : i = j := Option.some.inj (hi.symm.trans hj)
        exact hnot t hends
      have hlt : (c.state k).picker.field.generation < (c.state n).picker.field.generation :=
        Picker.generation_lt_of_supersedes (r := trail c) ⟨j, hj, hsup⟩ (by omega)
      omega
    cases hstarts with
    | complete =>
      obtain ⟨m, hmk, hissued⟩ := honest k t hkn (input_of_start hj)
      exact issued_generation hissued (by omega)
    | handle => exact fresh rfl .handle nofun
    | dispatch => exact fresh rfl .dispatch nofun

/-- **What is noted as stale is older** than what is noted as the latest. -/
theorem discarded_lt (h0 : c.start.picker.jobs = []) (honest : Honest c n)
    (h : .discarded query g latest ∈ (trail c).account n) : g < latest := by
  obtain ⟨o, ho, hreport⟩ := List.mem_flatMap.mp h
  rw [output_trail] at ho
  obtain ⟨i, hi, hout⟩ := mem_output.mp ho
  simp only [state_trail] at hreport
  unfold Picker.report at hreport
  split at hreport
  · next job' shown =>
    split at hreport
    · next u hticket =>
      cases shown with
      | true =>
        simp only [↓reduceIte] at hreport
        split at hreport
        · cases hreport
        · cases List.mem_singleton.mp hreport
      | false =>
        obtain ⟨t, hends, hstale, hfield⟩ := Picker.finish_stale hout
        obtain rfl : t = u := Option.some.inj
          ((Picker.Trail.ticket?_of_ends (r := trail c) h0 hi hends).symm.trans hticket)
        have hle := generation_le_of_ends h0 honest hi hends
        cases List.mem_singleton.mp hreport
        rw [picker_succ hi, hfield]
        omega
    · cases hreport
  · simp at hreport
  · cases List.mem_singleton.mp hreport
  · cases hreport

end Session

/-! ### What events show -/

/-- A member of a payload that shows no more than the hash of a text, a number, the name of a
source, or a message about the device. -/
inductive Discreet : String × Json.Value → Prop
  | hash (text : String) : Discreet ("query_hash", .string (toldHash text))
  | number {key : String} (n : ℕ)
      (h : key ∈ ["count", "generation", "latest", "query_len", "segments"]) :
      Discreet (key, .int n)
  | source {name : String} (h : name ∈ ["primary", "fallback", "geolocation", "none"]) :
      Discreet ("source", .string name)
  | reason (e : LocatingFault) : Discreet ("reason", .string e.message)

/-- An event under one of four names, with a payload whose members are all discreet. -/
structure Event.IsDiscreet (e : Event) : Prop where
  name : e.name ∈ ["suggestions_resolved", "suggestions_discarded", "geolocation_failed",
    "destination_rejected"]
  payload : ∃ members, e.payload = .object members ∧ ∀ m ∈ members, Discreet m

lemma toldSource_mem (source : Option Source) :
    toldSource source ∈ ["primary", "fallback", "geolocation", "none"] := by
  cases source with
  | none => simp [toldSource]
  | some s => cases s <;> simp [toldSource]

/-- A note is discreet if the failures that it reports are those of the device. -/
lemma isDiscreet_told {note : Note} {timestamp : String}
    (h : ∀ reason, note = .locatingFailed reason → ∃ e : LocatingFault, reason = e.message) :
    (note.told timestamp).IsDiscreet := by
  cases note with
  | resolved query source count =>
    refine ⟨by simp [Note.told], _, rfl, ?_⟩
    simp only [List.forall_mem_cons]
    exact ⟨.number _ (by simp), .hash _, .number _ (by simp), .source (toldSource_mem source),
      List.forall_mem_nil _⟩
  | discarded query generation latest =>
    refine ⟨by simp [Note.told], _, rfl, ?_⟩
    simp only [List.forall_mem_cons]
    exact ⟨.number _ (by simp), .number _ (by simp), .hash _, List.forall_mem_nil _⟩
  | locatingFailed reason =>
    obtain ⟨e, rfl⟩ := h reason rfl
    refine ⟨by simp [Note.told], _, rfl, ?_⟩
    simp only [List.forall_mem_cons]
    exact ⟨.reason e, List.forall_mem_nil _⟩
  | rejected text =>
    refine ⟨by simp [Note.told], _, rfl, ?_⟩
    simp only [List.forall_mem_cons]
    exact ⟨.hash _, .number _ (by simp), List.forall_mem_nil _⟩

/-- The failures that are noted are errors of the locator. -/
lemma reason_of_account {r : Picker.Trail} {n : ℕ} {reason : String}
    (h : .locatingFailed reason ∈ r.account n) : ∃ e : LocatingFault, reason = e.message := by
  obtain ⟨o, -, hreport⟩ := List.mem_flatMap.mp h
  unfold Picker.report at hreport
  split at hreport
  · split at hreport
    · split at hreport
      · split at hreport
        · cases hreport
        · cases List.mem_singleton.mp hreport
      · cases List.mem_singleton.mp hreport
    · cases hreport
  · obtain ⟨e, -, he⟩ := Option.map_eq_some_iff.mp (Option.mem_toList.mp hreport)
    cases he
    exact ⟨e, rfl⟩
  · cases List.mem_singleton.mp hreport
  · cases hreport

/-! ### The recorder -/

/-- What becomes of a recorder that receives events. All that waits is stored when there are new
events and they make a batch; else the new ones wait behind the others, and so they do if there are
no files. -/
inductive Recorder.Receives (r : Recorder) (es : List Event) : Recorder → Prop
  | waits (rest : es ≠ [] → r.options.batchSize ≤ r.depth + es.length → r.archive = none) :
      Receives r es { r with queue := r.queue ++ es }
  | stored {stamp : String} {a : Archive} (new : es ≠ []) (found : r.archive = some a)
      (full : r.options.batchSize ≤ r.depth + es.length) :
      Receives r es { r with
        queue := [],
        archive := some (a.store r.options.limits stamp ((r.queue ++ es).map Event.written)) }

namespace Recorder

variable {r r' : Recorder} {es : List Event}

lemma receives_nil (r : Recorder) : r.Receives [] r := by
  have hsame : { r with queue := r.queue ++ [] } = r := by rw [List.append_nil]
  have hwaits : r.Receives [] { r with queue := r.queue ++ [] } := .waits fun hne => absurd rfl hne
  rwa [hsame] at hwaits

/-- An enabled recorder receives what is noted. -/
lemma receives_note (on : r.enabled = true) (moment : Moment) (n : Note) :
    r.Receives [n.told moment.timestamp] (r.note moment n) := by
  have hdepth : depth { r with queue := r.queue ++ [n.told moment.timestamp] } = r.depth + 1 :=
    List.length_append
  have hlines (es : List Event) : es.map Event.line = es.map Event.written :=
    List.map_congr_left fun e _ => e.line_eq_written
  rw [note, record, if_pos on, n.toEvent_eq_told]
  dsimp only
  split
  · next full =>
    rw [flush, if_neg (by simp)]
    dsimp only
    split
    · next gone => exact .waits fun _ _ => gone
    · next a found =>
      rw [hlines]
      exact .stored (by simp) found (hdepth ▸ full)
  · next room => exact .waits fun _ full => absurd (hdepth.symm ▸ full) room

lemma Receives.enabled (h : r.Receives es r') : r'.enabled = r.enabled := by
  cases h <;> rfl

lemma Receives.options (h : r.Receives es r') : r'.options = r.options := by
  cases h <;> rfl

/-- Events that are no batch yet wait. -/
lemma Receives.queue (h : r.Receives es r')
    (few : r.depth + es.length < r.options.batchSize) : r'.queue = r.queue ++ es := by
  cases h with
  | waits => rfl
  | stored _ full => omega

end Recorder

lemma Telemetry.recorder_tell (x : Telemetry) (n : Note) :
    (x.tell n).recorder = x.recorder.note (x.moment x.used) n := by
  unfold tell Recorder.note
  dsimp only
  split <;> next h => rw [h]

namespace Monitored

open Session (Honest)

/-- The recorder of the telemetry, if there is any. -/
def recorder (m : Monitored) : Option Recorder := m.telemetry.map (·.recorder)

variable {c : Course step} {n : ℕ} {r : Recorder}

/-- The events that belong to what is to be noted at a position. -/
def events (c : Course step) (n : ℕ) : List Event :=
  ((Session.trail (sessions c)).account n).map (Note.told (c.input n).moment.timestamp)

/-- The recorder stays enabled, whatever happens to it before a position. -/
def StaysOn (c : Course step) (n : ℕ) : Prop :=
  ∀ k < n, ∀ r : Recorder, r.enabled = true → ((c.input k).meanwhile r).enabled = true

/-- At every position the telemetry is told what is to be noted there. -/
lemma telemetry_succ (h0 : c.start.session.picker.jobs = []) : (c.state (n + 1)).telemetry =
    (c.state n).telemetry.map fun x =>
      ((c.input n).affect x).tellAll ((Session.trail (sessions c)).account n) := by
  have hout : (Session.trail (sessions c)).output n =
      ((c.state n).session.move ((c.input n).time, (c.input n).move)).2 := by
    rw [Session.output_trail, Course.output, state_sessions]
    rfl
  rw [Course.state_succ, telemetry_step, ← hout, Picker.Trail.noted_eq_account h0]

/-- At every position the recorder receives what is to be noted there. -/
lemma receives_events (h0 : c.start.session.picker.jobs = [])
    (hr : (c.state n).recorder = some r) (on : ((c.input n).meanwhile r).enabled = true) :
    ∃ r', (c.state (n + 1)).recorder = some r' ∧
      ((c.input n).meanwhile r).Receives (events c n) r' := by
  obtain ⟨x, hx, rfl⟩ := Option.map_eq_some_iff.mp hr
  have hlength := Picker.Trail.length_account_le (r := Session.trail (sessions c)) h0 n
  have hnext := telemetry_succ (n := n) h0
  rw [hx, Option.map_some] at hnext
  unfold events
  generalize (Session.trail (sessions c)).account n = account at hlength hnext ⊢
  refine ⟨_, by rw [recorder, hnext, Option.map_some], ?_⟩
  match account with
  | [] => exact Recorder.receives_nil _
  | [note] =>
    change Recorder.Receives _ _ (((c.input n).affect x).tell note).recorder
    rw [Telemetry.recorder_tell]
    exact Recorder.receives_note on _ note

lemma recorder_state (h0 : c.start.session.picker.jobs = []) (hr : c.start.recorder = some r)
    (on : r.enabled = true) (stays : StaysOn c n) :
    ∃ r, (c.state n).recorder = some r ∧ r.enabled = true := by
  induction n with
  | zero => exact ⟨r, hr, on⟩
  | succ n ih =>
    obtain ⟨r, hr, on⟩ := ih fun k hk => stays k (by omega)
    have hmeanwhile := stays n n.lt_succ_self r on
    obtain ⟨r', hr', hreceives⟩ := receives_events h0 hr hmeanwhile
    exact ⟨r', hr', hreceives.enabled.trans hmeanwhile⟩

/-- The events that belong to what is to be noted before a position. -/
def eventsBefore (c : Course step) (n : ℕ) : List Event := (List.range n).flatMap (events c)

lemma eventsBefore_succ (c : Course step) (n : ℕ) :
    eventsBefore c (n + 1) = eventsBefore c n ++ events c n := by
  simp [eventsBefore, List.range_succ]

/-- As long as nobody else touches the recorder and there is no batch, all events wait. -/
lemma queue_eq_eventsBefore (h0 : c.start.session.picker.jobs = [])
    (hr : c.start.recorder = some r) (on : r.enabled = true)
    (alone : ∀ k < n, (c.input k).meanwhile = id)
    (few : r.depth + (eventsBefore c n).length < r.options.batchSize) :
    ∃ r', (c.state n).recorder = some r' ∧ r'.options = r.options ∧ r'.enabled = true ∧
      r'.queue = r.queue ++ eventsBefore c n := by
  induction n with
  | zero => exact ⟨r, hr, rfl, on, (List.append_nil _).symm⟩
  | succ n ih =>
    rw [eventsBefore_succ, List.length_append] at few
    obtain ⟨r₁, hr₁, hoptions, on₁, hqueue⟩ := ih (fun k hk => alone k (by omega)) (by omega)
    have hid : (c.input n).meanwhile r₁ = r₁ := by rw [alone n n.lt_succ_self, id]
    obtain ⟨r₂, hr₂, hreceives⟩ := receives_events h0 hr₁ (by rw [hid, on₁])
    rw [hid] at hreceives
    have hdepth : r₁.depth = r.depth + (eventsBefore c n).length := by
      rw [Recorder.depth, hqueue, List.length_append]
      rfl
    refine ⟨r₂, hr₂, hreceives.options.trans hoptions, hreceives.enabled.trans on₁, ?_⟩
    rw [hreceives.queue (by rw [hdepth, hoptions]; omega), hqueue, eventsBefore_succ,
      List.append_assoc]

/-- **The account of a session.** When lookups are made only under tickets that were issued, an
enabled recorder receives at every position exactly the events that belong to what is to be noted of
the answers there; so if nobody else touches it and there is no batch yet, all of them wait in their
order. A stale ticket is noted with a later generation than its own, and what events show is
discreet. -/
theorem receives_account {o : PickerOptions} {primary : Primary}
    (hc : c.start.session.picker = .new o primary) (hr : c.start.recorder = some r)
    (on : r.enabled = true) (stays : StaysOn c n) (honest : Honest (sessions c) n) :
    (∀ k < n, ∃ before after, (c.state k).recorder = some before ∧
      (c.state (k + 1)).recorder = some after ∧
      ((c.input k).meanwhile before).Receives (events c k) after) ∧
    ((∀ k < n, (c.input k).meanwhile = id) →
      r.depth + (eventsBefore c n).length < r.options.batchSize →
      ∃ r', (c.state n).recorder = some r' ∧ r'.queue = r.queue ++ eventsBefore c n) ∧
    (∀ k < n, ∀ query g latest,
      .discarded query g latest ∈ (Session.trail (sessions c)).account k → g < latest) ∧
    ∀ e ∈ eventsBefore c n, e.IsDiscreet := by
  have h0 : c.start.session.picker.jobs = [] := by
    rw [hc]
    rfl
  refine ⟨fun k hk => ?_, fun alone few => ?_, fun k hk query g latest h => ?_, fun e he => ?_⟩
  · obtain ⟨before, hbefore, hon⟩ :=
      recorder_state h0 hr on (n := k) fun j hj => stays j (by omega)
    obtain ⟨after, hafter, hreceives⟩ := receives_events h0 hbefore (stays k hk before hon)
    exact ⟨before, after, hbefore, hafter, hreceives⟩
  · obtain ⟨r', hr', -, -, hqueue⟩ := queue_eq_eventsBefore h0 hr on alone few
    exact ⟨r', hr', hqueue⟩
  · have hk : Honest (sessions c) k := fun j t hj => honest j t (by omega)
    exact Session.discarded_lt (c := sessions c) h0 hk h
  · obtain ⟨k, -, hk⟩ := List.mem_flatMap.mp he
    obtain ⟨note, hnote, rfl⟩ := List.mem_map.mp hk
    refine isDiscreet_told fun reason hreason => ?_
    subst hreason
    exact reason_of_account hnote

/-- Two lookups of which the later one is answered first, a device that refuses, and a field that
cannot be submitted. -/
def mishaps : Course step where
  start := ⟨.bare (.new ⟨2, ⟨10000, true⟩⟩ .ready),
    some ⟨.start ⟨true, 10, ⟨1000, 2⟩⟩ [], fun _ => ⟨"morning", "0"⟩, 0, []⟩⟩
  input n :=
    let move : Move := match n with
      | 0 => .input (.issue "ber")
      | 1 => .input (.issue "berl")
      | 2 => .input (.start (.complete ⟨"ber", 1⟩))
      | 3 => .input (.start (.complete ⟨"berl", 2⟩))
      | 4 => .input (.reply 1 (.predictions (.ok [⟨"Berlin", ["Berlin", "Germany"]⟩])))
      | 5 => .input (.reply 0 (.predictions (.ok [⟨"Bern", ["Bern", "Switzerland"]⟩])))
      | 6 => .input (.start .useLocation)
      | 7 => .input (.reply 2 (.position (.error .denied)))
      | 8 => .type " Nowhere 7, Land "
      | 9 => .input .submit
      | _ => .fire
    ⟨n, move, ⟨"noon", "1"⟩, id⟩

/-- There is an event of each kind. -/
theorem mishaps_account :
    eventsBefore mishaps 10 = [
      ⟨"suggestions_resolved", "noon", .object [("count", .int 1),
        ("query_hash", .string "Xpbar_PxxF9WtL1sJCo7WnYg1OBhBXI34-tenfMdVmY"),
        ("query_len", .int 4), ("source", .string "primary")]⟩,
      ⟨"suggestions_discarded", "noon", .object [("generation", .int 1), ("latest", .int 2),
        ("query_hash", .string "Qtcg80n-wjySWHtiudT0JY-ka4o300lTC33WdZPEj6A")]⟩,
      ⟨"geolocation_failed", "noon",
        .object [("reason", .string "Location permission was denied")]⟩,
      ⟨"destination_rejected", "noon", .object [
        ("query_hash", .string "G7FRqrp8Vj_XlAlhGZUeU4tDcpVJvTAETLedvFI4h0g"),
        ("segments", .int 2)]⟩] ∧
    StaysOn mishaps 10 ∧ Honest (sessions mishaps) 10 ∧
    (∀ k < 10, ∃ before after, (mishaps.state k).recorder = some before ∧
      (mishaps.state (k + 1)).recorder = some after ∧
      before.Receives (events mishaps k) after) ∧
    (∃ r', (mishaps.state 10).recorder = some r' ∧ r'.queue = eventsBefore mishaps 10) ∧
    (∀ k < 10, ∀ query g latest,
      .discarded query g latest ∈ (Session.trail (sessions mishaps)).account k → g < latest) ∧
    ∀ e ∈ eventsBefore mishaps 10, e.IsDiscreet := by
  have hnotes : (List.range 10).flatMap (Session.trail (sessions mishaps)).account =
      [.resolved "berl" (some .primary) 1, .discarded "ber" 1 2,
        .locatingFailed "Location permission was denied", .rejected "Nowhere 7, Land"] := by
    decide +kernel
  have hevents : eventsBefore mishaps 10 = ((List.range 10).flatMap
      (Session.trail (sessions mishaps)).account).map (Note.told "noon") := by
    rw [List.map_flatMap]
    rfl
  have hberl : toldHash "berl" = "Xpbar_PxxF9WtL1sJCo7WnYg1OBhBXI34-tenfMdVmY" := by
    decide +kernel
  have hber : toldHash "ber" = "Qtcg80n-wjySWHtiudT0JY-ka4o300lTC33WdZPEj6A" := by decide +kernel
  have hnowhere : toldHash "Nowhere 7, Land" = "G7FRqrp8Vj_XlAlhGZUeU4tDcpVJvTAETLedvFI4h0g" := by
    decide +kernel
  have stays : StaysOn mishaps 10 := fun _ _ _ on => on
  have honest : Honest (sessions mishaps) 10 := by
    intro k t hk h
    match k with
    | 0 | 1 | 4 | 5 | 6 | 7 | 8 | 9 | 10 => cases h
    | 2 =>
      cases h
      exact ⟨0, by decide, .head _⟩
    | 3 =>
      cases h
      exact ⟨1, by decide, .head _⟩
  obtain ⟨hreceives, hqueue, hlater, hdiscreet⟩ := receives_account rfl rfl rfl stays honest
  have few : (eventsBefore mishaps 10).length = 4 := by
    rw [hevents, hnotes]
    rfl
  have hwaits := hqueue (fun _ _ => rfl) (by
    rw [few]
    decide)
  refine ⟨?_, stays, honest, hreceives, hwaits, hlater, hdiscreet⟩
  rw [hevents, hnotes]
  simp only [List.map_cons, List.map_nil, Note.told, hberl, hber, hnowhere, toldSource]
  rfl

end Monitored

end Whereto
