import Whereto.Proofs.Json.Faithful
import Whereto.Proofs.Telemetry.QueryHash

/-!
What events hold and what is logged of them. The line of an event is an object of its name, its
timestamp and its payload, and different events have different lines, except that payloads with
doubles may be written alike. A note makes an event of one of four names; its payload holds numbers,
the name of a source or the reason for a failure, and of a query only its hash.
-/

namespace Whereto

open Json (Value)

/-! ### Lines -/

namespace Event

def quoted (s : String) : String := String.ofList (Json.quote s)

/-- What is written of an event. -/
def written (e : Event) : String :=
  "\x7b\"name\":" ++ quoted e.name ++ ",\"timestamp\":" ++ quoted e.timestamp ++ ",\"payload\":" ++
    e.payload.render ++ "\x7d"

/-- Two events have one name, one timestamp, and payloads of which the same is written; if these
hold no doubles, they are one payload. -/
structure Alike (e f : Event) : Prop where
  name : e.name = f.name
  timestamp : e.timestamp = f.timestamp
  text : e.payload.render = f.payload.render
  payload (he : e.payload.Exact) (hf : f.payload.Exact) : e.payload = f.payload

variable {e f : Event}

lemma line_eq_written (e : Event) : e.line = e.written := by
  rw [← String.toList_inj]
  simp [line, toValue, written, quoted, Value.render, Value.chars, Json.memberChars, Json.quote,
    Json.escapeChar]

/-- **A line tells its event.** -/
theorem line_eq_iff : e.line = f.line ↔ e.Alike f := by
  constructor
  · intro h
    rw [line_eq_written, line_eq_written, ← String.toList_inj] at h
    simp only [written, quoted, String.toList_append, String.toList_ofList, List.append_assoc] at h
    obtain ⟨hname, h⟩ := Json.quote_append_injective (List.append_cancel_left h)
    obtain ⟨htimestamp, h⟩ := Json.quote_append_injective (List.append_cancel_left h)
    have htext := String.toList_inj.mp (List.append_cancel_right (List.append_cancel_left h))
    exact ⟨hname, htimestamp, htext, fun he hf => Json.render_injective he hf htext⟩
  · intro h
    rw [line_eq_written, line_eq_written, written, written, h.name, h.timestamp, h.text]

end Event

/-- Lines tell events, one line each and in their order, and no others. -/
structure Tells (lines : List String) (events : List Event) : Prop where
  written : lines = events.map Event.written
  only {others : List Event} (h : lines = others.map Event.line) :
    List.Forall₂ Event.Alike events others

/-- **Lines tell their events.** -/
theorem tells_lines (events : List Event) : Tells (events.map Event.line) events where
  written := List.map_congr_left fun e _ => e.line_eq_written
  only h := by
    simp only [← List.forall₂_eq_eq_eq, List.forall₂_map_left_iff, List.forall₂_map_right_iff] at h
    exact h.imp fun _ _ => Event.line_eq_iff.mp

/-! ### Notes -/

/-- What is told of a query. -/
def toldHash (query : String) : String :=
  String.ofList (Digest.Base64Url.encode (Digest.Sha256.digest (queryBytes query)))

def toldSource : Option Source → String
  | some .primary => "primary"
  | some .fallback => "fallback"
  | some .geolocation => "geolocation"
  | none => "none"

/-- The event that is told of a note. -/
def Note.told (timestamp : String) : Note → Event
  | resolved query source count => ⟨"suggestions_resolved", timestamp, .object [
      ("count", .int count), ("query_hash", .string (toldHash query)),
      ("query_len", .int query.length), ("source", .string (toldSource source))]⟩
  | discarded query generation latest => ⟨"suggestions_discarded", timestamp, .object [
      ("generation", .int generation), ("latest", .int latest),
      ("query_hash", .string (toldHash query))]⟩
  | locatingFailed reason =>
    ⟨"geolocation_failed", timestamp, .object [("reason", .string reason)]⟩
  | rejected text => ⟨"destination_rejected", timestamp, .object [
      ("query_hash", .string (toldHash text)),
      ("segments", .int (text.toList.count ',' + 1 : ℕ))]⟩

lemma queryHash_eq_toldHash (query : String) : Digest.queryHash query = toldHash query := rfl

lemma sourceName_eq_toldSource (source : Option Source) :
    Note.sourceName source = toldSource source := by
  cases source with
  | none => rfl
  | some s => cases s <;> rfl

lemma Text.length_cut (separator : Char) (cs : List Char) :
    (cut separator cs).length = cs.count separator + 1 := by
  induction cs with
  | nil => rfl
  | cons c cs ih =>
    rw [cut, List.count_cons]
    split
    · next hc => simp [ih, hc]
    · next hc =>
      cases hcut : cut separator cs with
      | nil => exact absurd hcut (cut_ne_nil separator cs)
      | cons piece pieces =>
        rw [hcut] at ih
        simpa [hc] using ih

lemma Note.segments_eq (text : String) : segments text = text.toList.count ',' + 1 :=
  Text.length_cut ',' text.toList

/-- **The event of a note** in full. -/
theorem Note.toEvent_eq_told (timestamp : String) (n : Note) :
    n.toEvent timestamp = n.told timestamp := by
  cases n with
  | locatingFailed reason => rfl
  | _ =>
    simp (disch := decide +kernel) only [toEvent, eventName, payload, told, Value.sorted,
      Keyed.ofList, List.foldl, Keyed.put.eq_1, Keyed.put_of_lt, Keyed.put_of_gt,
      queryHash_eq_toldHash, sourceName_eq_toldSource, segments_eq]

end Whereto
