import Mathlib.Logic.Relation
import Whereto.Proofs.Digest.Base64Url
import Whereto.Proofs.Keyed
import Whereto.Proofs.Text.Lowercase
import Whereto.Telemetry.Event

/-!
The hash under which a query is logged. It is taken of the trimmed query in lower case, which is the
same for two texts exactly if white space around them and their case are all that sets them apart.
So the events about a query tell the same hash, whether they were given what was typed or what was
made of it; and the events about another query tell another hash, as far as SHA-256 keeps the two
apart.
-/

namespace Whereto

open Text (blank lowercase trim)
open Digest

/-! ### The same query -/

/-- A text is typed in another way: with white space around it, or in lower case. -/
inductive Retyped : String → String → Prop
  | padded (s : String) {w₁ w₂ : String} (h₁ : blank w₁ = true) (h₂ : blank w₂ = true) :
      Retyped s (w₁ ++ s ++ w₂)
  | lowered (s : String) : Retyped s (lowercase s)

variable {s t : String}

lemma retyped_trim (s : String) : Retyped (trim s) s := by
  obtain ⟨w₁, w₂, htext, h₁, h₂⟩ := Text.exists_padded_trim s
  have hpad := Retyped.padded (trim s) h₁ h₂
  rwa [← htext] at hpad

lemma Retyped.lowercase_trim_eq (h : Retyped s t) : lowercase (trim s) = lowercase (trim t) := by
  cases h with
  | padded h₁ h₂ => rw [Text.trim_padded h₁ h₂]
  | lowered => rw [Text.trim_lowercase, Text.lowercase_lowercase]

/-- **The same query.** Two texts come from each other by typing them in other ways if and only if
they are the same when they are trimmed and put into lower case. -/
theorem retyped_iff :
    Relation.EqvGen Retyped s t ↔ lowercase (trim s) = lowercase (trim t) := by
  constructor
  · intro h
    exact (eq_equivalence.comap fun s => lowercase (trim s)).eqvGen_iff.mp
      (h.mono fun _ _ => Retyped.lowercase_trim_eq)
  · intro h
    have normal (s : String) : Relation.EqvGen Retyped s (lowercase (trim s)) :=
      .trans _ _ _ (.symm _ _ (.rel _ _ (retyped_trim s))) (.rel _ _ (.lowered (trim s)))
    have hs := normal s
    rw [h] at hs
    exact .trans _ _ _ hs (.symm _ _ (normal t))

/-- The bytes of which the hash of a query is taken. -/
def queryBytes (query : String) : List UInt8 := (lowercase (trim query)).toUTF8.data.toList

/-- Two queries with one digest, but not one text. -/
def Collide (s t : String) : Prop :=
  queryBytes s ≠ queryBytes t ∧ Sha256.digest (queryBytes s) = Sha256.digest (queryBytes t)

lemma queryBytes_inj : queryBytes s = queryBytes t ↔ Relation.EqvGen Retyped s t := by
  rw [retyped_iff, queryBytes, queryBytes, Array.toList_inj, ByteArray.ext_iff.symm]
  exact String.toByteArray_inj

lemma queryHash_inj : queryHash s = queryHash t ↔
    Sha256.digest (queryBytes s) = Sha256.digest (queryBytes t) := by
  constructor
  · intro h
    exact Base64Url.encode_injective (String.ofList_inj.mp h)
  · intro h
    exact congrArg (fun bytes => String.ofList (Base64Url.encode bytes)) h

/-- The hash tells queries apart, if their digests do. -/
lemma queryHash_eq_iff :
    queryHash s = queryHash t ↔ Relation.EqvGen Retyped s t ∨ Collide s t := by
  rw [queryHash_inj, Collide, ← queryBytes_inj]
  constructor
  · intro h
    by_cases hbytes : queryBytes s = queryBytes t
    · exact .inl hbytes
    · exact .inr ⟨hbytes, h⟩
  · rintro (hbytes | ⟨-, h⟩)
    · rw [hbytes]
    · exact h

/-! ### Events -/

/-- The query that a note is about. -/
def Note.query? : Note → Option String
  | resolved query _ _ => some query
  | discarded query _ _ => some query
  | locatingFailed _ => none
  | rejected text => some text

/-- What an event tells as the hash of a query. -/
def Event.hash? (e : Event) : Option Json.Value :=
  match e.payload with
  | .object members => Keyed.get? "query_hash" members
  | _ => none

lemma hash?_toEvent (timestamp : String) (n : Note) : (n.toEvent timestamp).hash? =
    n.query?.map fun query => Json.Value.string (queryHash query) := by
  cases n <;>
    simp [Event.hash?, Note.toEvent, Note.payload, Note.query?, Json.Value.sorted, Keyed.ofList,
      Keyed.get?_put, Keyed.get?]

/-- **Neither case nor padding counts.** A query has the same hash with white space around it, and
in lower case. Nothing else has that hash, unless SHA-256 collides; and events about texts that are
the same query tell the same hash. -/
theorem queryHash_retyped (s : String) :
    (∀ w₁ w₂, blank w₁ = true → blank w₂ = true → queryHash (w₁ ++ s ++ w₂) = queryHash s) ∧
    queryHash (lowercase s) = queryHash s ∧
    (∀ t, queryHash s = queryHash t ↔ Relation.EqvGen Retyped s t ∨ Collide s t) ∧
    ∀ t, Relation.EqvGen Retyped s t →
      ∀ (n m : Note) (atN atM : String), n.query? = some s → m.query? = some t →
        (n.toEvent atN).hash? = some (.string (queryHash s)) ∧
        (m.toEvent atM).hash? = some (.string (queryHash s)) := by
  have same {t : String} (h : Relation.EqvGen Retyped s t) : queryHash t = queryHash s :=
    (queryHash_eq_iff.mpr (.inl h)).symm
  refine ⟨fun w₁ w₂ h₁ h₂ => same (.rel _ _ (.padded s h₁ h₂)), same (.rel _ _ (.lowered s)),
    fun t => queryHash_eq_iff, fun t h n m atN atM hn hm => ?_⟩
  rw [hash?_toEvent, hash?_toEvent, hn, hm, Option.map_some, Option.map_some, same h]
  exact ⟨rfl, rfl⟩

/-- Ithaca in capitals, with white space around it. The white space ends the word, so that the last
letter of its lower case is a final sigma all the same. -/
theorem ithaca_queryHash :
    blank "\t\u3000" = true ∧ blank "\u2028" = true ∧ lowercase "ΙΘΆΚΗΣ" = "ιθάκης" ∧
    queryHash ("\t\u3000" ++ "ΙΘΆΚΗΣ" ++ "\u2028") = queryHash "ιθάκης" ∧
    ((Note.resolved ("\t\u3000" ++ "ΙΘΆΚΗΣ" ++ "\u2028") none 0).toEvent "12:00").hash? =
      ((Note.rejected "ιθάκης").toEvent "12:01").hash? := by
  have hbefore : blank "\t\u3000" = true := by decide +kernel
  have hafter : blank "\u2028" = true := by decide +kernel
  have hlower : lowercase "ΙΘΆΚΗΣ" = "ιθάκης" := by decide +kernel
  obtain ⟨hpadded, hlowered, -, -⟩ := queryHash_retyped "ΙΘΆΚΗΣ"
  rw [hlower] at hlowered
  have typed := Relation.EqvGen.symm _ _
    (.rel _ _ (Retyped.padded "ΙΘΆΚΗΣ" hbefore hafter))
  have lowered := Relation.EqvGen.rel _ _ (Retyped.lowered "ΙΘΆΚΗΣ")
  rw [hlower] at lowered
  obtain ⟨hresolved, hrejected⟩ := (queryHash_retyped _).2.2.2 "ιθάκης" (.trans _ _ _ typed lowered)
    (.resolved _ none 0) (.rejected "ιθάκης") "12:00" "12:01" rfl rfl
  exact ⟨hbefore, hafter, hlower, (hpadded _ _ hbefore hafter).trans hlowered.symm,
    hresolved.trans hrejected.symm⟩

end Whereto
