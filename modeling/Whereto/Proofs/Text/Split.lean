import Whereto.Proofs.Text.Trim

/-!
Joined parts are found again. If no part holds a comma, the separators between joined parts are the
only places where a comma with a space after it stands, so that cutting there gives the parts.
-/

namespace Whereto.Text

open String (Slice)
open String.Slice (Subslice)
open String.Slice.Pattern.Model

/-- The pieces of a text between its commas with a space after them. -/
def pieces (text : String) : List String := (text.split ", ").toList.map Slice.copy

variable {s : Slice} {start stop p : s.Pos} {before part rest : String} {parts : List String}

instance strictSeparator : StrictPatternModel ", " := ForwardStringSearcher.strictPatternModel (by decide)

instance lawfulSeparator : LawfulToForwardSearcherModel ", " :=
  ForwardStringSearcher.lawfulToForwardSearcherModel (by decide)

/-- No separator begins within a part. -/
lemma not_matchesAt_of_comma_notMem (h : ',' ∉ part.toList)
    (hstart : start.Splits before (part ++ rest)) (hstop : stop.Splits (before ++ part) rest)
    (hle : start ≤ p) (hlt : p < stop) : ¬ MatchesAt ", " p := by
  intro hmatch
  obtain ⟨t₁, t₂, hp⟩ := ForwardStringSearcher.matchesAt_iff_splits.mp hmatch
  obtain ⟨u, rfl, -⟩ := (hstart.le_iff_exists_eq_append hp).mp hle
  obtain ⟨v, hv, hpart, htext⟩ := (hp.lt_iff_exists_eq_append hstop).mp hlt
  have hne : v.toList ≠ [] := fun hnil => hv (String.toList_inj.mp hnil)
  obtain ⟨c, cs, hcs⟩ := List.exists_cons_of_ne_nil hne
  have hcomma : ',' :: ' ' :: t₂.toList = c :: (cs ++ rest.toList) := by
    simpa [hcs] using congrArg String.toList htext
  have hends : part.toList = u.toList ++ c :: cs := by
    simpa [hcs] using congrArg String.toList hpart
  rw [hends, ← (List.cons.inj hcomma).1] at h
  simp at h

lemma copy_subslice (hstart : start.Splits before (part ++ rest))
    (hstop : stop.Splits (before ++ part) rest) (hle : start ≤ stop) :
    (s.subslice start stop hle).toSlice.copy = part := by
  obtain ⟨_, hcopy⟩ := Slice.copy_slice_eq_iff_splits.mpr ⟨before, rest, hstart, hstop⟩
  simpa using hcopy

/-- From the beginning of the first part on, the parts are cut off. -/
lemma split_of_splits (hne : parts ≠ []) (h : ∀ part ∈ parts, ',' ∉ part.toList)
    (hstart : start.Splits before (joined parts)) :
    (String.Slice.Pattern.Model.split ", " start start (Std.le_refl _)).map
      (Slice.copy ∘ Subslice.toSlice) = parts := by
  induction parts generalizing start before with
  | nil => exact absurd rfl hne
  | cons part parts ih =>
    obtain ⟨hpart, hparts⟩ := List.forall_mem_cons.mp h
    cases parts with
    | nil =>
      have hlast : start.Splits before (part ++ "") := by rwa [String.append_empty]
      have hstop : s.endPos.Splits (before ++ part) "" := by
        have hend := s.splits_endPos
        rwa [hlast.eq_append, String.append_empty] at hend
      rw [split_eq_of_not_matchesAt s.endPos (by simp)
        fun p => not_matchesAt_of_comma_notMem hpart hlast hstop, split_endPos]
      simpa using copy_subslice hlast hstop (by simp)
    | cons second rest =>
      have htext : joined (part :: second :: rest) = part ++ (", " ++ joined (second :: rest)) :=
        String.append_assoc
      rw [htext] at hstart
      have hstop := hstart.splits_rotateRight
      have hnext := hstop.splits_rotateRight
      have hle := (hstart.le_iff_exists_eq_append hstop).mpr ⟨part, rfl, rfl⟩
      have hmatch : IsLongestMatchAt ", " hstart.rotateRight hstop.rotateRight :=
        ForwardStringSearcher.isLongestMatchAt_iff_splits.mpr ⟨_, _, hstop, hnext⟩
      rw [split_eq_of_not_matchesAt hstart.rotateRight hle
        fun p => not_matchesAt_of_comma_notMem hpart hstart hstop,
        split_eq_of_isLongestMatchAt hmatch, List.map_cons, ih (List.cons_ne_nil _ _) hparts hnext]
      exact congrArg (· :: second :: rest) (copy_subslice hstart hstop hle)

/-- **Joined parts are found again** where commas with a space after them stand. -/
theorem pieces_joined (hne : parts ≠ []) (h : ∀ part ∈ parts, ',' ∉ part.toList) :
    pieces (joined parts) = parts := by
  have hstart := (joined parts).toSlice.splits_startPos
  rw [String.copy_toSlice] at hstart
  rw [pieces, String.split_eq_split_toSlice, Slice.toList_split_eq_splitToSubslice,
    Slice.Pattern.toList_splitToSubslice_eq_modelSplit, List.map_map]
  exact split_of_splits hne h hstart

end Whereto.Text
