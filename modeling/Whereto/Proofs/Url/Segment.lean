import Whereto.Proofs.Url.Percent
import Whereto.Url.Basic

/-!
Segments that are added to a path. A text comes into the path as one segment that is decoded to the
text without its tabs and line ends. Only dots alone do not: they are skipped, or the path goes the
way of the dots if there were tabs and line ends between them.
-/

namespace Whereto.Url

open Percent (encode decode decodeText?)

variable {text name : String} {u : Url} {special : Bool} {cs : List Char} {ss : List String}
  {c : Char}

/-! ### Paths in segments -/

lemma readWithAuthority_eq_ok (h : readWithAuthority name cs = .ok u) :
    ∃ host port more, u = readRest name host port more := by
  simp only [readWithAuthority, bind, Except.bind, pure, Except.pure] at h
  split at h
  · cases h
  · exact ⟨_, _, _, (Except.ok.inj h).symm⟩

lemma readFile_eq_ok (h : readFile cs = .ok u) :
    ∃ host port more, u = readRest fileScheme host port more := by
  unfold readFile at h
  split at h
  · split at h
    · simp only [bind, Except.bind, pure, Except.pure] at h
      split_ifs at h
      · exact ⟨_, _, _, (Except.ok.inj h).symm⟩
      · exact ⟨_, _, _, (Except.ok.inj h).symm⟩
      · split at h
        · cases h
        · exact ⟨_, _, _, (Except.ok.inj h).symm⟩
    · exact ⟨_, _, _, (Except.ok.inj h).symm⟩
  · exact ⟨_, _, _, (Except.ok.inj h).symm⟩

/-- Where the scheme is special, a path is in segments. -/
lemma exists_segments (hread : read text = .ok u) (hspecial : u.isSpecial = true) :
    ∃ ss, u.path = .segments ss := by
  unfold read at hread
  dsimp only at hread
  split at hread
  · unfold readScheme at hread
    split_ifs at hread with hfile hknown
    · obtain ⟨_, _, _, rfl⟩ := readFile_eq_ok hread
      exact ⟨_, rfl⟩
    · obtain ⟨_, _, _, rfl⟩ := readWithAuthority_eq_ok hread
      exact ⟨_, rfl⟩
    · split at hread
      · obtain ⟨_, _, _, rfl⟩ := readWithAuthority_eq_ok hread
        exact ⟨_, rfl⟩
      · obtain rfl := Except.ok.inj hread
        exact ⟨_, rfl⟩
      · obtain rfl := Except.ok.inj hread
        exact absurd hspecial hknown
  · cases hread

/-! ### Added segments -/

/-- What is left of a text in a URL. -/
def kept (s : String) : List Char := s.toList.filter (!isDropped ·)

/-- The segment that is written for what is left. -/
def segmentText (special : Bool) (cs : List Char) : String :=
  String.ofList (encode (inSegment special) cs)

/-- The segments after which the first one is added; a lone slash has none. -/
def stem (ss : List String) : List String := if ss = [""] then [] else ss

lemma kept_eq_toList (s : String) : kept s = s.toList ↔ ∀ c ∈ s.toList, isDropped c = false := by
  simp [kept, List.filter_eq_self]

lemma inSegment_percent (special : Bool) : inSegment special '%' = true := by
  cases special <;> decide

lemma decodeText?_segmentText (special : Bool) (cs : List Char) :
    decodeText? (segmentText special cs).toList = some (String.ofList cs) := by
  rw [segmentText, String.toList_ofList]
  exact Percent.decodeText?_encode (inSegment_percent special) cs

lemma segmentText_dot (special : Bool) : segmentText special ['.'] = "." := by
  cases special <;> decide

lemma segmentText_dots (special : Bool) : segmentText special ['.', '.'] = ".." := by
  cases special <;> decide

/-- Where several spellings are decoded to one text that is written as it is, only that text is
written as one of them. -/
lemma eq_of_segmentText_mem {spellings : List String} {plain : List Char}
    (hspellings : ∀ s ∈ spellings, decode s.toList = decode plain)
    (hplain : segmentText special plain = String.ofList plain)
    (hmem : segmentText special cs ∈ spellings) : cs = plain := by
  have hcs := decodeText?_segmentText special cs
  rw [decodeText?, hspellings _ hmem] at hcs
  have hpl := decodeText?_segmentText special plain
  rw [hplain, String.toList_ofList, decodeText?, hcs] at hpl
  exact String.ofList_inj.mp (Option.some.inj hpl)

lemma segmentText_mem_twoDots : segmentText special cs ∈ twoDots ↔ cs = ['.', '.'] := by
  constructor
  · exact eq_of_segmentText_mem (by decide) (segmentText_dots special)
  · rintro rfl
    rw [segmentText_dots]
    decide

lemma segmentText_mem_oneDot : segmentText special cs ∈ oneDot ↔ cs = ['.'] := by
  constructor
  · exact eq_of_segmentText_mem (by decide) (segmentText_dot special)
  · rintro rfl
    rw [segmentText_dot]
    decide

/-- Nothing in a segment ends it. -/
lemma not_mem_segmentText (hset : inSegment special c = true) (hpercent : c ≠ '%')
    (hdigit : c ∉ hexDigits) : c ∉ (segmentText special cs).toList := by
  rw [segmentText, String.toList_ofList]
  intro hmem
  rcases Percent.mem_encode hmem with h | h | h
  · exact hpercent h
  · exact hdigit h
  · rw [hset] at h
    cases h

lemma addSegment_of_dots (h : text = "." ∨ text = "..") : addSegment special ss text = ss :=
  if_pos h

lemma addSegment_of_ne (h : ¬ (text = "." ∨ text = "..")) :
    addSegment special ss text =
      enterSegment (stem ss) (segmentText special (kept text)) true :=
  if_neg h

/-- A segment is added at the end, unless dots alone are left of it. -/
lemma addSegment_of_kept (hone : kept text ≠ ['.']) (htwo : kept text ≠ ['.', '.']) :
    addSegment special ss text = stem ss ++ [segmentText special (kept text)] := by
  have hne : ¬ (text = "." ∨ text = "..") := by
    rintro (rfl | rfl)
    · exact hone (by decide)
    · exact htwo (by decide)
  have hnotTwo : twoDots.contains (segmentText special (kept text)) = false := by
    simpa using mt segmentText_mem_twoDots.mp htwo
  have hnotOne : oneDot.contains (segmentText special (kept text)) = false := by
    simpa using mt segmentText_mem_oneDot.mp hone
  rw [addSegment_of_ne hne, enterSegment, hnotTwo, hnotOne]
  rfl

/-- Of a dot that was not alone before, an empty segment is left. -/
lemma addSegment_of_kept_dot (hne : ¬ (text = "." ∨ text = "..")) (hkept : kept text = ['.']) :
    addSegment special ss text = stem ss ++ [""] := by
  rw [addSegment_of_ne hne, hkept, segmentText_dot]
  rfl

/-- Two dots that were not alone before take the last segment with them. -/
lemma addSegment_of_kept_dots (hne : ¬ (text = "." ∨ text = ".."))
    (hkept : kept text = ['.', '.']) :
    addSegment special ss text = (stem ss).dropLast ++ [""] := by
  rw [addSegment_of_ne hne, hkept, segmentText_dots]
  rfl

end Whereto.Url
