import Mathlib.Computability.Language
import Whereto.Proofs.Place.CityText

/-!
The grammar of typed destinations, said in three ways: as two or three names with commas between
them, by the pieces between the commas, and as a pattern of runs. A space may stand anywhere in a
name, also at its ends, so that a run of spaces after a comma can be read in several ways; the three
accept the same texts all the same, and the check accepts exactly these.
-/

namespace Whereto

open scoped Computability

namespace Text

lemma cut_eq_splitOn (separator : Char) (cs : List Char) :
    cut separator cs = cs.splitOn separator := by
  induction cs with
  | nil => rfl
  | cons c cs ih =>
    obtain ⟨piece, pieces, hcut⟩ := List.exists_cons_of_ne_nil (cut_ne_nil separator cs)
    rw [List.splitOn_cons_eq_if_modifyHead, cut, ← ih, hcut]
    by_cases hc : c = separator <;> simp [hc]

lemma length_splitOn (separator : Char) (cs : List Char) :
    (cs.splitOn separator).length = cs.count separator + 1 := by
  induction cs with
  | nil => rfl
  | cons c cs ih =>
    rw [List.splitOn_cons_eq_if_modifyHead, List.count_cons]
    split <;> simp [ih]

end Text

/-! ### Names -/

/-- Two or three names with a comma and a space between them, written out. -/
def FollowsGrammar (text : String) : Prop :=
  (∃ s₁ s₂, IsPlaceName s₁ ∧ IsPlaceName s₂ ∧ text = s₁ ++ ", " ++ s₂) ∨
    ∃ s₁ s₂ s₃, IsPlaceName s₁ ∧ IsPlaceName s₂ ∧ IsPlaceName s₃ ∧
      text = s₁ ++ ", " ++ s₂ ++ ", " ++ s₃

variable {text : String} {cs : List Char}

lemma followsGrammar_iff : FollowsGrammar text ↔ isCityText text = true := by
  rw [isCityText_iff]
  constructor
  · rintro (⟨s₁, s₂, h₁, h₂, rfl⟩ | ⟨s₁, s₂, s₃, h₁, h₂, h₃, rfl⟩)
    · exact ⟨[s₁, s₂], .inl rfl, by simp [h₁, h₂], by simp [Text.joined]⟩
    · exact ⟨[s₁, s₂, s₃], .inr rfl, by simp [h₁, h₂, h₃],
        by simp [Text.joined, String.append_assoc]⟩
  · rintro ⟨names, hlen | hlen, hnames, rfl⟩
    · obtain ⟨s₁, s₂, rfl⟩ := List.length_eq_two.mp hlen
      simp only [List.forall_mem_cons] at hnames
      exact .inl ⟨s₁, s₂, hnames.1, hnames.2.1, by simp [Text.joined]⟩
    · obtain ⟨s₁, s₂, s₃, rfl⟩ := List.length_eq_three.mp hlen
      simp only [List.forall_mem_cons] at hnames
      exact .inr ⟨s₁, s₂, s₃, hnames.1, hnames.2.1, hnames.2.2.1,
        by simp [Text.joined, String.append_assoc]⟩

/-! ### Pieces -/

/-- Letters and spaces only. -/
def IsRun (piece : List Char) : Prop := ∀ c ∈ piece, c = ' ' ∨ Text.isLetter c = true

/-- One or two commas; the piece before the first is a run and not empty, and every other one is a
run that starts with a space and goes on after it. -/
structure CutsIntoNames (text : String) : Prop where
  commas : text.toList.count ',' = 1 ∨ text.toList.count ',' = 2
  first : ∀ piece ∈ (text.toList.splitOn ',').head?, piece ≠ [] ∧ IsRun piece
  further : ∀ piece ∈ (text.toList.splitOn ',').tail,
    piece.head? = some ' ' ∧ 2 ≤ piece.length ∧ IsRun piece

lemma isName_iff_isRun : isName cs = true ↔ cs ≠ [] ∧ IsRun cs := by
  simp [isName, isNameChar, IsRun]

lemma isFurtherName_iff_isRun : isFurtherName cs = true ↔
    cs.head? = some ' ' ∧ 2 ≤ cs.length ∧ IsRun cs := by
  unfold isFurtherName
  split
  · rename_i name
    rw [isName_iff_isRun]
    cases name <;> simp [IsRun]
  · rename_i hspace
    constructor
    · nofun
    · rintro ⟨hhead, -⟩
      obtain ⟨name, rfl⟩ := List.head?_eq_some_iff.mp hhead
      exact absurd rfl (hspace name)

lemma cutsIntoNames_iff : CutsIntoNames text ↔ isCityText text = true := by
  have hlen := Text.length_splitOn ',' text.toList
  constructor
  · rintro ⟨hcommas, hfirst, hfurther⟩
    unfold isCityText
    rw [Text.cut_eq_splitOn]
    simp only [← isName_iff_isRun, ← isFurtherName_iff_isRun] at hfirst hfurther
    generalize text.toList.splitOn ',' = pieces at hlen hfirst hfurther
    rcases hcommas with hone | htwo
    · obtain ⟨first, second, rfl⟩ := List.length_eq_two.mp (by omega : pieces.length = 2)
      simp_all
    · obtain ⟨first, second, third, rfl⟩ := List.length_eq_three.mp (by omega : pieces.length = 3)
      simp_all
  · intro h
    unfold isCityText at h
    rw [Text.cut_eq_splitOn] at h
    split at h
    · rename_i first second hsplit
      simp only [Bool.and_eq_true, isName_iff_isRun, isFurtherName_iff_isRun] at h
      rw [hsplit] at hlen
      refine ⟨.inl (by simpa using hlen.symm), ?_, ?_⟩ <;> rw [hsplit] <;> simp [h]
    · rename_i first second third hsplit
      simp only [Bool.and_eq_true, isName_iff_isRun, isFurtherName_iff_isRun] at h
      rw [hsplit] at hlen
      refine ⟨.inr (by simpa using hlen.symm), ?_, ?_⟩ <;> rw [hsplit] <;> simp [h]
    · cases h

/-! ### Runs -/

/-- A letter or a space. -/
def nameChar : Language Char := {cs | ∃ c, (c = ' ' ∨ Text.isLetter c = true) ∧ cs = [c]}

/-- Letters and spaces, one at least. -/
def nameRun : Language Char := nameChar * nameChar∗

/-- A run after a comma and a space. -/
def furtherRun : Language Char := {[',', ' ']} * nameRun

/-- A run, and one or two more of them. -/
def cityPattern : Language Char := nameRun * (furtherRun + furtherRun * furtherRun)

lemma mem_nameChar_kstar : cs ∈ nameChar∗ ↔ IsRun cs := by
  rw [Language.mem_kstar]
  constructor
  · rintro ⟨L, rfl, hL⟩ c hc
    obtain ⟨l, hl, hcl⟩ := List.mem_flatten.mp hc
    obtain ⟨d, hd, rfl⟩ := hL l hl
    obtain rfl := List.mem_singleton.mp hcl
    exact hd
  · intro h
    refine ⟨cs.map ([·]), by simp [← List.flatMap_def], fun l hl => ?_⟩
    obtain ⟨c, hc, rfl⟩ := List.mem_map.mp hl
    exact ⟨c, h c hc, rfl⟩

lemma mem_nameRun : cs ∈ nameRun ↔ IsPlaceName (String.ofList cs) := by
  rw [← isName_iff, isName_iff_isRun, nameRun, Language.mem_mul]
  constructor
  · rintro ⟨_, ⟨c, hc, rfl⟩, rest, hrest, rfl⟩
    rw [mem_nameChar_kstar] at hrest
    exact ⟨by simp, List.forall_mem_cons.mpr ⟨hc, hrest⟩⟩
  · rintro ⟨hne, hrun⟩
    obtain ⟨c, rest, rfl⟩ := List.exists_cons_of_ne_nil hne
    obtain ⟨hc, hrest⟩ := List.forall_mem_cons.mp hrun
    exact ⟨[c], ⟨c, hc, rfl⟩, rest, mem_nameChar_kstar.mpr hrest, rfl⟩

lemma mem_furtherRun :
    cs ∈ furtherRun ↔ ∃ name, IsPlaceName name ∧ cs = ',' :: ' ' :: name.toList := by
  rw [furtherRun, Language.mem_mul]
  constructor
  · rintro ⟨_, rfl, run, hrun, rfl⟩
    exact ⟨_, mem_nameRun.mp hrun, by simp⟩
  · rintro ⟨name, hname, rfl⟩
    exact ⟨_, rfl, name.toList, mem_nameRun.mpr (by simpa using hname), rfl⟩

lemma mem_cityPattern : text.toList ∈ cityPattern ↔ FollowsGrammar text := by
  rw [cityPattern, Language.mem_mul]
  constructor
  · rintro ⟨run, hrun, rest, hrest, htext⟩
    have hfirst := mem_nameRun.mp hrun
    rcases (Language.mem_add _ _ _).mp hrest with hone | htwo
    · obtain ⟨second, hsecond, rfl⟩ := mem_furtherRun.mp hone
      refine .inl ⟨_, second, hfirst, hsecond, String.toList_inj.mp ?_⟩
      simp [← htext]
    · obtain ⟨_, hmiddle, _, hlast, rfl⟩ := Language.mem_mul.mp htwo
      obtain ⟨second, hsecond, rfl⟩ := mem_furtherRun.mp hmiddle
      obtain ⟨third, hthird, rfl⟩ := mem_furtherRun.mp hlast
      refine .inr ⟨_, second, third, hfirst, hsecond, hthird, String.toList_inj.mp ?_⟩
      simp [← htext]
  · have run {s : String} (h : IsPlaceName s) : s.toList ∈ nameRun :=
      mem_nameRun.mpr (by simpa using h)
    have further {s : String} (h : IsPlaceName s) : ',' :: ' ' :: s.toList ∈ furtherRun :=
      mem_furtherRun.mpr ⟨s, h, rfl⟩
    rintro (⟨s₁, s₂, h₁, h₂, rfl⟩ | ⟨s₁, s₂, s₃, h₁, h₂, h₃, rfl⟩)
    · exact ⟨_, run h₁, _, (Language.mem_add _ _ _).mpr (.inl (further h₂)), by simp⟩
    · have htwo := Language.mem_mul.mpr ⟨_, further h₂, _, further h₃, rfl⟩
      exact ⟨_, run h₁, _, (Language.mem_add _ _ _).mpr (.inr htwo), by simp⟩

lemma Destination.resolve?_eq_some_iff {precise : Bool} {d : Destination} :
    resolve? text precise = some d ↔
      (precise = true ∨ isCityText text = true) ∧ d = ⟨text, precise⟩ := by
  rw [eq_comm (a := d)]
  simp [resolve?, isValid]

/-- **The check accepts its grammar.** A text that is not precise is valid if and only if it follows
the grammar, which says the same of its pieces between commas and is the same as the pattern. A
destination is made of a text exactly if the text is precise or follows the grammar, and it has the
text as it is. -/
theorem isValid_iff_followsGrammar (text : String) :
    (Destination.isValid text false = true ↔ FollowsGrammar text) ∧
    (FollowsGrammar text ↔ CutsIntoNames text) ∧
    (FollowsGrammar text ↔ text.toList ∈ cityPattern) ∧
    ∀ precise d, Destination.resolve? text precise = some d ↔
      (precise = true ∨ FollowsGrammar text) ∧ d = ⟨text, precise⟩ := by
  refine ⟨?_, ?_, mem_cityPattern.symm, fun precise d => ?_⟩
  · rw [followsGrammar_iff]
    simp [Destination.isValid]
  · rw [followsGrammar_iff, cutsIntoNames_iff]
  · rw [followsGrammar_iff]
    exact Destination.resolve?_eq_some_iff

/-- Names of spaces only are names. -/
example : Destination.isValid "  ,   " false = true := by decide +kernel

/-- A line end is no part of a name. -/
example : Destination.isValid "Oslo, Norway\n" false = false := by decide +kernel

end Whereto
