import Whereto.Proofs.Picker.Precise
import Whereto.Proofs.Place.Grammar

/-!
Blank parts of what is submitted. The text of the field is trimmed before it is looked at, so its
first part begins with a letter and its last part ends with one; but a part in the middle is not
trimmed, and it may be made of spaces only. That happens exactly if the text has two commas with
nothing but spaces between them.
-/

namespace Whereto

open Text (trim isBlank joined)

/-! ### Separators -/

namespace Text

variable {s : String} {a b l before after : List Char} {separator : Char}

/-- What stands before a separator goes on into the rest of a text whose beginning has none. -/
lemma exists_of_append_eq (ha : separator ∉ a) (h : a ++ l = before ++ separator :: after) :
    ∃ d, l = d ++ separator :: after := by
  rcases List.append_eq_append_iff.mp h with ⟨d, -, hd⟩ | ⟨d, hd, hrest⟩
  · exact ⟨d, hd⟩
  · cases d with
    | nil => exact ⟨[], by simpa using hrest.symm⟩
    | cons x d =>
      simp only [List.cons_append, List.cons.injEq] at hrest
      exact absurd (by simp [hd, ← hrest.1]) ha

/-- So it is at the end. -/
lemma exists_of_eq_append (hb : separator ∉ b) (h : l ++ b = before ++ separator :: after) :
    ∃ d, l = before ++ separator :: d := by
  have hreverse := congrArg List.reverse h
  simp only [List.reverse_append, List.reverse_cons, List.append_assoc, List.singleton_append]
    at hreverse
  obtain ⟨d, hd⟩ := exists_of_append_eq (by simpa using hb) hreverse
  refine ⟨d.reverse, ?_⟩
  rw [← List.reverse_reverse l, hd]
  simp

end Text

/-! ### Parts -/

/-- The parts of a text between its commas. -/
def partsOf (text : String) : List (List Char) := text.toList.splitOn ','

/-- Every part of the text holds a letter. -/
def EachHasLetter (text : String) : Prop :=
  ∀ part ∈ partsOf text, ∃ c ∈ part, Text.isLetter c = true

/-- There are two commas with nothing but spaces between them. -/
def HasBlankPart (text : String) : Prop :=
  ∃ before spaces after, text.toList = before ++ ',' :: (spaces ++ ',' :: after) ∧
    ∀ c ∈ spaces, c = ' '

variable {text name first last : String} {names : List String} {part : List Char}

@[simp]
lemma isLetter_space : Text.isLetter ' ' = false := by decide +kernel

/-- Spaces only hold no letter. -/
lemma no_letter_of_spaces (h : ∀ c ∈ part, c = ' ') : ¬ ∃ c ∈ part, Text.isLetter c = true := by
  rintro ⟨c, hc, hletter⟩
  rw [h c hc, isLetter_space] at hletter
  cases hletter

lemma partsOf_joined (hfirst : IsPlaceName first) (hnames : ∀ name ∈ names, IsPlaceName name) :
    partsOf (joined (first :: names)) = first.toList :: names.map (' ' :: ·.toList) := by
  unfold partsOf
  induction names generalizing first with
  | nil => exact List.splitOn_eq_singleton hfirst.comma_notMem
  | cons second rest ih =>
    obtain ⟨hsecond, hrest⟩ := List.forall_mem_cons.mp hnames
    rw [Text.toList_joined_cons, List.splitOn_append_cons_self_of_not_mem hfirst.comma_notMem,
      List.splitOn_cons_eq_if_modifyHead, ih hsecond hrest]
    simp

/-- What stands between two commas is a part. -/
lemma HasBlankPart.exists_part (h : HasBlankPart text) :
    ∃ part ∈ partsOf text, ∀ c ∈ part, c = ' ' := by
  obtain ⟨before, spaces, after, htext, hspaces⟩ := h
  have hcomma : ',' ∉ spaces := fun hmem => by cases hspaces _ hmem
  refine ⟨spaces, ?_, hspaces⟩
  rw [partsOf, htext, List.splitOn_append_cons_self,
    List.splitOn_append_cons_self_of_not_mem hcomma]
  simp

/-- White space at the ends does not count. -/
lemma hasBlankPart_trim_iff : HasBlankPart (trim text) ↔ HasBlankPart text := by
  obtain ⟨a, b, htext, ha, hb⟩ := Text.exists_eq_append_trim text
  have hcomma {l : List Char} (hl : ∀ c ∈ l, isBlank c = true) : ',' ∉ l := fun hmem => by
    cases hl _ hmem
  constructor
  · rintro ⟨before, spaces, after, htrim, hspaces⟩
    refine ⟨a ++ before, spaces, after ++ b, ?_, hspaces⟩
    rw [htext, htrim]
    simp
  · rintro ⟨before, spaces, after, hfield, hspaces⟩
    rw [htext] at hfield
    obtain ⟨before, hstart⟩ := Text.exists_of_append_eq (hcomma ha) hfield
    rw [← List.cons_append, ← List.append_assoc] at hstart
    obtain ⟨after, hend⟩ := Text.exists_of_eq_append (hcomma hb) hstart
    exact ⟨before, spaces, after, by simpa using hend, hspaces⟩

lemma isLetter_of_not_blank {c : Char} (hname : IsPlaceName name) (hmem : c ∈ name.toList)
    (hc : isBlank c = false) : Text.isLetter c = true := by
  rcases hname.2 c hmem with rfl | hletter
  · cases hc
  · exact hletter

/-- The first part of a trimmed text begins with a letter. -/
lemma exists_letter_first (hfirst : IsPlaceName first)
    (htext : trim text = joined (first :: names)) :
    ∃ c ∈ first.toList, Text.isLetter c = true := by
  have hne := hfirst.toList_ne_nil
  obtain ⟨rest, hrest⟩ : ∃ rest, (trim text).toList = first.toList ++ rest := by
    rw [htext]
    cases names with
    | nil => exact ⟨[], by simp [joined]⟩
    | cons second names => exact ⟨_, Text.toList_joined_cons first second names⟩
  have hblank := Text.isBlank_head_trim (s := text) (by simp [hrest, hne])
  simp only [hrest, List.head_append_of_ne_nil hne] at hblank
  exact ⟨_, List.head_mem hne, isLetter_of_not_blank hfirst (List.head_mem hne) hblank⟩

/-- The last part of a trimmed text ends with one. -/
lemma exists_letter_last (hlast : IsPlaceName last) (htext : trim text = joined (names ++ [last])) :
    ∃ c ∈ last.toList, Text.isLetter c = true := by
  have hne := hlast.toList_ne_nil
  obtain ⟨before, hbefore⟩ := Text.toList_joined_concat names
  have hrest : (trim text).toList = before ++ last.toList := by rw [htext, hbefore]
  have hblank := Text.isBlank_getLast_trim (s := text) (by simp [hrest, hne])
  simp only [hrest, List.getLast_append_of_ne_nil _ hne] at hblank
  exact ⟨_, List.getLast_mem hne, isLetter_of_not_blank hlast (List.getLast_mem hne) hblank⟩

/-- A name without a letter is made of spaces. -/
lemma IsPlaceName.eq_space (hname : IsPlaceName name)
    (h : ¬ ∃ c ∈ name.toList, Text.isLetter c = true) : ∀ c ∈ name.toList, c = ' ' :=
  fun c hmem => (hname.2 c hmem).resolve_right fun hletter => h ⟨c, hmem, hletter⟩

lemma eachHasLetter_joined_iff (hfirst : IsPlaceName first)
    (hnames : ∀ name ∈ names, IsPlaceName name) :
    EachHasLetter (joined (first :: names)) ↔
      ∀ name ∈ first :: names, ∃ c ∈ name.toList, Text.isLetter c = true := by
  simp [EachHasLetter, partsOf_joined hfirst hnames]

/-- A trimmed text that looks like a city has a letter in every part, unless one in the middle is
blank. -/
lemma IsCityShaped.eachHasLetter (hshaped : IsCityShaped (trim text))
    (hblank : ¬ HasBlankPart (trim text)) : EachHasLetter (trim text) := by
  obtain ⟨names, hlen | hlen, hnames, htext⟩ := hshaped
  · obtain ⟨first, last, rfl⟩ := List.length_eq_two.mp hlen
    obtain ⟨hfirst, hrest⟩ := List.forall_mem_cons.mp hnames
    obtain ⟨hlast, -⟩ := List.forall_mem_cons.mp hrest
    rw [htext, eachHasLetter_joined_iff hfirst hrest]
    have hend : trim text = joined ([first] ++ [last]) := htext
    simpa using ⟨exists_letter_first hfirst htext, exists_letter_last hlast hend⟩
  · obtain ⟨first, middle, last, rfl⟩ := List.length_eq_three.mp hlen
    obtain ⟨hfirst, hrest⟩ := List.forall_mem_cons.mp hnames
    obtain ⟨hmiddle, hlasts⟩ := List.forall_mem_cons.mp hrest
    obtain ⟨hlast, -⟩ := List.forall_mem_cons.mp hlasts
    have hletter : ∃ c ∈ middle.toList, Text.isLetter c = true := by
      by_contra hnone
      refine hblank ⟨first.toList, ' ' :: middle.toList, ' ' :: last.toList, ?_,
        List.forall_mem_cons.mpr ⟨rfl, hmiddle.eq_space hnone⟩⟩
      rw [htext, Text.toList_joined_cons, Text.toList_joined_cons]
      rfl
    rw [htext, eachHasLetter_joined_iff hfirst hrest]
    have hend : trim text = joined ([first, middle] ++ [last]) := htext
    simpa using ⟨exists_letter_first hfirst htext, hletter, exists_letter_last hlast hend⟩

lemma EachHasLetter.not_hasBlankPart (h : EachHasLetter text) : ¬ HasBlankPart text := by
  intro hblank
  obtain ⟨part, hpart, hspaces⟩ := hblank.exists_part
  exact no_letter_of_spaces hspaces (h part hpart)

lemma IsCityShaped.length_partsOf (h : IsCityShaped text) :
    (partsOf text).length = 2 ∨ (partsOf text).length = 3 := by
  obtain ⟨names, hlen, hnames, rfl⟩ := h
  cases names with
  | nil => simp at hlen
  | cons first rest =>
    obtain ⟨hfirst, hrest⟩ := List.forall_mem_cons.mp hnames
    simpa [partsOf_joined hfirst hrest] using hlen

namespace Picker

variable {p : Picker} {d : Destination}

/-- What is submitted and not precise is the trimmed text, and it looks like a city. -/
lemma isCityShaped_of_submitted (h : .submitted (some d) ∈ (p.step .submit).2)
    (typed : d.precise = false) :
    d.location = trim p.field.text ∧ IsCityShaped (trim p.field.text) := by
  obtain ⟨hvalid, rfl⟩ := Destination.resolve?_eq_some_iff.mp (submitted_iff.mp h).symm
  have hprecise : p.field.precise = false := typed
  exact ⟨rfl, isCityText_iff.mp (hvalid.resolve_left (by simp [hprecise]))⟩

/-- **Which submissions have a letter in every part.** Whatever the picker holds: a destination that
is submitted and is not precise has two or three parts between its commas, and every one of them
holds a letter if and only if the text of the field has no two commas with nothing but spaces
between them. -/
theorem eachHasLetter_iff_not_hasBlankPart (submitted : .submitted (some d) ∈ (p.step .submit).2)
    (typed : d.precise = false) :
    ((partsOf d.location).length = 2 ∨ (partsOf d.location).length = 3) ∧
      (EachHasLetter d.location ↔ ¬ HasBlankPart p.field.text) := by
  obtain ⟨hlocation, hshaped⟩ := isCityShaped_of_submitted submitted typed
  rw [hlocation, ← hasBlankPart_trim_iff]
  exact ⟨hshaped.length_partsOf, EachHasLetter.not_hasBlankPart, hshaped.eachHasLetter⟩

/-- White space is typed around every part; then a part in the middle is left out. -/
def skipping : Course step where
  start := new ⟨2, ⟨10000, true⟩⟩ .ready
  input
    | 0 => .setText "\tParis ,  Île de France,   France "
    | 1 => .submit
    | 2 => .setText "Paris,  , France"
    | _ => .submit

theorem skipping_eachHasLetter :
    .submitted (some ⟨"Paris ,  Île de France,   France", false⟩) ∈ skipping.output 1 ∧
    EachHasLetter "Paris ,  Île de France,   France" := by
  have submitted : .submitted (some ⟨"Paris ,  Île de France,   France", false⟩) ∈
      ((skipping.state 1).step .submit).2 := submitted_iff.mpr (by decide +kernel)
  have hparts : ∀ part ∈ partsOf (skipping.state 1).field.text, part.all (· == ' ') = false := by
    decide +kernel
  refine ⟨submitted, (eachHasLetter_iff_not_hasBlankPart submitted rfl).2.mpr fun hblank => ?_⟩
  obtain ⟨part, hpart, hspaces⟩ := hblank.exists_part
  have hall : part.all (· == ' ') = true :=
    List.all_eq_true.mpr fun c hc => beq_iff_eq.mpr (hspaces c hc)
  exact Bool.false_ne_true ((hparts part hpart).symm.trans hall)

/-- The part that was left out is submitted as a blank one. -/
theorem skipping_submits_blank :
    .submitted (some ⟨"Paris,  , France", false⟩) ∈ skipping.output 3 ∧
    ∃ part ∈ partsOf "Paris,  , France", (∀ c ∈ part, c = ' ') ∧
      ¬ ∃ c ∈ part, Text.isLetter c = true := by
  have hspaces : ∀ c ∈ [' ', ' '], c = ' ' := by simp
  exact ⟨submitted_iff.mpr (by decide +kernel), [' ', ' '], by decide, hspaces,
    no_letter_of_spaces hspaces⟩

end Picker

end Whereto
