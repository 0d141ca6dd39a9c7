import Mathlib.Data.List.Forall2
import Whereto.Place.Destination
import Whereto.Proofs.Text.Trim

/-!
Texts that look like a city: two or three names with commas between them. What is joined of
several parts looks like a city if and only if every part consists of names and there are two or
three names altogether; a part may hold more than one.
-/

namespace Whereto

namespace Text

variable {separator : Char} {a b : List Char}

lemma cut_append (h : separator ∉ a) :
    cut separator (a ++ separator :: b) = a :: cut separator b := by
  induction a with
  | nil => simp [cut]
  | cons c a ih =>
    obtain ⟨hc, ha⟩ := List.ne_and_not_mem_of_not_mem_cons h
    simp [cut, Ne.symm hc, ih ha]

lemma cut_of_notMem (h : separator ∉ a) : cut separator a = [a] := by
  induction a with
  | nil => rfl
  | cons c a ih =>
    obtain ⟨hc, ha⟩ := List.ne_and_not_mem_of_not_mem_cons h
    simp [cut, Ne.symm hc, ih ha]

/-- The pieces with the separators between them are the text. -/
lemma intercalate_cut (separator : Char) (cs : List Char) :
    [separator].intercalate (cut separator cs) = cs := by
  induction cs with
  | nil => rfl
  | cons c cs ih =>
    obtain ⟨piece, pieces, hcut⟩ := List.exists_cons_of_ne_nil (cut_ne_nil separator cs)
    rw [hcut] at ih
    by_cases hc : c = separator
    · simp [cut, hc, hcut, List.intercalate_cons_cons, ih]
    · rw [cut, if_neg hc, hcut]
      cases pieces with
      | nil => simpa using ih
      | cons second rest =>
        rw [List.intercalate_cons_cons] at ih ⊢
        simpa using ih

end Text

open Text (joined cut)

/-! ### Names -/

/-- Letters and spaces, at least one of them. -/
def IsPlaceName (s : String) : Prop :=
  s ≠ "" ∧ ∀ c ∈ s.toList, c = ' ' ∨ Text.isLetter c = true

/-- Two or three names with a comma and a space between them. -/
def IsCityShaped (text : String) : Prop :=
  ∃ names : List String, (names.length = 2 ∨ names.length = 3) ∧
    (∀ name ∈ names, IsPlaceName name) ∧ text = joined names

variable {s text : String} {names parts : List String}

lemma isName_iff {cs : List Char} : isName cs = true ↔ IsPlaceName (String.ofList cs) := by
  have hnil : String.ofList cs ≠ "" ↔ cs ≠ [] := by
    rw [Ne, ← String.toList_inj]
    simp
  simp [isName, IsPlaceName, isNameChar, hnil]

lemma isFurtherName_iff {cs : List Char} :
    isFurtherName cs = true ↔ ∃ name, IsPlaceName name ∧ cs = ' ' :: name.toList := by
  constructor
  · intro h
    unfold isFurtherName at h
    split at h
    · rename_i ds
      exact ⟨String.ofList ds, isName_iff.mp h, by simp⟩
    · cases h
  · rintro ⟨name, hname, rfl⟩
    exact isName_iff.mpr (by simpa using hname)

lemma IsPlaceName.comma_notMem (h : IsPlaceName s) : ',' ∉ s.toList := by
  intro hmem
  rcases h.2 _ hmem with hc | hc
  · cases hc
  · have hcomma : Text.isLetter ',' = false := by decide +kernel
    simp [hcomma] at hc

lemma IsPlaceName.toList_ne_nil (h : IsPlaceName s) : s.toList ≠ [] :=
  fun hnil => h.1 (String.toList_inj.mp hnil)

/-- **City texts.** The check accepts exactly two or three names with commas between them. -/
theorem isCityText_iff : isCityText text = true ↔ IsCityShaped text := by
  constructor
  · intro h
    have htext := Text.intercalate_cut ',' text.toList
    unfold isCityText at h
    split at h
    · rename_i first second hcut
      simp only [Bool.and_eq_true] at h
      obtain ⟨name, hname, rfl⟩ := isFurtherName_iff.mp h.2
      refine ⟨[String.ofList first, name], .inl rfl, ?_, ?_⟩
      · simp [isName_iff.mp h.1, hname]
      · apply String.toList_inj.mp
        rw [← htext, hcut, Text.toList_joined_cons]
        simp [List.intercalate_cons_cons, joined]
    · rename_i first second third hcut
      simp only [Bool.and_eq_true] at h
      obtain ⟨name, hname, rfl⟩ := isFurtherName_iff.mp h.1.2
      obtain ⟨last, hlast, rfl⟩ := isFurtherName_iff.mp h.2
      refine ⟨[String.ofList first, name, last], .inr rfl, ?_, ?_⟩
      · simp [isName_iff.mp h.1.1, hname, hlast]
      · apply String.toList_inj.mp
        rw [← htext, hcut, Text.toList_joined_cons, Text.toList_joined_cons]
        simp [List.intercalate_cons_cons, joined]
    · cases h
  · rintro ⟨names, hlen, hnames, rfl⟩
    have further {name : String} (h : IsPlaceName name) : ',' ∉ ' ' :: name.toList := by
      simpa using h.comma_notMem
    have name {s : String} (h : IsPlaceName s) : isName s.toList = true :=
      isName_iff.mpr (by simpa using h)
    rcases hlen with hlen | hlen
    · obtain ⟨first, second, rfl⟩ := List.length_eq_two.mp hlen
      obtain ⟨hfirst, hsecond⟩ : IsPlaceName first ∧ IsPlaceName second := by
        simpa using hnames
      have hcut : cut ',' (joined [first, second]).toList =
          [first.toList, ' ' :: second.toList] := by
        rw [Text.toList_joined_cons, Text.cut_append hfirst.comma_notMem, joined,
          Text.cut_of_notMem (further hsecond)]
      simp [isCityText, hcut, name hfirst, isFurtherName, name hsecond]
    · obtain ⟨first, second, third, rfl⟩ := List.length_eq_three.mp hlen
      obtain ⟨hfirst, hsecond, hthird⟩ :
          IsPlaceName first ∧ IsPlaceName second ∧ IsPlaceName third := by
        simpa using hnames
      have hcut : cut ',' (joined [first, second, third]).toList =
          [first.toList, ' ' :: second.toList, ' ' :: third.toList] := by
        rw [Text.toList_joined_cons, Text.toList_joined_cons,
          Text.cut_append hfirst.comma_notMem, ← List.cons_append,
          Text.cut_append (further hsecond), joined, Text.cut_of_notMem (further hthird)]
      simp [isCityText, hcut, name hfirst, isFurtherName, name hsecond, name hthird]

/-! ### Parts that hold names -/

/-- The part consists of these names. -/
def Holds (part : String) (names : List String) : Prop :=
  names ≠ [] ∧ (∀ name ∈ names, IsPlaceName name) ∧ part = joined names

/-- Every part consists of names, two or three of them altogether. -/
def HoldCity (parts : List String) : Prop :=
  ∃ groups : List (List String), List.Forall₂ Holds parts groups ∧
    (groups.flatten.length = 2 ∨ groups.flatten.length = 3)

lemma joined_append {l r : List String} (hl : l ≠ []) (hr : r ≠ []) :
    joined (l ++ r) = joined [joined l, joined r] := by
  induction l with
  | nil => exact absurd rfl hl
  | cons part l ih =>
    obtain ⟨second, rest, rfl⟩ := List.exists_cons_of_ne_nil hr
    cases l with
    | nil => rfl
    | cons next l =>
      calc joined (part :: (next :: l ++ second :: rest))
        _ = part ++ ", " ++ joined (next :: l ++ second :: rest) := rfl
        _ = part ++ ", " ++ (joined (next :: l) ++ ", " ++ joined (second :: rest)) := by
          rw [ih (List.cons_ne_nil next l)]
          rfl
        _ = part ++ ", " ++ joined (next :: l) ++ ", " ++ joined (second :: rest) := by
          simp [String.append_assoc]

/-- If joined names are a text, a comma, a space and another text, the comma stands between two
names. -/
lemma split_names {x y : List Char} (hnames : ∀ name ∈ names, IsPlaceName name)
    (h : (joined names).toList = x ++ ',' :: ' ' :: y) :
    ∃ l r, names = l ++ r ∧ l ≠ [] ∧ r ≠ [] ∧ x = (joined l).toList ∧ y = (joined r).toList := by
  induction names generalizing x with
  | nil => simp [joined] at h
  | cons name names ih =>
    obtain ⟨hname, hnames⟩ := List.forall_mem_cons.mp hnames
    have hcomma := hname.comma_notMem
    cases names with
    | nil =>
      rw [show joined [name] = name from rfl] at h
      simp [h] at hcomma
    | cons second rest =>
      rw [Text.toList_joined_cons] at h
      rcases List.append_eq_append_iff.mp h with ⟨z, hx, hz⟩ | ⟨z, hx, hz⟩
      · rcases z with _ | ⟨_, _ | ⟨_, z⟩⟩
        · simp only [List.append_nil, List.nil_append, List.cons.injEq, true_and] at hx hz
          exact ⟨[name], second :: rest, rfl, by simp, by simp, hx, hz.symm⟩
        · simp at hz
        · simp only [List.cons_append, List.cons.injEq] at hz
          obtain ⟨rfl, rfl, hrest⟩ := hz
          obtain ⟨l, r, hlr, hl, hr, rfl, rfl⟩ := ih hnames hrest
          refine ⟨name :: l, r, by simp [hlr], by simp, hr, ?_, rfl⟩
          obtain ⟨next, l, rfl⟩ := List.exists_cons_of_ne_nil hl
          rw [hx, Text.toList_joined_cons]
      · rcases z with _ | ⟨_, z⟩
        · simp only [List.append_nil, List.nil_append, List.cons.injEq, true_and] at hx hz
          exact ⟨[name], second :: rest, rfl, by simp, by simp, hx.symm, hz⟩
        · simp only [List.cons_append, List.cons.injEq] at hz
          simp [hx, ← hz.1] at hcomma

lemma holds_of_joined {part : String} (hnames : ∀ name ∈ names, IsPlaceName name)
    (hne : names ≠ []) (h : joined names = joined (part :: parts)) :
    ∃ groups : List (List String), List.Forall₂ Holds (part :: parts) groups ∧
      groups.flatten = names := by
  induction parts generalizing part names with
  | nil => exact ⟨[names], .cons ⟨hne, hnames, h.symm⟩ .nil, by simp⟩
  | cons second rest ih =>
    have htext := congrArg String.toList h
    rw [Text.toList_joined_cons] at htext
    obtain ⟨l, r, rfl, hl, hr, hpart, hrest⟩ := split_names hnames htext
    obtain ⟨groups, hgroups, rfl⟩ :=
      ih (fun name hmem => hnames name (List.mem_append_right _ hmem)) hr
        (String.toList_inj.mp hrest.symm)
    exact ⟨l :: groups, .cons ⟨hl, fun name hmem => hnames name (List.mem_append_left _ hmem),
      String.toList_inj.mp hpart⟩ hgroups, by simp⟩

lemma joined_of_holds {part : String} {groups : List (List String)}
    (h : List.Forall₂ Holds (part :: parts) groups) :
    joined (part :: parts) = joined groups.flatten ∧ groups.flatten ≠ [] ∧
      ∀ name ∈ groups.flatten, IsPlaceName name := by
  induction parts generalizing part groups with
  | nil =>
    obtain ⟨names, _, hpart, hnil, rfl⟩ := List.forall₂_cons_left_iff.mp h
    obtain rfl := List.forall₂_nil_left_iff.mp hnil
    simpa using ⟨hpart.2.2, hpart.1, hpart.2.1⟩
  | cons second rest ih =>
    obtain ⟨names, groups, hpart, hrest, rfl⟩ := List.forall₂_cons_left_iff.mp h
    obtain ⟨htext, hne, hnames⟩ := ih hrest
    refine ⟨?_, by simp [hpart.1], ?_⟩
    · rw [List.flatten_cons, joined_append hpart.1 hne, ← htext, ← hpart.2.2]
      rfl
    · rw [List.flatten_cons, List.forall_mem_append]
      exact ⟨hpart.2.1, hnames⟩

/-- **Joined parts** look like a city if and only if they hold two or three names. -/
theorem isCityShaped_joined_iff (part : String) (parts : List String) :
    IsCityShaped (joined (part :: parts)) ↔ HoldCity (part :: parts) := by
  constructor
  · rintro ⟨names, hlen, hnames, htext⟩
    have hne : names ≠ [] := by
      rintro rfl
      simp at hlen
    obtain ⟨groups, hgroups, rfl⟩ := holds_of_joined hnames hne htext.symm
    exact ⟨groups, hgroups, hlen⟩
  · rintro ⟨groups, hgroups, hlen⟩
    obtain ⟨htext, -, hnames⟩ := joined_of_holds hgroups
    exact ⟨groups.flatten, hlen, hnames, htext⟩

end Whereto
