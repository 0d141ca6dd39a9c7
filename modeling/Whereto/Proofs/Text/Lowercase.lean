import Whereto.Proofs.Text.Blank
import Whereto.Text.Lowercase

/-!
Lower case. The lower case of a character has no other lower case, so a text in lower case stays as
it is. The end of a word is looked for no further than to the next white space, and white space has
no case, so a text can be trimmed before or after it is put into lower case.
-/

namespace Whereto.Text

variable {c d : Char} {n : ℕ} {r r' : CaseRun} {w cs before after : List Char}

/-! ### Runs of upper case -/

namespace CaseRun

/-- The lower cases of a run. They are a run, too. -/
def lowered (r : CaseRun) : CaseRun :=
  ⟨(r.first + r.shift).toNat, (r.last + r.shift).toNat, r.stride, 0⟩

/-- No code point is in both runs, because one ends before the other begins, or because `r'` has
every second code point and `r` only some of those between them. -/
def apart (r r' : CaseRun) : Bool :=
  r.last.blt r'.first || r'.last.blt r.first ||
    (r'.stride == 2 && (r.stride == 2 || r.first == r.last) && r.first % 2 != r'.first % 2)

lemma holds_iff :
    r.holds n = true ↔ r.first ≤ n ∧ n ≤ r.last ∧ (n - r.first) % r.stride = 0 := by
  simp [holds, and_assoc]

lemma not_holds_of_apart (h : r.apart r' = true) (hn : r.holds n = true) : r'.holds n = false := by
  by_contra hholds
  rw [Bool.not_eq_false] at hholds
  obtain ⟨hfirst, hlast, hmod⟩ := holds_iff.mp hn
  obtain ⟨hfirst', hlast', hmod'⟩ := holds_iff.mp hholds
  simp only [apart, Bool.or_eq_true, Bool.and_eq_true, Nat.blt_eq, beq_iff_eq, bne_iff_ne] at h
  rcases h with (hbefore | hafter) | ⟨⟨hstride', hstride | hsingle⟩, hbetween⟩
  · omega
  · omega
  · rw [hstride] at hmod
    rw [hstride'] at hmod'
    omega
  · rw [hstride'] at hmod'
    omega

lemma lowered_holds (h : 0 ≤ r.first + r.shift) (hn : r.holds n = true) :
    r.lowered.holds (n + r.shift).toNat = true := by
  obtain ⟨hfirst, hlast, hmod⟩ := holds_iff.mp hn
  have hsteps : (n + r.shift).toNat - (r.first + r.shift).toNat = n - r.first := by omega
  refine holds_iff.mpr ⟨?_, ?_, ?_⟩
  · simp only [lowered]
    omega
  · simp only [lowered]
    omega
  · simpa only [lowered, hsteps] using hmod

end CaseRun

/-- All characters that have another lower case. -/
def upperRuns : List CaseRun := ⟨0x130, 0x130, 1, 0⟩ :: caseRuns

/-- No lower case of a run is in a run itself. -/
lemma lowered_apart : (caseRuns.all fun r => upperRuns.all r.lowered.apart) = true := by
  decide +kernel

lemma lowered_nonneg : (caseRuns.all fun r => 0 ≤ r.first + r.shift) = true := by decide +kernel

/-- The lower cases of a run have case. -/
lemma lowered_cased : (caseRuns.all fun r => casedRanges.any fun range =>
    range.1.ble r.lowered.first && r.lowered.last.ble range.2) = true := by decide +kernel

lemma casedRanges_valid : (casedRanges.all fun range =>
    range.2.blt 0xD800 || (Nat.blt 0xDFFF range.1 && range.2.blt 0x110000)) = true := by
  decide +kernel

/-- A code point with case is a character. -/
lemma toNat_ofNat_of_cased (h : inRanges casedRanges n = true) : (Char.ofNat n).toNat = n := by
  obtain ⟨range, hrange, hn⟩ := List.any_eq_true.mp h
  have hall := List.all_eq_true.mp casedRanges_valid range hrange
  simp only [Bool.or_eq_true, Bool.and_eq_true, Nat.blt_eq, decide_eq_true_eq] at hn hall
  have hvalid : n.isValidChar := by
    unfold Nat.isValidChar
    omega
  rw [Char.ofNat, dif_pos hvalid]
  rfl

/-! ### Characters -/

lemma lowerChar_of_not_upper (h : ∀ r ∈ upperRuns, r.holds c.toNat = false) :
    lowerChar c = [c] := by
  obtain ⟨hdotted, hruns⟩ := List.forall_mem_cons.mp h
  have hne : c.toNat ≠ 0x130 := by
    intro heq
    rw [heq] at hdotted
    cases hdotted
  have hnone : caseRuns.find? (·.holds c.toNat) = none :=
    List.find?_eq_none.mpr fun r hr => by simp [hruns r hr]
  rw [lowerChar, if_neg hne, hnone]

/-- A character is put into lower case by a run, or it is U+0130, or it stays as it is. -/
lemma lowerChar_cases (c : Char) : lowerChar c = ['i', '\u0307'] ∨
    (∃ r ∈ caseRuns, r.holds c.toNat = true ∧
      lowerChar c = [Char.ofNat (c.toNat + r.shift).toNat]) ∨ lowerChar c = [c] := by
  unfold lowerChar
  split
  · exact .inl rfl
  · split
    next r hfind =>
      exact .inr (.inl ⟨r, List.mem_of_find?_eq_some hfind,
        List.find?_some (p := fun r : CaseRun => r.holds c.toNat) hfind, rfl⟩)
    next => exact .inr (.inr rfl)

/-- What a run puts into lower case has case, and no run holds it. -/
lemma lowered_of_holds (hr : r ∈ caseRuns) (hn : r.holds n = true)
    (hd : d = Char.ofNat (n + r.shift).toNat) : isCased d = true ∧ lowerChar d = [d] := by
  have hholds := CaseRun.lowered_holds
    (by simpa using List.all_eq_true.mp lowered_nonneg r hr) hn
  have hcased : inRanges casedRanges (n + r.shift).toNat = true := by
    obtain ⟨range, hrange, hin⟩ :=
      List.any_eq_true.mp (List.all_eq_true.mp lowered_cased r hr)
    obtain ⟨hfirst, hlast, -⟩ := CaseRun.holds_iff.mp hholds
    simp only [Bool.and_eq_true, Nat.ble_eq] at hin
    refine List.any_eq_true.mpr ⟨range, hrange, ?_⟩
    simp only [Bool.and_eq_true, decide_eq_true_eq]
    omega
  have hcode : d.toNat = (n + r.shift).toNat := by
    rw [hd, toNat_ofNat_of_cased hcased]
  constructor
  · rw [isCased, hcode, hcased]
  · refine lowerChar_of_not_upper fun r' hr' => ?_
    rw [hcode]
    exact CaseRun.not_holds_of_apart
      (List.all_eq_true.mp (List.all_eq_true.mp lowered_apart r hr) r' hr') hholds

/-- The code points of white space. -/
def blankCodes : List ℕ :=
  List.range' 9 5 ++ [0x20, 0x85, 0xA0, 0x1680] ++ List.range' 0x2000 11 ++
    [0x2028, 0x2029, 0x202F, 0x205F, 0x3000]

lemma mem_blankCodes (h : isBlank c = true) : c.toNat ∈ blankCodes := by
  simp only [isBlank, Bool.or_eq_true, Bool.and_eq_true, decide_eq_true_eq, beq_iff_eq] at h
  simp only [blankCodes, List.mem_append, List.mem_range'_1, List.mem_cons, List.not_mem_nil,
    or_false]
  omega

lemma blankCodes_caseless : (blankCodes.all fun n => !inRanges casedRanges n &&
    !inRanges caseIgnorableRanges n && upperRuns.all fun r => !r.holds n) = true := by
  decide +kernel

/-- White space has no case, is not looked through, and stays as it is. -/
lemma caseless_of_blank (h : isBlank c = true) :
    isCased c = false ∧ isCaseIgnorable c = false ∧ lowerChar c = [c] := by
  have hall := List.all_eq_true.mp blankCodes_caseless _ (mem_blankCodes h)
  simp only [Bool.and_eq_true, Bool.not_eq_true', List.all_eq_true] at hall
  exact ⟨hall.1.1, hall.1.2, lowerChar_of_not_upper hall.2⟩

lemma not_blank_of_cased (h : isCased c = true) : isBlank c = false := by
  refine Bool.eq_false_iff.mpr fun hblank => ?_
  rw [(caseless_of_blank hblank).1] at h
  cases h

/-- A lower case is its own lower case. -/
lemma lowerChar_of_mem (h : d ∈ lowerChar c) : lowerChar d = [d] := by
  rcases lowerChar_cases c with hc | ⟨r, hr, hn, hc⟩ | hc
  · rw [hc, List.mem_cons, List.mem_singleton] at h
    rcases h with rfl | rfl <;> decide +kernel
  · exact (lowered_of_holds hr hn (List.mem_singleton.mp (hc ▸ h))).2
  · obtain rfl := List.mem_singleton.mp (hc ▸ h)
    exact hc

lemma isBlank_of_mem_lowerChar (h : d ∈ lowerChar c) : isBlank d = isBlank c := by
  cases hblank : isBlank c with
  | true =>
    rw [(caseless_of_blank hblank).2.2, List.mem_singleton] at h
    rw [h, hblank]
  | false =>
    rcases lowerChar_cases c with hc | ⟨r, hr, hn, hc⟩ | hc
    · rw [hc, List.mem_cons, List.mem_singleton] at h
      rcases h with rfl | rfl <;> rfl
    · exact not_blank_of_cased (lowered_of_holds hr hn (List.mem_singleton.mp (hc ▸ h))).1
    · rw [hc, List.mem_singleton] at h
      rw [h, hblank]

lemma lowerChar_ne_nil (c : Char) : lowerChar c ≠ [] := by
  rcases lowerChar_cases c with hc | ⟨r, -, -, hc⟩ | hc <;> simp [hc]

/-! ### Characters of a text -/

/-- What the character `c` becomes after the reversed text `before` and before the text `after`. -/
def lowerAt (before : List Char) (c : Char) (after : List Char) : List Char :=
  if c = capitalSigma then [if endsWord before after then finalSigma else smallSigma]
  else lowerChar c

lemma lowerFrom_cons (before : List Char) (c : Char) (cs : List Char) :
    lowerFrom before (c :: cs) = lowerAt before c cs ++ lowerFrom (c :: before) cs := rfl

lemma lowerAt_ne_nil (before : List Char) (c : Char) (after : List Char) :
    lowerAt before c after ≠ [] := by
  unfold lowerAt
  split
  · exact List.cons_ne_nil _ _
  · exact lowerChar_ne_nil c

/-- Both small sigmas stay as they are, so a lower case does wherever it stands. -/
lemma lowerChar_of_mem_lowerAt (h : d ∈ lowerAt before c after) : lowerChar d = [d] := by
  unfold lowerAt at h
  split at h
  · rw [List.mem_singleton.mp h]
    split <;> decide +kernel
  · exact lowerChar_of_mem h

lemma isBlank_of_mem_lowerAt (h : d ∈ lowerAt before c after) : isBlank d = isBlank c := by
  unfold lowerAt at h
  split at h
  next hc =>
    rw [List.mem_singleton.mp h, hc]
    split <;> rfl
  next => exact isBlank_of_mem_lowerChar h

/-- A capital sigma has another lower case, so there is none in a text that stays as it is. -/
lemma lowerAt_of_lower (h : lowerChar c = [c]) : lowerAt before c after = [c] := by
  have hc : c ≠ capitalSigma := by
    rintro rfl
    exact absurd h (by decide +kernel)
  rw [lowerAt, if_neg hc, h]

lemma lowerFrom_of_lower (h : ∀ c ∈ cs, lowerChar c = [c]) : lowerFrom before cs = cs := by
  induction cs generalizing before with
  | nil => rfl
  | cons c cs ih =>
    obtain ⟨hc, hcs⟩ := List.forall_mem_cons.mp h
    rw [lowerFrom_cons, lowerAt_of_lower hc, ih hcs, List.singleton_append]

lemma lowerChar_of_mem_lowerFrom (h : d ∈ lowerFrom before cs) : lowerChar d = [d] := by
  induction cs generalizing before with
  | nil => cases h
  | cons c cs ih =>
    rw [lowerFrom_cons, List.mem_append] at h
    exact h.elim lowerChar_of_mem_lowerAt ih

/-! ### White space around a text -/

/-- The search for a cased character stops at white space. -/
lemma meetsCased_append (h : ∀ c ∈ w, isBlank c = true) :
    meetsCased (cs ++ w) = meetsCased cs := by
  induction cs with
  | nil =>
    cases w with
    | nil => rfl
    | cons c w =>
      obtain ⟨hcased, hignorable, -⟩ := caseless_of_blank (h c List.mem_cons_self)
      simp [meetsCased, hcased, hignorable]
  | cons c cs ih =>
    unfold meetsCased at ih ⊢
    by_cases hc : isCaseIgnorable c = true
    · simpa [hc] using ih
    · simp [hc]

/-- White space after a text. -/
lemma lowerFrom_append (h : ∀ c ∈ w, isBlank c = true) :
    lowerFrom before (cs ++ w) = lowerFrom before cs ++ w := by
  induction cs generalizing before with
  | nil => exact lowerFrom_of_lower fun c hc => (caseless_of_blank (h c hc)).2.2
  | cons c cs ih =>
    have hat : lowerAt before c (cs ++ w) = lowerAt before c cs := by
      rw [lowerAt, lowerAt, endsWord, endsWord, meetsCased_append h]
    rw [List.cons_append, lowerFrom_cons, lowerFrom_cons, hat, ih, List.append_assoc]

/-- White space that was read before a text. -/
lemma lowerFrom_before (h : ∀ c ∈ w, isBlank c = true) :
    lowerFrom (before ++ w) cs = lowerFrom before cs := by
  induction cs generalizing before with
  | nil => rfl
  | cons c cs ih =>
    have hat : lowerAt (before ++ w) c cs = lowerAt before c cs := by
      rw [lowerAt, lowerAt, endsWord, endsWord, meetsCased_append h]
    rw [lowerFrom_cons, lowerFrom_cons, hat, ← List.cons_append, ih]

/-- White space before a text. -/
lemma lowerFrom_append_left (h : ∀ c ∈ w, isBlank c = true) :
    lowerFrom before (w ++ cs) = w ++ lowerFrom (w.reverse ++ before) cs := by
  induction w generalizing before with
  | nil => rfl
  | cons c w ih =>
    obtain ⟨hc, hw⟩ := List.forall_mem_cons.mp h
    rw [List.cons_append, lowerFrom_cons, lowerAt_of_lower (caseless_of_blank hc).2.2, ih hw]
    simp

/-- White space around a text stays, and the text is put into lower case as if it were alone. -/
lemma lowerFrom_padded {a b : List Char} (ha : ∀ c ∈ a, isBlank c = true)
    (hb : ∀ c ∈ b, isBlank c = true) :
    lowerFrom [] (a ++ (cs ++ b)) = a ++ (lowerFrom [] cs ++ b) := by
  have hreverse : ∀ c ∈ a.reverse, isBlank c = true := fun c hc => ha c (List.mem_reverse.mp hc)
  have hread : lowerFrom (a.reverse ++ []) (cs ++ b) = lowerFrom [] (cs ++ b) := by
    rw [List.append_nil, ← List.nil_append a.reverse]
    exact lowerFrom_before hreverse
  rw [lowerFrom_append_left ha, hread, lowerFrom_append hb]

/-! ### The ends of a text in lower case -/

lemma isBlank_of_head?_lowerFrom (h : d ∈ (lowerFrom before cs).head?) :
    ∃ c ∈ cs.head?, isBlank d = isBlank c := by
  cases cs with
  | nil => cases h
  | cons c cs =>
    rw [lowerFrom_cons, List.head?_append_of_ne_nil _ (lowerAt_ne_nil before c cs)] at h
    exact ⟨c, rfl, isBlank_of_mem_lowerAt (List.mem_of_mem_head? h)⟩

lemma lowerFrom_ne_nil (h : cs ≠ []) : lowerFrom before cs ≠ [] := by
  obtain ⟨c, cs, rfl⟩ := List.exists_cons_of_ne_nil h
  simp [lowerFrom_cons, lowerAt_ne_nil]

lemma isBlank_of_getLast?_lowerFrom (h : d ∈ (lowerFrom before cs).getLast?) :
    ∃ c ∈ cs.getLast?, isBlank d = isBlank c := by
  induction cs generalizing before with
  | nil => cases h
  | cons c cs ih =>
    cases cs with
    | nil =>
      rw [lowerFrom_cons, show lowerFrom (c :: before) [] = [] from rfl, List.append_nil] at h
      exact ⟨c, rfl, isBlank_of_mem_lowerAt (List.mem_of_getLast? h)⟩
    | cons next cs =>
      rw [lowerFrom_cons, List.getLast?_append_of_ne_nil _
        (lowerFrom_ne_nil (List.cons_ne_nil next cs))] at h
      obtain ⟨x, hx, hblank⟩ := ih h
      exact ⟨x, by rwa [List.getLast?_cons_cons], hblank⟩

/-! ### Texts -/

lemma toList_lowercase (s : String) : (lowercase s).toList = lowerFrom [] s.toList :=
  String.toList_ofList

/-- **Lower case is final.** -/
theorem lowercase_lowercase (s : String) : lowercase (lowercase s) = lowercase s := by
  apply String.toList_inj.mp
  rw [toList_lowercase, toList_lowercase]
  exact lowerFrom_of_lower fun d hd => lowerChar_of_mem_lowerFrom hd

/-- **Trimming and lower case** can be done in either order. -/
theorem trim_lowercase (s : String) : trim (lowercase s) = lowercase (trim s) := by
  obtain ⟨a, b, htext, ha, hb⟩ := exists_eq_append_trim s
  have hstart : trimStart (lowercase (trim s)).toList = (lowercase (trim s)).toList :=
    trimStart_eq_self fun d hd => by
      rw [toList_lowercase] at hd
      obtain ⟨c, hc, hblank⟩ := isBlank_of_head?_lowerFrom hd
      rw [hblank, isBlank_of_head?_trim hc]
  have hend : trimEnd (lowercase (trim s)).toList = (lowercase (trim s)).toList :=
    trimEnd_eq_self fun d hd => by
      rw [toList_lowercase] at hd
      obtain ⟨c, hc, hblank⟩ := isBlank_of_getLast?_lowerFrom hd
      rw [hblank, isBlank_of_getLast?_trim hc]
  apply String.toList_inj.mp
  calc (trim (lowercase s)).toList
    _ = trimEnd (trimStart (a ++ (lowerFrom [] (trim s).toList ++ b))) := by
      rw [toList_trim, toList_lowercase, htext, lowerFrom_padded ha hb]
    _ = trimEnd (trimStart (lowercase (trim s)).toList) := by
      rw [← List.append_assoc, trimEnd_trimStart_append ha hb, toList_lowercase]
    _ = (lowercase (trim s)).toList := by rw [hstart, hend]

end Whereto.Text
