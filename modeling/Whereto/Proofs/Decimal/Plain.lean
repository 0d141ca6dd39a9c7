import Mathlib.Tactic.Lemma
import Whereto.Decimal.Style

/-!
The characters in which doubles are written: letters and digits, points and minus signs, whatever
the style. So a written double holds no white space and needs no quotes.
-/

namespace Whereto.Decimal

/-- The characters of numbers, and of the words for those that are not finite. -/
def isPlain (c : Char) : Bool := c.isAlphanum || c = '.' || c = '-'

lemma bounds_of_isPlain {c : Char} (h : isPlain c = true) :
    '-'.toNat ≤ c.toNat ∧ c.toNat ≤ 'z'.toNat := by
  have hranges : ((('A'.val ≤ c.val ∧ c.val ≤ 'Z'.val) ∨ ('a'.val ≤ c.val ∧ c.val ≤ 'z'.val)) ∨
      ('0'.val ≤ c.val ∧ c.val ≤ '9'.val)) ∨ c = '.' ∨ c = '-' := by
    change (((decide (_ ∧ _) || (decide _ && decide _)) || (decide _ && decide _)) ||
      decide _ || decide _) = true at h
    simpa only [Bool.or_eq_true, Bool.and_eq_true, decide_eq_true_eq, or_assoc] using h
  simp only [UInt32.le_iff_toNat_le] at hranges
  rcases hranges with ((h | h) | h) | rfl | rfl
  · exact ⟨Nat.le_trans (by decide) h.1, Nat.le_trans h.2 (by decide)⟩
  · exact ⟨Nat.le_trans (by decide) h.1, h.2⟩
  · exact ⟨Nat.le_trans (by decide) h.1, Nat.le_trans h.2 (by decide)⟩
  · decide
  · decide

/-- A text that is not empty, all in plain characters. -/
structure Plain (cs : List Char) : Prop where
  ne_nil : cs ≠ []
  plain : ∀ c ∈ cs, isPlain c = true

lemma plain_digitChars (n : Nat) : Plain (digitChars n) where
  ne_nil := Nat.toDigits_ne_nil
  plain c hc := by
    have hdigit : c.isDigit = true := Nat.isDigit_of_mem_toDigits (by decide) (by decide) hc
    simp [isPlain, Char.isAlphanum, hdigit]

lemma plain_zeros (n : Nat) : ∀ c ∈ zeros n, isPlain c = true :=
  fun _ hc => List.eq_of_mem_replicate hc ▸ rfl

lemma plain_positionalText (keepPoint : Bool) (d : Digits) :
    Plain (positionalText keepPoint d) := by
  have hdigits := plain_digitChars d.digits
  have hpoint : ∀ c ∈ (if keepPoint then ['.', '0'] else []), isPlain c = true := by
    cases keepPoint <;> exact List.all_eq_true.mp rfl
  unfold positionalText
  dsimp only
  split
  · exact ⟨by simp [hdigits.ne_nil], by
      simp only [List.forall_mem_append]
      exact ⟨⟨hdigits.plain, plain_zeros _⟩, hpoint⟩⟩
  · split
    · refine ⟨by simp, ?_⟩
      simp only [List.forall_mem_append, List.forall_mem_cons]
      exact ⟨fun c hc => hdigits.plain c (List.mem_of_mem_take hc), rfl,
        fun c hc => hdigits.plain c (List.mem_of_mem_drop hc)⟩
    · refine ⟨by simp, ?_⟩
      simp only [List.forall_mem_append, List.forall_mem_cons]
      exact ⟨⟨rfl, rfl, plain_zeros _⟩, hdigits.plain⟩

lemma plain_exponentText (d : Digits) : Plain (exponentText d) := by
  have hdigits := (plain_digitChars d.digits).plain
  have hsign (negative : Prop) [Decidable negative] :
      ∀ c ∈ (if negative then ['-'] else []), isPlain c = true := by
    split <;> exact List.all_eq_true.mp rfl
  unfold exponentText
  dsimp only
  refine ⟨by simp, ?_⟩
  simp only [List.forall_mem_append, List.forall_mem_cons]
  refine ⟨⟨?_, rfl, hsign _⟩, (plain_digitChars _).plain⟩
  -- the leading digit, and the other digits after the point
  generalize digitChars d.digits = ds at hdigits
  split
  · exact hdigits
  · simp only [List.forall_mem_cons] at hdigits ⊢
    exact ⟨hdigits.1, rfl, hdigits.2⟩
  · exact List.forall_mem_nil _

lemma plain_lay (s : Style) (d : Digits) : Plain (s.lay d) := by
  unfold Style.lay
  dsimp only
  split
  · exact plain_positionalText _ d
  · split
    · exact plain_positionalText _ d
    · exact plain_exponentText d

/-- **Written doubles** are plain. -/
theorem plain_render (s : Style) (x : Float) : Plain (s.render x).toList := by
  have signed {sign rest : String} (hsign : ∀ c ∈ sign.toList, isPlain c = true)
      (hrest : Plain rest.toList) : Plain (sign ++ rest).toList := by
    rw [String.toList_append]
    exact ⟨by simp [hrest.ne_nil], List.forall_mem_append.mpr ⟨hsign, hrest.plain⟩⟩
  have hsign : ∀ c ∈ (if isNegative x then "-" else "").toList, isPlain c = true := by
    split <;> exact List.all_eq_true.mp rfl
  unfold Style.render
  split
  · exact ⟨by decide, List.all_eq_true.mp rfl⟩
  · dsimp only
    split
    · exact signed hsign ⟨by decide, List.all_eq_true.mp rfl⟩
    · split
      · refine signed hsign ?_
        split <;> exact ⟨by decide, List.all_eq_true.mp rfl⟩
      · exact signed hsign (by simpa using plain_lay s _)

end Whereto.Decimal
