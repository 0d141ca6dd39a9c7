import Mathlib.Tactic.SplitIfs
import Whereto.Json.Value
import Whereto.Proofs.Decimal.Plain

/-!
Written JSON holds no control characters: those in strings are escaped, and there are none between
strings. So the text of a value is one line.
-/

namespace Whereto.Json

/-- A text without control characters. -/
def Visible (cs : List Char) : Prop := ∀ c ∈ cs, ' '.toNat ≤ c.toNat

instance (cs : List Char) : Decidable (Visible cs) := List.decidableBAll _ cs

variable {cs ds : List Char} {c : Char}

lemma visible_append : Visible (cs ++ ds) ↔ Visible cs ∧ Visible ds := List.forall_mem_append

lemma visible_cons : Visible (c :: cs) ↔ ' '.toNat ≤ c.toNat ∧ Visible cs := List.forall_mem_cons

lemma visible_of_plain (h : ∀ c ∈ cs, Decimal.isPlain c = true) : Visible cs :=
  fun c hc => Nat.le_trans (by decide) (Decimal.bounds_of_isPlain (h c hc)).1

lemma visible_hexDigit {n : Nat} (h : n < 16) : ' '.toNat ≤ (hexDigit n).toNat := by
  have hall : ∀ n < 16, ' '.toNat ≤ (hexDigit n).toNat := by decide +kernel
  exact hall n h

/-- A control character is written by other characters. -/
lemma visible_escapeChar (c : Char) : Visible (escapeChar c) := by
  unfold escapeChar
  split_ifs with _ _ _ _ _ _ _ h
  · decide
  · decide
  · decide
  · decide
  · decide
  · decide
  · decide
  · have hhigh := visible_hexDigit (n := c.toNat / 16) (by omega)
    have hlow := visible_hexDigit (n := c.toNat % 16) (by omega)
    simp only [visible_cons]
    exact ⟨by decide, by decide, by decide, by decide, hhigh, hlow, nofun⟩
  · simp only [visible_cons]
    exact ⟨Nat.not_lt.mp h, nofun⟩

lemma visible_quote (s : String) : Visible (quote s) := by
  simp only [quote, List.cons_append, visible_cons, visible_append]
  refine ⟨by decide, fun c hc => ?_, by decide, nofun⟩
  obtain ⟨d, -, hd⟩ := List.mem_flatMap.mp hc
  exact visible_escapeChar d c hd

lemma visible_int (n : Int) : Visible (toString n).toList := by
  have hdigits (n : Nat) : Visible n.repr.toList := by
    rw [Nat.toList_repr]
    exact visible_of_plain (Decimal.plain_digitChars n).plain
  rw [Int.toString_eq_repr, Int.repr_eq_if]
  split
  · exact hdigits _
  · rw [String.toList_append, visible_append]
    exact ⟨by decide, hdigits _⟩

lemma visible_separator (first : Bool) : Visible (if first then [] else [',']) := by
  cases first <;> decide

mutual

theorem visible_chars : ∀ v : Value, Visible v.chars
  | .null => by
    rw [Value.chars]
    decide
  | .bool true => by
    rw [Value.chars]
    decide
  | .bool false => by
    rw [Value.chars]
    decide
  | .int n => by
    rw [Value.chars]
    exact visible_int n
  | .double x => by
    rw [Value.chars]
    split
    · exact visible_of_plain (Decimal.plain_render numberStyle x).plain
    · decide
  | .string s => by
    rw [Value.chars]
    exact visible_quote s
  | .array vs => by
    rw [Value.chars, visible_cons]
    exact ⟨by decide, visible_itemChars true vs⟩
  | .object ms => by
    rw [Value.chars, visible_cons]
    exact ⟨by decide, visible_memberChars true ms⟩

theorem visible_itemChars : ∀ (first : Bool) (vs : List Value), Visible (itemChars first vs)
  | _, [] => by
    rw [itemChars]
    decide
  | first, v :: vs => by
    rw [itemChars, visible_append, visible_append]
    exact ⟨⟨visible_separator first, visible_chars v⟩, visible_itemChars false vs⟩

theorem visible_memberChars :
    ∀ (first : Bool) (ms : List (String × Value)), Visible (memberChars first ms)
  | _, [] => by
    rw [memberChars]
    decide
  | first, (k, v) :: ms => by
    rw [memberChars, visible_append, visible_append, visible_append, visible_cons]
    exact ⟨⟨⟨visible_separator first, visible_quote k⟩, by decide, visible_chars v⟩,
      visible_memberChars false ms⟩

end

/-- **Written values** hold no control characters. -/
theorem visible_render (v : Value) : Visible v.render.toList := by
  rw [Value.render, String.toList_ofList]
  exact visible_chars v

end Whereto.Json
