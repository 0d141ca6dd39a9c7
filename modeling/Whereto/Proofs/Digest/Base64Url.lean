import Mathlib.Data.List.Nodup
import Whereto.Digest.Base64Url

/-!
Base 64 loses nothing: no two lists of bytes are encoded alike.
-/

namespace Whereto.Digest.Base64Url

variable {n m shift : ℕ} {as bs : List UInt8}

lemma alphabet_nodup : alphabet.toList.Nodup := by decide +kernel

lemma size_alphabet : alphabet.size = 64 := by decide +kernel

/-- Equal digits stand for equal bits. -/
lemma sextet_inj (h : sextet n shift = sextet m shift) :
    (n >>> shift) % 64 = (m >>> shift) % 64 := by
  have inside (k : ℕ) : (k >>> shift) % 64 < alphabet.size :=
    size_alphabet ▸ Nat.mod_lt _ (Nat.succ_pos 63)
  have digit (k : ℕ) : sextet k shift =
      alphabet.toList.get ⟨(k >>> shift) % 64, Array.length_toList ▸ inside k⟩ := by
    rw [sextet, Array.getD, dif_pos (inside k)]
    rfl
  rw [digit, digit] at h
  exact congrArg Fin.val (List.nodup_iff_injective_get.mp alphabet_nodup h)

/-- **Bytes are told by their base 64.** Four digits tell three bytes; three and two digits, which
stand only at the end, tell two and one. -/
theorem encode_injective : Function.Injective encode := by
  intro as bs h
  induction as using encode.induct generalizing bs with
  | case1 a b c rest ih =>
    rcases bs with _ | ⟨a', _ | ⟨b', _ | ⟨c', rest'⟩⟩⟩
    · simp [encode] at h
    · simp [encode] at h
    · simp [encode] at h
    · simp only [encode, List.cons.injEq] at h
      obtain ⟨h₁, h₂, h₃, h₄, hrest⟩ := h
      have hbytes : a.toNat = a'.toNat ∧ b.toNat = b'.toNat ∧ c.toNat = c'.toNat := by
        have := a.toNat_lt
        have := b.toNat_lt
        have := c.toNat_lt
        have := a'.toNat_lt
        have := b'.toNat_lt
        have := c'.toNat_lt
        have := sextet_inj h₁
        have := sextet_inj h₂
        have := sextet_inj h₃
        have := sextet_inj h₄
        omega
      rw [UInt8.toNat_inj.mp hbytes.1, UInt8.toNat_inj.mp hbytes.2.1,
        UInt8.toNat_inj.mp hbytes.2.2, ih hrest]
  | case2 a b =>
    rcases bs with _ | ⟨a', _ | ⟨b', _ | ⟨c', rest'⟩⟩⟩
    · simp [encode] at h
    · simp [encode] at h
    · simp only [encode, List.cons.injEq, and_true] at h
      obtain ⟨h₁, h₂, h₃⟩ := h
      have hbytes : a.toNat = a'.toNat ∧ b.toNat = b'.toNat := by
        have := a.toNat_lt
        have := b.toNat_lt
        have := a'.toNat_lt
        have := b'.toNat_lt
        have := sextet_inj h₁
        have := sextet_inj h₂
        have := sextet_inj h₃
        omega
      rw [UInt8.toNat_inj.mp hbytes.1, UInt8.toNat_inj.mp hbytes.2]
    · simp [encode] at h
  | case3 a =>
    rcases bs with _ | ⟨a', _ | ⟨b', _ | ⟨c', rest'⟩⟩⟩
    · simp [encode] at h
    · simp only [encode, List.cons.injEq, and_true] at h
      have hbyte : a.toNat = a'.toNat := by
        have := a.toNat_lt
        have := a'.toNat_lt
        have := sextet_inj h.1
        have := sextet_inj h.2
        omega
      rw [UInt8.toNat_inj.mp hbyte]
    · simp [encode] at h
    · simp [encode] at h
  | case4 =>
    rcases bs with _ | ⟨a', _ | ⟨b', _ | ⟨c', rest'⟩⟩⟩
    · rfl
    · simp [encode] at h
    · simp [encode] at h
    · simp [encode] at h

end Whereto.Digest.Base64Url
