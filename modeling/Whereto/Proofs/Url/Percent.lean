import Mathlib.Data.List.Basic
import Whereto.Url.Percent

/-!
What percent encoding keeps. If the percent sign is itself encoded, an encoded text is decoded to
the text it was made from, so that two texts are never encoded alike; and what stands in an encoded
text is a percent sign, a hexadecimal digit or a character that need not be encoded.
-/

namespace Whereto.Url

lemma hexValue?_hexChar : ∀ n < 16, hexValue? (hexChar n) = some n := by decide

/-- The digits in which bytes are written. -/
def hexDigits : List Char := (List.range 16).map hexChar

namespace Percent

variable {set : Char → Bool} {c : Char} {cs : List Char}

lemma decode_encodeByte (b : UInt8) (cs : List Char) :
    decode (encodeByte b ++ cs) = b :: decode cs := by
  have hb : b.toNat < 256 := b.toNat_lt
  have hvalue : (b.toNat / 16 * 16 + b.toNat % 16).toUInt8 = b := by
    rw [Nat.div_add_mod']
    simp
  simp only [encodeByte, List.cons_append, List.nil_append, decode,
    hexValue?_hexChar (b.toNat / 16) (by omega), hexValue?_hexChar (b.toNat % 16) (by omega),
    hvalue]

lemma decode_encodeBytes (bs : List UInt8) (cs : List Char) :
    decode (bs.flatMap encodeByte ++ cs) = bs ++ decode cs := by
  induction bs with
  | nil => rfl
  | cons b bs ih => rw [List.flatMap_cons, List.append_assoc, decode_encodeByte, ih,
      List.cons_append]

lemma decode_cons (h : c ≠ '%') : decode (c :: cs) = String.utf8EncodeChar c ++ decode cs := by
  rw [decode]
  simp [h]

/-- Where the percent sign is encoded, what stands for itself is no percent sign. -/
lemma decode_encodeChar (hset : set '%' = true) (c : Char) (cs : List Char) :
    decode (encodeChar set c ++ cs) = String.utf8EncodeChar c ++ decode cs := by
  unfold encodeChar
  split
  · exact decode_encodeBytes _ cs
  · next hc => exact decode_cons fun h => hc (h ▸ hset)

lemma decode_encode (hset : set '%' = true) (cs : List Char) :
    decode (encode set cs) = cs.flatMap String.utf8EncodeChar := by
  induction cs with
  | nil => rfl
  | cons c cs ih =>
    rw [encode, List.flatMap_cons, decode_encodeChar hset, List.flatMap_cons]
    exact congrArg _ ih

/-- What was encoded is decoded. -/
lemma decodeText?_encode (hset : set '%' = true) (cs : List Char) :
    decodeText? (encode set cs) = some (String.ofList cs) := by
  have hbytes : (⟨(decode (encode set cs)).toArray⟩ : ByteArray) =
      (String.ofList cs).toByteArray := by
    rw [decode_encode hset, String.toByteArray_ofList]
    exact ByteArray.ext List.data_toByteArray.symm
  rw [decodeText?, hbytes, String.fromUTF8?, dif_pos (String.ofList cs).isValidUTF8]
  rfl

lemma encode_injective (hset : set '%' = true) : Function.Injective (encode set) := by
  intro cs ds h
  have hdecoded := congrArg decodeText? h
  rw [decodeText?_encode hset, decodeText?_encode hset] at hdecoded
  exact String.ofList_inj.mp (Option.some.inj hdecoded)

lemma mem_encodeByte {b : UInt8} (h : c ∈ encodeByte b) : c = '%' ∨ c ∈ hexDigits := by
  have hb : b.toNat < 256 := b.toNat_lt
  simp only [encodeByte, List.mem_cons, List.not_mem_nil, or_false] at h
  rcases h with rfl | rfl | rfl
  · exact .inl rfl
  · exact .inr (List.mem_map_of_mem (List.mem_range.mpr (by omega)))
  · exact .inr (List.mem_map_of_mem (List.mem_range.mpr (by omega)))

/-- What may stand in an encoded text. -/
lemma mem_encode (h : c ∈ encode set cs) : c = '%' ∨ c ∈ hexDigits ∨ set c = false := by
  obtain ⟨d, -, hc⟩ := List.mem_flatMap.mp h
  unfold encodeChar at hc
  split at hc
  · obtain ⟨b, -, hb⟩ := List.mem_flatMap.mp hc
    exact (mem_encodeByte hb).imp_right .inl
  · next hd =>
    obtain rfl := List.mem_singleton.mp hc
    exact .inr (.inr (by simpa using hd))

end Percent

end Whereto.Url
