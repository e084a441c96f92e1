import AccessBaseline.Url.Percent
import Mathlib.Tactic.IntervalCases

/-! Percent-encoding loses nothing as long as the percent sign itself is encoded, and what it leaves
unencoded is outside of the set. -/
namespace AccessBaseline.Url
variable {set : Char → Bool}

theorem hexDigitValue?_upperHexDigit {n : Nat} (h : n < 16) : hexDigitValue? (upperHexDigit n) = some n := by
  interval_cases n <;> rfl

theorem percentDecode_escapeByte (b : UInt8) (rest : List Char) :
    percentDecode (escapeByte b ++ rest) = b :: percentDecode rest := by
  have hb : b.toNat < 256 := b.toNat_lt
  have hhigh : b.toNat / 16 < 16 := by omega
  have hlow : b.toNat % 16 < 16 := by omega
  have hsum : 16 * (b.toNat / 16) + b.toNat % 16 = b.toNat := by omega
  simp only [escapeByte, List.cons_append, List.nil_append, percentDecode,
    hexDigitValue?_upperHexDigit hhigh, hexDigitValue?_upperHexDigit hlow, hsum, UInt8.ofNat_toNat]

theorem percentDecode_escapeBytes (bytes : List UInt8) (rest : List Char) :
    percentDecode (bytes.flatMap escapeByte ++ rest) = bytes ++ percentDecode rest := by
  induction bytes with
  | nil => rfl
  | cons b bytes ih =>
    rw [List.flatMap_cons, List.append_assoc, percentDecode_escapeByte, ih, List.cons_append]

theorem percentDecode_cons {c : Char} (h : c ≠ '%') (rest : List Char) :
    percentDecode (c :: rest) = String.utf8EncodeChar c ++ percentDecode rest := by
  rw [percentDecode]
  intro a b rest' hc
  exact absurd hc h

theorem percentDecode_encodeChar (hset : set '%' = true) (c : Char) (rest : List Char) :
    percentDecode (encodeChar set c ++ rest) = String.utf8EncodeChar c ++ percentDecode rest := by
  unfold encodeChar
  split
  · next hplain =>
    have hc : c ≠ '%' := by
      rintro rfl
      rw [hset] at hplain
      simp at hplain
    exact percentDecode_cons hc rest
  · exact percentDecode_escapeBytes _ rest

theorem percentDecode_percentEncode (hset : set '%' = true) (cs : List Char) :
    percentDecode (percentEncode set cs) = cs.flatMap String.utf8EncodeChar := by
  induction cs with
  | nil => rfl
  | cons c cs ih =>
    rw [percentEncode, List.flatMap_cons, percentDecode_encodeChar hset, List.flatMap_cons]
    exact congrArg _ ih

theorem ofUtf8?_encode (cs : List Char) :
    ofUtf8? (cs.flatMap String.utf8EncodeChar) = some (String.ofList cs) := by
  have hbytes : ByteArray.mk (cs.flatMap String.utf8EncodeChar).toArray = (String.ofList cs).toByteArray := by
    rw [String.toByteArray_ofList]
    exact ByteArray.ext List.data_toByteArray.symm
  rw [ofUtf8?, hbytes, String.fromUTF8?, dif_pos (String.ofList cs).isValidUTF8]
  rfl

theorem ofUtf8?_percentEncode (hset : set '%' = true) (cs : List Char) :
    ofUtf8? (percentDecode (percentEncode set cs)) = some (String.ofList cs) := by
  rw [percentDecode_percentEncode hset, ofUtf8?_encode]

theorem upperHexDigit_isAlphanum {n : Nat} (h : n < 16) : (upperHexDigit n).isAlphanum = true := by
  interval_cases n <;> rfl

theorem of_mem_percentEncode {cs : List Char} {c : Char} (h : c ∈ percentEncode set cs) :
    (c ∈ cs ∧ set c = false) ∨ c = '%' ∨ c.isAlphanum = true := by
  obtain ⟨d, hmem, hd⟩ := List.mem_flatMap.1 h
  unfold encodeChar at hd
  split at hd
  · next hplain =>
    rw [List.mem_singleton.1 hd]
    simp only [Bool.and_eq_true, Bool.not_eq_true'] at hplain
    exact .inl ⟨hmem, hplain.2⟩
  · obtain ⟨b, -, hb⟩ := List.mem_flatMap.1 hd
    have hbound : b.toNat < 256 := b.toNat_lt
    simp only [escapeByte, List.mem_cons, List.not_mem_nil, or_false] at hb
    rcases hb with rfl | rfl | rfl
    · exact .inr (.inl rfl)
    · exact .inr (.inr (upperHexDigit_isAlphanum (by omega)))
    · exact .inr (.inr (upperHexDigit_isAlphanum (by omega)))

theorem length_le_percentEncode (set : Char → Bool) (cs : List Char) :
    cs.length ≤ (percentEncode set cs).length := by
  induction cs with
  | nil => exact Nat.zero_le _
  | cons c cs ih =>
    have hsome : 0 < (encodeChar set c).length := by
      unfold encodeChar
      split
      · exact Nat.one_pos
      · have hpos : 0 < (String.utf8EncodeChar c).length := by
          rw [String.length_utf8EncodeChar]
          exact c.utf8Size_pos
        obtain ⟨b, bytes, hbytes⟩ := List.exists_cons_of_length_pos hpos
        rw [hbytes, List.flatMap_cons]
        exact Nat.succ_pos _
    rw [percentEncode, List.flatMap_cons, List.length_append, List.length_cons]
    change _ ≤ _ + (percentEncode set cs).length
    omega

end AccessBaseline.Url
