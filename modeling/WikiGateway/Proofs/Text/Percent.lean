import Mathlib.Data.List.Basic
import WikiGateway.Proofs.Text.Utf8
import WikiGateway.Text.Percent

/-!
# Percent-encoding reads back

A byte is written as itself or as `%` and two digits (`encode_percentEncodeByte`), all of them ASCII, and either way it
is read back, whatever follows (`percentDecode_encode_percentEncodeByte_append`).

* `of_mem_encode_percentEncodeByte`: which bytes occur in what is written.
* `percentDecodeText_eq_self`: a text without percent signs stands for itself.
* `percentDecodeText_eq_empty_iff`: only an empty text stands for nothing.
-/

namespace WikiGateway.Text

/-! ## ASCII -/

/-- The byte of an ASCII character. -/
theorem utf8EncodeChar_of_ascii {c : Char} (h : c.toNat < 0x80) :
    String.utf8EncodeChar c = [UInt8.ofNat c.toNat] := by
  have hle : c.val.toNat ≤ 0x7F := Nat.le_of_lt_succ h
  simp only [String.utf8EncodeChar, if_pos hle]
  rfl

/-- The bytes of ASCII characters. -/
theorem encode_ofList_of_ascii {s : List Char} (h : ∀ c ∈ s, c.toNat < 0x80) :
    encode (String.ofList s) = s.map fun c => UInt8.ofNat c.toNat := by
  rw [encode_eq_flatMap, String.toList_ofList, List.map_eq_flatMap]
  exact List.flatMap_congr fun c hc => utf8EncodeChar_of_ascii (h c hc)

/-- Characters written one group after the other are encoded so. -/
theorem encode_ofList_flatMap {α : Type} (f : α → List Char) (xs : List α) :
    encode (String.ofList (xs.flatMap f)) = xs.flatMap fun x => encode (String.ofList (f x)) := by
  simp only [encode_eq_flatMap, String.toList_ofList, List.flatMap_assoc]

/-! ## Digits -/

/-- The byte of the upper-case digit for a value below sixteen. -/
def hexByte (n : Nat) : UInt8 := UInt8.ofNat (hexDigitUpper n).toNat

theorem hexDigitUpper_ascii : ∀ n < 16, (hexDigitUpper n).toNat < 0x80 := by decide

theorem byteHexValue?_hexByte : ∀ n < 16, byteHexValue? (hexByte n) = some n := by decide

theorem isAlphanumericByte_hexByte : ∀ n < 16, isAlphanumericByte (hexByte n) = true := by decide

theorem isAlphanumericByte_lt {b : UInt8} (h : isAlphanumericByte b = true) : b < 0x80 := by
  simp only [isAlphanumericByte, Bool.or_eq_true, Bool.and_eq_true, decide_eq_true_eq, UInt8.le_iff_toNat_le] at h
  rw [UInt8.lt_iff_toNat_lt]
  simp at h ⊢
  omega

/-! ## One byte -/

section
variable {plain : UInt8 → Bool} (hplain : ∀ b, plain b = true → b < 0x80)

include hplain in
/-- What is written for a byte. -/
theorem encode_percentEncodeByte (b : UInt8) : encode (String.ofList (percentEncodeByte plain b)) =
    if plain b then [b] else [0x25, hexByte (b.toNat / 16), hexByte (b.toNat % 16)] := by
  have hlt := b.toNat_lt
  unfold percentEncodeByte
  split
  next h =>
    have hb : b.toNat < 0x80 := UInt8.lt_iff_toNat_lt.mp (hplain b h)
    have hchar : (Char.ofNat b.toNat).toNat = b.toNat := by
      rw [Char.ofNat, dif_pos (.inl (Nat.lt_trans hb (by decide)))]
      rfl
    rw [encode_ofList_of_ascii (by simpa [hchar] using hb), List.map_singleton, hchar, UInt8.ofNat_toNat]
  next h =>
    have hhigh := hexDigitUpper_ascii (b.toNat / 16) (by omega)
    have hlow := hexDigitUpper_ascii (b.toNat % 16) (by omega)
    rw [encode_ofList_of_ascii (by simp [percentByte, hhigh, hlow])]
    rfl

include hplain in
/-- Only plain bytes, letters, digits and percent signs are written. -/
theorem of_mem_encode_percentEncodeByte {b x : UInt8} (h : x ∈ encode (String.ofList (percentEncodeByte plain b))) :
    plain x = true ∨ isAlphanumericByte x = true ∨ x = 0x25 := by
  have hlt := b.toNat_lt
  rw [encode_percentEncodeByte hplain] at h
  split at h
  next hb =>
    obtain rfl := List.mem_singleton.mp h
    exact .inl hb
  next hb =>
    simp only [List.mem_cons, List.not_mem_nil, or_false] at h
    rcases h with rfl | rfl | rfl
    · exact .inr (.inr rfl)
    · exact .inr (.inl (isAlphanumericByte_hexByte _ (by omega)))
    · exact .inr (.inl (isAlphanumericByte_hexByte _ (by omega)))

theorem percentDecode_percent {high low : Nat} (hhigh : high < 16) (hlow : low < 16) (rest : List UInt8) :
    percentDecode (0x25 :: hexByte high :: hexByte low :: rest) =
      UInt8.ofNat (high * 16 + low) :: percentDecode rest := by
  have hread : percentReader.read 0x25 (hexByte high :: hexByte low :: rest) =
      (UInt8.ofNat (high * 16 + low), rest) := by
    simp [percentReader, readPercent, byteHexValue?_hexByte _ hhigh, byteHexValue?_hexByte _ hlow]
  rw [percentDecode, percentReader.readAll_cons, hread]
  rfl

include hplain in
/-- A byte is read back from what is written for it. -/
theorem percentDecode_encode_percentEncodeByte_append (hpercent : plain 0x25 = false) (b : UInt8) (rest : List UInt8) :
    percentDecode (encode (String.ofList (percentEncodeByte plain b)) ++ rest) = b :: percentDecode rest := by
  have hlt := b.toNat_lt
  rw [encode_percentEncodeByte hplain]
  split
  next hb =>
    have hne : b ≠ 0x25 := by
      rintro rfl
      rw [hpercent] at hb
      cases hb
    rw [List.singleton_append, percentDecode_cons_other hne]
  next hb =>
    have hb : b.toNat / 16 * 16 + b.toNat % 16 = b.toNat := by omega
    simp only [List.cons_append, List.nil_append]
    rw [percentDecode_percent (by omega) (by omega), hb, UInt8.ofNat_toNat]

end

/-! ## Texts -/

theorem percentDecode_eq_self : ∀ {bytes : List UInt8}, 0x25 ∉ bytes → percentDecode bytes = bytes
  | [], _ => percentDecode_nil
  | b :: bytes, h => by
    obtain ⟨hb, hbytes⟩ := not_or.mp (mt List.mem_cons.mpr h)
    rw [percentDecode_cons_other (Ne.symm hb), percentDecode_eq_self hbytes]

/-- A text without percent signs stands for itself. -/
theorem percentDecodeText_eq_self {s : String} (h : '%' ∉ s.toList) : percentDecodeText s = s := by
  have hbytes : 0x25 ∉ encode s := by
    intro hmem
    obtain ⟨c, hc, hbyte⟩ := exists_char_of_mem_encode hmem (by decide)
    have hpercent : c = '%' := Char.toNat_inj.mp hbyte
    exact h (hpercent ▸ hc)
  rw [percentDecodeText, percentDecode_eq_self hbytes, decodeLossy_encode]

/-- Only an empty text stands for nothing. -/
theorem percentDecodeText_eq_empty_iff {s : String} : percentDecodeText s = "" ↔ s = "" := by
  rw [percentDecodeText, decodeLossy_eq_empty_iff, percentDecode, ItemReader.readAll_eq_nil_iff,
    ← decodeLossy_eq_empty_iff, decodeLossy_encode]

end WikiGateway.Text
