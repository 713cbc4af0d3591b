import WikiGateway.Text.Chars
import WikiGateway.Text.Utf8

/-!
# Percent-encoding

A byte is written as `%` and two digits in base sixteen. When reading, a `%` without two such digits stays as it is.

* `percentDecode`: the bytes that an encoded text stands for.
* `percentEncode`: the text with every byte outside a chosen set written out.
* `percentDecode_cons_other`: a byte other than `%` stands for itself.
-/

namespace WikiGateway.Text

/-- The value of the digit that a byte spells in base sixteen. -/
def byteHexValue? (b : UInt8) : Option Nat := hexValue? (Char.ofNat b.toNat)

/-- Reads one byte of a decoded text. -/
def readPercent (b : UInt8) (rest : List UInt8) : UInt8 × List UInt8 :=
  if b = 0x25 then
    match rest with
    | high :: low :: after =>
      match byteHexValue? high, byteHexValue? low with
      | some h, some l => (UInt8.ofNat (h * 16 + l), after)
      | _, _ => (b, rest)
    | _ => (b, rest)
  else (b, rest)

/-- Decoding a byte never makes the rest longer. -/
theorem length_readPercent (b : UInt8) (rest : List UInt8) : (readPercent b rest).2.length ≤ rest.length := by
  unfold readPercent
  split
  · split
    · split <;> grind
    · simp
  · simp

/-- Reads the bytes of an encoded text one after the other. -/
def percentReader : ItemReader UInt8 UInt8 := ⟨readPercent, length_readPercent⟩

/-- The bytes that an encoded text stands for. -/
def percentDecode (bytes : List UInt8) : List UInt8 := percentReader.readAll bytes

/-- The text that an encoded text stands for. -/
def percentDecodeText (s : String) : String := decodeLossy (percentDecode (encode s))

/-- The two digits of a byte, after a percent sign. -/
def percentByte (b : UInt8) : List Char :=
  ['%', hexDigitUpper (b.toNat / 16), hexDigitUpper (b.toNat % 16)]

/-- A byte as itself if it is in the set `plain`, and written out otherwise. -/
def percentEncodeByte (plain : UInt8 → Bool) (b : UInt8) : List Char :=
  if plain b then [Char.ofNat b.toNat] else percentByte b

/-- The text with every byte outside the set `plain` written out. -/
def percentEncode (plain : UInt8 → Bool) (s : String) : String :=
  String.ofList ((encode s).flatMap (percentEncodeByte plain))

/-- An ASCII letter or digit. -/
def isAlphanumericByte (b : UInt8) : Bool :=
  (0x30 ≤ b && b ≤ 0x39) || (0x41 ≤ b && b ≤ 0x5A) || (0x61 ≤ b && b ≤ 0x7A)

@[simp] theorem percentDecode_nil : percentDecode [] = [] := by simp [percentDecode]

/-- A byte other than `%` stands for itself. -/
theorem percentDecode_cons_other {b : UInt8} (h : b ≠ 0x25) (rest : List UInt8) :
    percentDecode (b :: rest) = b :: percentDecode rest := by
  have hread : percentReader.read b rest = (b, rest) := by simp [percentReader, readPercent, h]
  rw [percentDecode, percentReader.readAll_cons, hread]
  rfl

end WikiGateway.Text
