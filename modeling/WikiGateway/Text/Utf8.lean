import WikiGateway.Text.ItemReader

/-!
# UTF-8

Bytes are read one scalar at a time. A part that is no scalar is one *maximal invalid part*: the longest start of some
scalar's encoding that stands there, or a single byte when not even one byte starts a scalar.

* `encode`: the bytes of a text.
* `decode?`: the text of valid bytes, and nothing for others.
* `decodeLossy`: the text with U+FFFD for each maximal invalid part.
* `decodeLossy_of_decode?`: on valid bytes the two readings agree.
-/

namespace WikiGateway.Text

/-- The sign that stands for what cannot be read. -/
def replacement : Char := '\uFFFD'

namespace Utf8

/-! ## One scalar -/

/-- The least and greatest second byte after a lead byte, and how many bytes follow the lead. -/
def following? (lead : UInt8) : Option (UInt8 × UInt8 × Nat) :=
  if 0xC2 ≤ lead ∧ lead ≤ 0xDF then some (0x80, 0xBF, 1)
  else if lead = 0xE0 then some (0xA0, 0xBF, 2)
  else if lead = 0xED then some (0x80, 0x9F, 2)
  else if 0xE1 ≤ lead ∧ lead ≤ 0xEF then some (0x80, 0xBF, 2)
  else if lead = 0xF0 then some (0x90, 0xBF, 3)
  else if lead = 0xF4 then some (0x80, 0x8F, 3)
  else if 0xF1 ≤ lead ∧ lead ≤ 0xF3 then some (0x80, 0xBF, 3)
  else none

/-- Reads up to `count` following bytes, the first between `lo` and `hi`, into the value `n`. -/
def readFollowing (lo hi : UInt8) : Nat → Nat → List UInt8 → Option Nat × List UInt8
  | 0, n, rest => (some n, rest)
  | _ + 1, _, [] => (none, [])
  | count + 1, n, b :: rest =>
    if lo ≤ b ∧ b ≤ hi then readFollowing 0x80 0xBF count (n * 64 + (b.toNat - 0x80)) rest
    else (none, b :: rest)

/-- Reads the scalar that starts with `lead`, or one maximal invalid part, and gives what is left. -/
def readScalar (lead : UInt8) (rest : List UInt8) : Option Char × List UInt8 :=
  if lead < 0x80 then (some (Char.ofNat lead.toNat), rest)
  else match following? lead with
    | none => (none, rest)
    | some (lo, hi, count) =>
      let (value, rest) := readFollowing lo hi count (lead.toNat % (64 >>> count)) rest
      (value.map Char.ofNat, rest)

/-- Reading the bytes that follow never makes the rest longer. -/
theorem length_readFollowing (count : Nat) : ∀ (lo hi : UInt8) (n : Nat) (rest : List UInt8),
    (readFollowing lo hi count n rest).2.length ≤ rest.length := by
  induction count with
  | zero => intro lo hi n rest; simp [readFollowing]
  | succ count ih =>
    intro lo hi n rest
    cases rest with
    | nil => simp [readFollowing]
    | cons b rest =>
      rw [readFollowing]
      split
      · exact Nat.le_succ_of_le (ih _ _ _ _)
      · simp

/-- Reading a scalar never makes the rest longer. -/
theorem length_readScalar (lead : UInt8) (rest : List UInt8) :
    (readScalar lead rest).2.length ≤ rest.length := by
  unfold readScalar
  split
  · simp
  · split
    · simp
    · exact length_readFollowing ..

/-! ## All scalars -/

/-- Reads scalars one after the other. -/
def scalarReader : ItemReader UInt8 (Option Char) := ⟨readScalar, length_readScalar⟩

/-- The scalars of a byte list in order, with `none` for each maximal invalid part. -/
def scalars (bytes : List UInt8) : List (Option Char) := scalarReader.readAll bytes

end Utf8

/-! ## Texts and bytes -/

/-- The bytes of a text. -/
def encode (s : String) : List UInt8 := s.toUTF8.data.toList

/-- The text with U+FFFD for each maximal invalid part. -/
def decodeLossy (bytes : List UInt8) : String :=
  String.ofList ((Utf8.scalars bytes).map fun c => c.getD replacement)

/-- The text of valid bytes. -/
def decode? (bytes : List UInt8) : Option String :=
  let scalars := Utf8.scalars bytes
  if scalars.all Option.isSome then some (String.ofList (scalars.map fun c => c.getD replacement)) else none

/-- On valid bytes the two readings agree. -/
theorem decodeLossy_of_decode? {bytes : List UInt8} {s : String} (h : decode? bytes = some s) :
    decodeLossy bytes = s := by
  simp only [decode?] at h
  split at h
  · simpa [decodeLossy] using h
  · simp at h

end WikiGateway.Text
