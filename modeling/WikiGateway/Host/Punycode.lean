/-!
# Punycode

The encoding of text beyond ASCII in the letters, digits and hyphens of a host name. The ASCII characters of a text
come first, then a hyphen if there are any, then the other characters as differences of position and code point, which
are written as numbers of variable length.

* `encode`: the punycode of a text.
* `decode?`: the text of a punycode, if it has one.
-/

namespace WikiGateway.Host.Punycode

/-! ## Numbers of variable length -/

/-- The value of a digit in base 36, where the letters come first. -/
def digitValue? (c : Char) : Option Nat :=
  if 'a' ≤ c ∧ c ≤ 'z' then some (c.toNat - 'a'.toNat)
  else if 'A' ≤ c ∧ c ≤ 'Z' then some (c.toNat - 'A'.toNat)
  else if c.isDigit then some (c.toNat - '0'.toNat + 26)
  else none

/-- The digit of a value below 36. -/
def digit (n : Nat) : Char := Char.ofNat (if n < 26 then 'a'.toNat + n else '0'.toNat + (n - 26))

/-- The threshold below which a digit ends a number, at the position `k` of its digits. -/
def threshold (k bias : Nat) : Nat := max 1 (min 26 (k - bias))

/-- Divides a difference until it is small, counting the steps. -/
def adaptLoop (delta k : Nat) : Nat :=
  if 455 < delta then adaptLoop (delta / 35) (k + 36) else k + 36 * delta / (delta + 38)
termination_by delta

/-- The bias after a difference, for a text of `count` characters so far. -/
def adapt (delta count : Nat) (isFirst : Bool) : Nat :=
  let delta := if isFirst then delta / 700 else delta / 2
  adaptLoop (delta + delta / count) 0

/-- The digits of a number from the position `k` on. -/
def encodeNumber (q k bias : Nat) : List Char :=
  let t := threshold k bias
  if q < t then [digit q]
  else digit (t + (q - t) % (36 - t)) :: encodeNumber ((q - t) / (36 - t)) (k + 36) bias
termination_by q
decreasing_by
  have ht : 1 ≤ t := Nat.le_max_left ..
  exact Nat.lt_of_le_of_lt (Nat.div_le_self ..) (by omega)

/-- Reads a number from the position `k` on: `value` is what was read, `weight` what the next digit counts. -/
def decodeNumber? (value weight k bias : Nat) : List Char → Option (Nat × List Char)
  | [] => none
  | c :: rest =>
    match digitValue? c with
    | none => none
    | some d =>
      let t := threshold k bias
      if d < t then some (value + d * weight, rest)
      else decodeNumber? (value + d * weight) (weight * (36 - t)) (k + 36) bias rest

/-- Reading a number takes at least one digit. -/
theorem length_decodeNumber? {bias n : Nat} : ∀ {cs rest : List Char} {value weight k : Nat},
    decodeNumber? value weight k bias cs = some (n, rest) → rest.length < cs.length
  | [], _, _, _, _, h => by simp [decodeNumber?] at h
  | c :: cs, rest, value, weight, k, h => by
    rw [decodeNumber?] at h
    split at h
    · simp at h
    · dsimp only at h
      split at h
      · simp only [Option.some.injEq, Prod.mk.injEq] at h
        simp [h.2]
      · exact Nat.lt_succ_of_lt (length_decodeNumber? h)

/-! ## Decoding -/

/-- The last hyphen separates the ASCII characters from the numbers, unless it stands in front of everything. -/
def splitBasic (cs : List Char) : List Char × List Char :=
  let numbers := (cs.reverse.takeWhile (· != '-')).reverse
  let basic := cs.take (cs.length - numbers.length - 1)
  if basic.isEmpty then ([], cs) else (basic, numbers)

/-- Puts characters into `text` as the numbers say: `n` is the last code point and `i` the position after it. -/
def insertAll? (text : List Char) (n i bias : Nat) (cs : List Char) : Option (List Char) :=
  if cs.isEmpty then some text
  else match h : decodeNumber? i 1 36 bias cs with
    | none => none
    | some (j, rest) =>
      have := length_decodeNumber? h
      let count := text.length + 1
      let n := n + j / count
      if n < 0x110000 ∧ ¬(0xD800 ≤ n ∧ n < 0xE000) then
        let place := j % count
        insertAll? (text.take place ++ Char.ofNat n :: text.drop place) n (place + 1)
          (adapt (j - i) count (i == 0)) rest
      else none
termination_by cs.length

/-- The text of a punycode. -/
def decode? (cs : List Char) : Option (List Char) :=
  let (basic, numbers) := splitBasic cs
  if basic.all fun c => c.toNat < 0x80 then insertAll? basic 0x80 0 72 numbers else none

/-! ## Encoding -/

/-- An encoding under way. -/
structure State where
  /-- What is written so far, the last character first. -/
  output : List Char
  /-- The difference since the last number. -/
  delta : Nat
  /-- The bias of the next number. -/
  bias : Nat
  /-- How many characters of the text are written. -/
  count : Nat
  /-- Whether the next number is the first. -/
  isFirst : Bool

/-- Looks at one character of the text while those of code point `m` are written. -/
def State.step (m : Nat) (s : State) (c : Char) : State :=
  if c.toNat < m then { s with delta := s.delta + 1 }
  else if c.toNat = m then
    { output := (encodeNumber s.delta 36 s.bias).reverse ++ s.output
      delta := 0
      bias := adapt s.delta (s.count + 1) s.isFirst
      count := s.count + 1
      isFirst := false }
  else s

/-- Writes the characters of each code point in turn, where `n` is the least that is not written. -/
def writeAll (text : List Char) (n : Nat) : List Nat → State → State
  | [], s => s
  | m :: rest, s =>
    let s := { s with delta := s.delta + (m - n) * (s.count + 1) }
    let s := text.foldl (State.step m) s
    writeAll text (m + 1) rest { s with delta := s.delta + 1 }

/-- The punycode of a text. -/
def encode (text : List Char) : List Char :=
  let basic := text.filter fun c => c.toNat < 0x80
  let others := ((text.filter fun c => 0x80 ≤ c.toNat).map Char.toNat).mergeSort.eraseDups
  let start := basic ++ (if basic.isEmpty then [] else ['-'])
  (writeAll text 0x80 others ⟨start.reverse, 0, 72, basic.length, true⟩).output.reverse

end WikiGateway.Host.Punycode
