import WikiGateway.Text.Chars
import WikiGateway.Decimal.Binary64

/-!
# Decimal numerals

A numeral is an optional sign, digits with an optional fraction, and an optional exponent; there is at least one digit
before or after the point.

* `Numeral.scan`: the numeral that a text starts with, after blanks; `numericPrefix` is it as written.
* `Numeral.toInt`, `Numeral.toBinary64`: its value as an integer and as a binary fraction.
* `readInt`, `readFloat`, `isNumeric`: the same for any text, where a text without a numeral reads as zero.
* `readInt_bounds`: integers are read into the 64-bit range.
-/

namespace WikiGateway

/-- The sign written in front of digits. -/
inductive Sign
  | plus
  | minus
deriving DecidableEq, Repr, Inhabited

/-- The character of a sign. -/
def Sign.char : Sign → Char
  | plus => '+'
  | minus => '-'

/-- The text of an optional sign. -/
def Sign.text : Option Sign → List Char
  | none => []
  | some s => [s.char]

/-- Reads an optional sign. -/
def Sign.take : List Char → Option Sign × List Char
  | '+' :: rest => (some plus, rest)
  | '-' :: rest => (some minus, rest)
  | rest => (none, rest)

/-- The power of ten after a numeral: its letter, sign and digits. -/
structure Exponent where
  /-- The letter `e` or `E`. -/
  letter : Char
  /-- The sign of the exponent. -/
  sign : Option Sign
  /-- The digits of the exponent. -/
  digits : List Char
deriving DecidableEq, Repr, Inhabited

namespace Exponent

/-- The exponent as written. -/
def text (e : Exponent) : List Char := e.letter :: (Sign.text e.sign ++ e.digits)

/-- The exponent's value. -/
def value (e : Exponent) : Int :=
  if e.sign = some .minus then -(Text.digitsValue e.digits : Int) else Text.digitsValue e.digits

/-- Reads an exponent off the front, if a letter, an optional sign and at least one digit stand there. -/
def take? : List Char → Option Exponent
  | [] => none
  | letter :: rest =>
    if letter = 'e' ∨ letter = 'E' then
      let (sign, rest) := Sign.take rest
      let digits := rest.takeWhile Char.isDigit
      if digits.isEmpty then none else some ⟨letter, sign, digits⟩
    else none

end Exponent

/-- A decimal numeral as written. -/
structure Numeral where
  /-- The sign in front. -/
  sign : Option Sign
  /-- The digits before the point. -/
  whole : List Char
  /-- The digits after the point, if there is one. -/
  fraction : Option (List Char)
  /-- The power of ten. -/
  exponent : Option Exponent
deriving DecidableEq, Repr, Inhabited

namespace Numeral

/-- The fraction as written, with its point. -/
def fractionText : Option (List Char) → List Char
  | none => []
  | some digits => '.' :: digits

/-- The numeral as written. -/
def text (n : Numeral) : List Char :=
  Sign.text n.sign ++ n.whole ++ fractionText n.fraction ++ (n.exponent.map Exponent.text).getD []

/-- Whether the numeral has neither a point nor an exponent. -/
def isIntegral (n : Numeral) : Bool := n.fraction.isNone && n.exponent.isNone

/-- The digits after a point in front. -/
def takeFraction : List Char → Option (List Char) × List Char
  | '.' :: rest => (some (rest.takeWhile Char.isDigit), rest.dropWhile Char.isDigit)
  | rest => (none, rest)

/-- The numeral that a text starts with. -/
def take? (s : List Char) : Option Numeral :=
  let (sign, s) := Sign.take s
  let whole := s.takeWhile Char.isDigit
  let (fraction, s) := takeFraction (s.dropWhile Char.isDigit)
  if whole.isEmpty && (fraction.getD []).isEmpty then none
  else some ⟨sign, whole, fraction, Exponent.take? s⟩

/-- The numeral that a text starts with, after ASCII blanks. -/
def scan (s : List Char) : Option Numeral := take? (s.dropWhile Text.isAsciiBlank)

/-- Whether the numeral starts with a minus sign. -/
def isNegative (n : Numeral) : Bool := n.sign = some .minus

/-- An integer, if 64 bits hold it. -/
def int64? (n : Int) : Option Int := if minInt64 ≤ n ∧ n ≤ maxInt64 then some n else none

/-- The integer with one more digit behind it; the digits of a negative integer count downwards. -/
def pushDigit? (negative : Bool) (n : Int) (digit : Nat) : Option Int :=
  (int64? (n * 10)).bind fun shifted => int64? (if negative then shifted - digit else shifted + digit)

/-- Reads digits one after the other, as long as 64 bits hold what has been read. -/
def readDigits? (negative : Bool) (n : Int) : List Char → Option Int
  | [] => some n
  | c :: cs => (pushDigit? negative n (c.toNat - '0'.toNat)).bind fun n => readDigits? negative n cs

/-- The value of an integral numeral; one that 64 bits do not hold gives the bound on its side of zero. -/
def toInteger (n : Numeral) : Int :=
  (readDigits? n.isNegative 0 n.whole).getD (if n.isNegative then minInt64 else maxInt64)

/-- The nearest number of the binary64 format. -/
def toBinary64 (n : Numeral) : Binary64 :=
  let fraction := n.fraction.getD []
  let digits := n.whole ++ fraction
  let significant := digits.dropWhile (· == '0')
  let scale := ((n.exponent.map Exponent.value).getD 0) - fraction.length
  Binary64.ofDecimal n.isNegative (Text.digitsValue significant) significant.length scale

/-- The value as a 64-bit integer: the integer for an integral numeral, the rounded number without its fraction for any
other. -/
def toInt (n : Numeral) : Int :=
  if n.isIntegral then n.toInteger else n.toBinary64.toInt64

/-- What is read is in the 64-bit range if what was there before is. -/
theorem bounds_of_readDigits? {negative : Bool} {n m : Int} {digits : List Char}
    (hn : minInt64 ≤ n ∧ n ≤ maxInt64) (h : readDigits? negative n digits = some m) :
    minInt64 ≤ m ∧ m ≤ maxInt64 := by
  induction digits generalizing n with
  | nil =>
    cases h
    exact hn
  | cons c digits ih =>
    rw [readDigits?, Option.bind_eq_some_iff] at h
    obtain ⟨next, hpush, hrest⟩ := h
    obtain ⟨shifted, -, hnext⟩ := Option.bind_eq_some_iff.mp hpush
    rw [int64?, Option.ite_none_right_eq_some] at hnext
    obtain ⟨hbounds, hsame⟩ := hnext
    rw [Option.some.inj hsame] at hbounds
    exact ih hbounds hrest

/-- An integral numeral is read into the 64-bit range. -/
theorem toInteger_bounds (n : Numeral) : minInt64 ≤ n.toInteger ∧ n.toInteger ≤ maxInt64 := by
  unfold toInteger
  cases h : readDigits? n.isNegative 0 n.whole with
  | some m => exact bounds_of_readDigits? (by decide) h
  | none => cases n.isNegative <;> decide

/-- The integer is in the 64-bit range. -/
theorem toInt_bounds (n : Numeral) : minInt64 ≤ n.toInt ∧ n.toInt ≤ maxInt64 := by
  unfold toInt
  split
  · exact n.toInteger_bounds
  · exact Binary64.toInt64_bounds _

end Numeral

/-! ## Reading any text -/

/-- The numeral that a text starts with, as written, and whether it has neither a point nor an exponent; without a
numeral nothing is written. -/
def numericPrefix (s : String) : List Char × Bool :=
  ((Numeral.scan s.toList).map fun n => (n.text, n.isIntegral)).getD ([], true)

/-- The integer that a text starts with, or zero. -/
def readInt (s : String) : Int := ((Numeral.scan s.toList).map Numeral.toInt).getD 0

/-- The number that a text starts with, or zero. -/
def readFloat (s : String) : Binary64 :=
  ((Numeral.scan s.toList).map Numeral.toBinary64).getD (.finite false 0 0)

/-- Whether a text is one numeral with ASCII blanks around it. -/
def isNumeric (s : String) : Bool :=
  let body := Text.trimEnd Text.isAsciiBlank s.toList
  match Numeral.scan body with
  | none => false
  | some n => n.text.length == (body.dropWhile Text.isAsciiBlank).length

/-- Integers are read into the 64-bit range. -/
theorem readInt_bounds (s : String) : minInt64 ≤ readInt s ∧ readInt s ≤ maxInt64 := by
  unfold readInt
  cases Numeral.scan s.toList with
  | none => decide
  | some n => exact n.toInt_bounds

end WikiGateway
