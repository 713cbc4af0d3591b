/-!
# Numbers of the binary64 format

A positive quotient of naturals is rounded to the nearest number `mantissa · 2 ^ exponent` whose mantissa has at most
53 bits and whose exponent is at least -1074; a tie goes to the even mantissa. What would need an exponent above 971 is
infinite.

* `Binary64.ofQuotient`: the rounding.
* `Binary64.ofDecimal`: the same for `digits · 10 ^ scale`.
* `Binary64.toBits`: the 64-bit pattern.
* `Binary64.toInt64`: the integral part, clamped to the range of 64-bit integers; `toInt64_bounds` says so.
-/

namespace WikiGateway

/-- A number `± mantissa · 2 ^ exponent`, or an infinity. -/
inductive Binary64
  | finite (negative : Bool) (mantissa : Nat) (exponent : Int)
  | infinite (negative : Bool)
deriving DecidableEq, Repr, Inhabited

/-- The least 64-bit integer. -/
def minInt64 : Int := -9223372036854775808

/-- The greatest 64-bit integer. -/
def maxInt64 : Int := 9223372036854775807

/-- The nearest 64-bit integer. -/
def clampInt64 (n : Int) : Int := max minInt64 (min n maxInt64)

/-- A clamped integer is in the range of 64-bit integers. -/
theorem clampInt64_bounds (n : Int) : minInt64 ≤ clampInt64 n ∧ clampInt64 n ≤ maxInt64 := by
  unfold clampInt64 minInt64 maxInt64
  omega

/-- Clamping leaves an integer of the range as it is. -/
theorem clampInt64_of_bounds {n : Int} (hlo : minInt64 ≤ n) (hhi : n ≤ maxInt64) : clampInt64 n = n := by
  unfold clampInt64
  omega

namespace Binary64

/-- The quotient to the nearest natural, a tie to the even one. -/
def roundQuotient (num den : Nat) : Nat :=
  let q := num / den
  let twice := 2 * (num % den)
  if twice < den ∨ (twice = den ∧ q % 2 = 0) then q else q + 1

/-- The exponent of the greatest power of two that is at most `num / den`. -/
def floorLog2 (num den : Nat) : Int :=
  let guess := (num.log2 : Int) - (den.log2 : Int)
  let reaches := if 0 ≤ guess then den <<< guess.toNat ≤ num else den ≤ num <<< (-guess).toNat
  if reaches then guess else guess - 1

/-- Mantissas have at most 53 bits. -/
def mantissaBound : Nat := 0x20000000000000

/-- The least mantissa with 53 bits. -/
def leastNormal : Nat := 0x10000000000000

/-- The number nearest to `num / den`, with the given sign. -/
def ofQuotient (negative : Bool) (num den : Nat) : Binary64 :=
  if num = 0 ∨ den = 0 then finite negative 0 0
  else
    let exponent := max (floorLog2 num den - 52) (-1074)
    let mantissa :=
      if 0 ≤ exponent then roundQuotient num (den <<< exponent.toNat)
      else roundQuotient (num <<< (-exponent).toNat) den
    if exponent > 971 ∨ (exponent = 971 ∧ mantissaBound ≤ mantissa) then infinite negative
    else finite negative mantissa exponent

/-- The number nearest to `digits · 10 ^ scale`, where `digits` has `places` decimal places. -/
def ofDecimal (negative : Bool) (digits places : Nat) (scale : Int) : Binary64 :=
  if digits = 0 then finite negative 0 0
  else if scale + places > 400 then infinite negative
  else if scale + places < -400 then finite negative 0 0
  else if 0 ≤ scale then ofQuotient negative (digits * Nat.pow 10 scale.toNat) 1
  else ofQuotient negative digits (Nat.pow 10 (-scale).toNat)

/-- The 64-bit pattern: the sign, eleven bits of biased exponent and 52 bits of fraction. -/
def toBits : Binary64 → UInt64
  | infinite negative => (if negative then 0x8000000000000000 else 0) + 0x7FF0000000000000
  | finite negative mantissa exponent =>
    let (mantissa, exponent) := if mantissa = mantissaBound then (leastNormal, exponent + 1) else (mantissa, exponent)
    let magnitude :=
      if mantissa < leastNormal then mantissa
      else (exponent + 1075).toNat * leastNormal + (mantissa - leastNormal)
    (if negative then 0x8000000000000000 else 0) + UInt64.ofNat magnitude

/-- The magnitude without its fraction. -/
def wholePart (mantissa : Nat) (exponent : Int) : Nat :=
  if 0 ≤ exponent then mantissa <<< exponent.toNat else mantissa >>> (-exponent).toNat

/-- The number without its fraction, clamped to the range of 64-bit integers. -/
def toInt64 : Binary64 → Int
  | infinite negative => if negative then minInt64 else maxInt64
  | finite negative mantissa exponent =>
    let whole : Int := wholePart mantissa exponent
    clampInt64 (if negative then -whole else whole)

/-- The integral part is always in the range of 64-bit integers. -/
theorem toInt64_bounds (x : Binary64) : minInt64 ≤ x.toInt64 ∧ x.toInt64 ≤ maxInt64 := by
  cases x with
  | finite => exact clampInt64_bounds _
  | infinite negative => cases negative <;> decide

end Binary64

end WikiGateway
