/-!
# Character classes and trimming

The sets of blank characters that the readers of this library tell apart, case folding of ASCII letters, and
trimming of character lists at either end.

* `trimEnd_append_blanks`: what `trimEnd` takes away is a run of dropped characters at the end.
* `eqIgnoreCase_refl`, `eqIgnoreCase_comm`: comparison up to the case of ASCII letters is symmetric.
-/

namespace WikiGateway.Text

/-! ## Classes of characters -/

/-- The blanks of the Unicode property `White_Space`. -/
def isSpace (c : Char) : Bool :=
  let n := c.toNat
  (9 ≤ n && n ≤ 13) || n == 0x20 || n == 0x85 || n == 0xA0 || n == 0x1680 || (0x2000 ≤ n && n ≤ 0x200A) ||
    n == 0x2028 || n == 0x2029 || n == 0x202F || n == 0x205F || n == 0x3000

/-- The six ASCII blanks that may surround a number: space, tab, line feed, return, vertical tab, form feed. -/
def isAsciiBlank (c : Char) : Bool :=
  c == ' ' || (9 ≤ c.toNat && c.toNat ≤ 13)

/-- A digit of either case in base sixteen. -/
def isHexDigit (c : Char) : Bool :=
  c.isDigit || ('a' ≤ c && c ≤ 'f') || ('A' ≤ c && c ≤ 'F')

/-- The value of a digit in base sixteen. -/
def hexValue? (c : Char) : Option Nat :=
  if c.isDigit then some (c.toNat - '0'.toNat)
  else if 'a' ≤ c ∧ c ≤ 'f' then some (c.toNat - 'a'.toNat + 10)
  else if 'A' ≤ c ∧ c ≤ 'F' then some (c.toNat - 'A'.toNat + 10)
  else none

/-- The lower-case digit for a value below sixteen. -/
def hexDigit (n : Nat) : Char :=
  Char.ofNat (if n < 10 then '0'.toNat + n else 'a'.toNat + (n - 10))

/-- The upper-case digit for a value below sixteen. -/
def hexDigitUpper (n : Nat) : Char :=
  Char.ofNat (if n < 10 then '0'.toNat + n else 'A'.toNat + (n - 10))

/-- The digits of `n` in lower-case base sixteen, without leading zeros. -/
def hexText (n : Nat) : String := String.ofList (Nat.toDigits 16 n)

/-- The value of a run of decimal digits. -/
def digitsValue (digits : List Char) : Nat :=
  digits.foldl (fun n c => n * 10 + (c.toNat - '0'.toNat)) 0

/-! ## Trimming -/

/-- Drops the characters of a class from the end of a list. -/
def trimEnd (p : Char → Bool) (s : List Char) : List Char :=
  (s.reverse.dropWhile p).reverse

/-- Drops the characters of a class from both ends of a list. -/
def trimBoth (p : Char → Bool) (s : List Char) : List Char :=
  trimEnd p (s.dropWhile p)

/-- Drops Unicode blanks from both ends of a text. -/
def trim (s : String) : String := String.ofList (trimBoth isSpace s.toList)

/-- What `trimEnd` takes away is a run of dropped characters at the end. -/
theorem trimEnd_append_blanks (p : Char → Bool) (s : List Char) :
    ∃ blanks, s = trimEnd p s ++ blanks ∧ ∀ c ∈ blanks, p c = true := by
  refine ⟨(s.reverse.takeWhile p).reverse, ?_, fun c hc => ?_⟩
  · rw [trimEnd, ← List.reverse_append, List.takeWhile_append_dropWhile, List.reverse_reverse]
  · have h : ∀ l : List Char, c ∈ l.takeWhile p → p c = true := by
      intro l
      induction l with
      | nil => simp
      | cons x l ih =>
        rw [List.takeWhile_cons]
        split
        · intro h
          rcases List.mem_cons.mp h with rfl | h
          · assumption
          · exact ih h
        · simp
    exact h _ (List.mem_reverse.mp hc)

/-! ## Case of ASCII letters -/

/-- The text with its ASCII letters in lower case. -/
def lowerAscii (s : String) : String := String.ofList (s.toList.map Char.toLower)

/-- The text with its ASCII letters in upper case. -/
def upperAscii (s : String) : String := String.ofList (s.toList.map Char.toUpper)

/-- Equality of texts up to the case of ASCII letters. -/
def eqIgnoreCase (a b : String) : Bool :=
  a.toList.map Char.toLower == b.toList.map Char.toLower

/-- A text equals itself up to case. -/
@[simp] theorem eqIgnoreCase_refl (a : String) : eqIgnoreCase a a = true := by
  simp [eqIgnoreCase]

/-- Equality up to case does not depend on the order of the two texts. -/
theorem eqIgnoreCase_comm (a b : String) : eqIgnoreCase a b = eqIgnoreCase b a := by
  rw [eqIgnoreCase, eqIgnoreCase, BEq.comm]

end WikiGateway.Text
