import Mathlib.Data.Nat.Digits.Defs
import WikiGateway.Text.Chars

/-!
# The value of digits

In `decimalValue` each digit counts by its place, whichever way the digits are read. A reader that takes them one after
the other computes the same (`digitsValue_eq`). The digits that are written for a number have its value
(`digitsValue_toDigits`).
-/

namespace WikiGateway.Text

/-- The value of decimal digits by their places, the last of which is the place of the ones. -/
def decimalValue (digits : List Char) : Nat := Nat.ofDigits 10 (digits.reverse.map fun c => c.toNat - '0'.toNat)

@[simp] theorem decimalValue_nil : decimalValue [] = 0 := rfl

/-- The digits of the second run stand at the lower places. -/
theorem decimalValue_append (cs ds : List Char) :
    decimalValue (cs ++ ds) = decimalValue cs * 10 ^ ds.length + decimalValue ds := by
  rw [decimalValue, List.reverse_append, List.map_append, Nat.ofDigits_append, List.length_map, List.length_reverse,
    Nat.add_comm, Nat.mul_comm, decimalValue, decimalValue]

/-- The first digit counts by the number of those behind it. -/
theorem decimalValue_cons (c : Char) (cs : List Char) :
    decimalValue (c :: cs) = (c.toNat - '0'.toNat) * 10 ^ cs.length + decimalValue cs := by
  have hfirst : decimalValue [c] = c.toNat - '0'.toNat := Nat.ofDigits_singleton
  rw [← List.singleton_append, decimalValue_append, hfirst]

theorem decimalValue_zeros (n : Nat) : decimalValue (List.replicate n '0') = 0 := by
  induction n with
  | zero => rfl
  | succ n ih => rw [List.replicate_succ, decimalValue_cons, ih, Nat.sub_self, Nat.zero_mul]

theorem foldl_digits (cs : List Char) (n : Nat) :
    cs.foldl (fun n c => n * 10 + (c.toNat - '0'.toNat)) n = n * 10 ^ cs.length + decimalValue cs := by
  induction cs generalizing n with
  | nil => simp
  | cons c cs ih =>
    rw [List.foldl_cons, ih, decimalValue_cons, List.length_cons, pow_succ]
    ring

/-- The digits one after the other. -/
theorem digitsValue_eq (cs : List Char) : digitsValue cs = decimalValue cs := by
  rw [digitsValue, foldl_digits, Nat.zero_mul, Nat.zero_add]

/-- The digits of a number have its value. -/
theorem digitsValue_toDigits (n : Nat) : digitsValue (Nat.toDigits 10 n) = n := by
  have hfold : ∀ (digits : List Char) (init : Nat),
      digits.foldl (fun n c => n * 10 + (c.toNat - '0'.toNat)) init = Nat.ofDigitChars 10 digits init := by
    intro digits init
    rw [Nat.ofDigitChars_eq_foldl]
    congr 1
    funext n c
    rw [Nat.mul_comm]
  rw [digitsValue, hfold, Nat.ofDigitChars_ten_toDigits]

theorem isDigit_of_mem_repr {n : Nat} {c : Char} (h : c ∈ n.repr.toList) : c.isDigit = true := by
  rw [Nat.toList_repr] at h
  exact Nat.isDigit_of_mem_toDigits (by decide) (by decide) h

theorem digit_le_nine {c : Char} (h : c.isDigit = true) : c.toNat - '0'.toNat ≤ 9 := by
  simp only [Char.isDigit, ge_iff_le, Bool.and_eq_true, decide_eq_true_eq, UInt32.le_iff_toNat_le] at h
  have hval : c.toNat = c.val.toNat := rfl
  have hnine : '9'.val.toNat = 57 := rfl
  have hzero : '0'.toNat = 48 := rfl
  omega

/-- Digits stay below the next power of ten. -/
theorem decimalValue_lt {cs : List Char} (h : ∀ c ∈ cs, c.isDigit = true) : decimalValue cs < 10 ^ cs.length := by
  induction cs with
  | nil => simp
  | cons c cs ih =>
    obtain ⟨hc, hcs⟩ := List.forall_mem_cons.mp h
    have hdigit := digit_le_nine hc
    have hrest := ih hcs
    calc decimalValue (c :: cs) = (c.toNat - '0'.toNat) * 10 ^ cs.length + decimalValue cs := decimalValue_cons c cs
      _ < 9 * 10 ^ cs.length + 10 ^ cs.length := by
        have hle := Nat.mul_le_mul_right (10 ^ cs.length) hdigit
        omega
      _ = 10 ^ (c :: cs).length := by
        rw [List.length_cons, pow_succ]
        ring

end WikiGateway.Text
