import WikiGateway.Text.Chars
import WikiGateway.Unicode.Fold
import WikiGateway.Unicode.Property

/-!
# Patterns

Regular expressions over characters with assertions about positions, and where they match.

* `CharSet.contains`: membership in a set of characters.
* `Pattern.ends`: the positions at which a match can end, for the positions at which it starts.
* `Pattern.isFoundIn`: whether a pattern matches somewhere in a text.
* `mem_ends_alt`, `ends_seq`: alternatives and sequences.
-/

namespace WikiGateway

/-- A set of characters. -/
inductive CharSet
  /-- No character. -/
  | none
  /-- The characters between two code points. -/
  | range (first last : Nat)
  /-- The characters of a property. -/
  | property (p : Unicode.Property)
  /-- The characters of words in all scripts. -/
  | word
  /-- The decimal digits of all scripts. -/
  | digit
  /-- The blanks of all scripts. -/
  | space
  | union (a b : CharSet)
  | inter (a b : CharSet)
  | compl (a : CharSet)
  /-- Every character that differs from one of the set in case alone. -/
  | anyCase (a : CharSet)
  /-- The same for ASCII letters alone. -/
  | anyAsciiCase (a : CharSet)
deriving DecidableEq, Repr, Inhabited

namespace CharSet

/-- Membership. -/
def contains : CharSet → Char → Bool
  | none, _ => false
  | range first last, c => first ≤ c.toNat && c.toNat ≤ last
  | property p, c => p.holds c
  | word, c => Unicode.isWordChar c
  | digit, c => Unicode.isDecimalDigit c
  | space, c => Text.isSpace c
  | union a b, c => a.contains c || b.contains c
  | inter a b, c => a.contains c && b.contains c
  | compl a, c => !a.contains c
  | anyCase a, c => (Unicode.caseVariants c).any a.contains
  | anyAsciiCase a, c => a.contains c || a.contains c.toLower || a.contains c.toUpper

/-- The set of one character. -/
def single (c : Char) : CharSet := range c.toNat c.toNat

/-- The characters of the first set that are not in the second. -/
def diff (a b : CharSet) : CharSet := inter a (compl b)

/-- The characters of one of the sets but not both. -/
def symmDiff (a b : CharSet) : CharSet := union (diff a b) (diff b a)

end CharSet

/-- A condition on a position between two characters. -/
inductive Assertion
  /-- The start of the text. -/
  | start
  /-- The end of the text. -/
  | finish
  /-- The start of a line. -/
  | lineStart
  /-- The end of a line. -/
  | lineEnd
  /-- The start of a line, where a return may end the line before. -/
  | anyLineStart
  /-- The end of a line, where a return may end the line. -/
  | anyLineEnd
  /-- Between a character of a word and one that is not, or not so. -/
  | wordBoundary (isWord : CharSet) (holds : Bool)
  /-- At the start of a word. -/
  | wordStart (isWord : CharSet)
  /-- At the end of a word. -/
  | wordEnd (isWord : CharSet)
  /-- Where no character of a word stands before. -/
  | wordStartHalf (isWord : CharSet)
  /-- Where no character of a word stands behind. -/
  | wordEndHalf (isWord : CharSet)
deriving DecidableEq, Repr, Inhabited

/-- Whether an assertion holds between two characters of a text, where there may be none. -/
def Assertion.holdsBetween (before after : Option Char) : Assertion → Bool
  | start => before.isNone
  | finish => after.isNone
  | lineStart => before.isNone || before == some '\n'
  | lineEnd => after.isNone || after == some '\n'
  | anyLineStart => before.isNone || before == some '\n' || (before == some '\r' && after != some '\n')
  | anyLineEnd => after.isNone || after == some '\r' || (after == some '\n' && before != some '\r')
  | wordBoundary isWord holds => (before.any isWord.contains != after.any isWord.contains) == holds
  | wordStart isWord => !before.any isWord.contains && after.any isWord.contains
  | wordEnd isWord => before.any isWord.contains && !after.any isWord.contains
  | wordStartHalf isWord => !before.any isWord.contains
  | wordEndHalf isWord => !after.any isWord.contains

/-- A regular expression. -/
inductive Pattern
  /-- The empty text. -/
  | empty
  /-- One character of a set. -/
  | set (s : CharSet)
  /-- The empty text where an assertion holds. -/
  | assert (a : Assertion)
  | seq (a b : Pattern)
  | alt (a b : Pattern)
  /-- At least `min` repetitions and at most `max`, if that is given. -/
  | repeated (p : Pattern) (min : Nat) (max : Option Nat)
deriving DecidableEq, Repr, Inhabited

namespace Pattern

/-! ## Positions -/

/-- The positions of one list and those of another that are new. -/
def mergePositions (a b : List Nat) : List Nat := a ++ b.filter fun i => !a.contains i

/-- Repeats a step `count` times, or until nothing changes. -/
def iterate (step : List Nat → List Nat) : Nat → List Nat → List Nat
  | 0, positions => positions
  | count + 1, positions =>
    let next := step positions
    if next = positions then positions else iterate step count next

/-- What up to `count` steps reach, where `seen` was reached and `fresh` was reached by the last step. -/
def reach (step : List Nat → List Nat) : Nat → List Nat → List Nat → List Nat
  | 0, seen, _ => seen
  | count + 1, seen, fresh =>
    let new := (step fresh).filter fun i => !seen.contains i
    if new.isEmpty then seen else reach step count (seen ++ new) new

/-- The character before a position. -/
def before? (text : Array Char) (i : Nat) : Option Char := if i = 0 then none else text[i - 1]?

/-- The positions at which a match can end that starts at one of the given positions. -/
def ends (text : Array Char) : Pattern → List Nat → List Nat
  | empty, starts => starts
  | set s, starts => (starts.filter fun i => (text[i]?).any s.contains).map (· + 1)
  | assert a, starts => starts.filter fun i => a.holdsBetween (before? text i) text[i]?
  | seq a b, starts => ends text b (ends text a starts)
  | alt a b, starts => mergePositions (ends text a starts) (ends text b starts)
  | repeated p min max, starts =>
    let first := iterate (ends text p) min starts
    let more := match max with
      | none => text.size + 1
      | some max => Nat.min (max - min) (text.size + 1)
    reach (ends text p) more first first

/-- Whether a pattern matches somewhere in a text. -/
def isFoundIn (p : Pattern) (text : String) : Bool :=
  let chars := text.toList.toArray
  !(p.ends chars (List.range (chars.size + 1))).isEmpty

/-! ## Laws -/

/-- A position is in a merged list if it is in one of the two. -/
theorem mem_mergePositions {a b : List Nat} {i : Nat} : i ∈ mergePositions a b ↔ i ∈ a ∨ i ∈ b := by
  by_cases h : i ∈ a <;> simp [mergePositions, h]

/-- A match of alternatives is a match of one of them. -/
theorem mem_ends_alt {text : Array Char} {a b : Pattern} {starts : List Nat} {i : Nat} :
    i ∈ (alt a b).ends text starts ↔ i ∈ a.ends text starts ∨ i ∈ b.ends text starts := by
  rw [ends, mem_mergePositions]

/-- A match of a sequence is a match of the second part where one of the first ends. -/
theorem ends_seq {text : Array Char} {a b : Pattern} {starts : List Nat} :
    (seq a b).ends text starts = b.ends text (a.ends text starts) := by
  rw [ends]

end Pattern

end WikiGateway
