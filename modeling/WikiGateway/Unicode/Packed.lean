/-!
# Packed tables

Tables of the Unicode character database are kept as texts of numbers in base 36 with blanks and line ends between
them, and read once. A table of ranges gives the distance from the range before, the length and, where ranges carry
one, a value.

* `numbers`: the numbers of a text.
* `RangeTable.find?`: the value of the range that holds a code point.
-/

namespace WikiGateway.Unicode

/-- The value of a digit in base 36. -/
def digit36 (c : Char) : Nat := if c.isDigit then c.toNat - '0'.toNat else c.toNat - 'a'.toNat + 10

/-- One character of a packed text: the numbers read so far, the last one first, and the number under way. -/
def numberStep (state : List Nat × Option Nat) (c : Char) : List Nat × Option Nat :=
  if c = ' ' ∨ c = '\n' then
    match state.2 with
    | none => state
    | some n => (n :: state.1, none)
  else (state.1, some (state.2.getD 0 * 36 + digit36 c))

/-- The numbers of a packed text. -/
def numbers (text : String) : List Nat :=
  let state := text.toList.foldl numberStep ([], none)
  (state.2.toList ++ state.1).reverse

/-- A range of code points with a value. -/
structure Range (α : Type) where
  /-- The first code point. -/
  first : Nat
  /-- The last code point. -/
  last : Nat
  /-- What the code points of the range have in common. -/
  value : α
deriving Repr, Inhabited

/-- Disjoint ranges in ascending order. -/
abbrev RangeTable (α : Type) := Array (Range α)

/-- Ranges from their distances and lengths, where `next` is the end of the range before. -/
def rangesFrom (next : Nat) : List Nat → List (Range Unit)
  | gap :: size :: rest => ⟨next + gap, next + gap + size - 1, ()⟩ :: rangesFrom (next + gap + size) rest
  | _ => []

/-- Ranges with values, where `next` is the end of the range before. -/
def valuedRangesFrom (next : Nat) : List Nat → List (Range Nat)
  | gap :: size :: value :: rest =>
    ⟨next + gap, next + gap + size - 1, value⟩ :: valuedRangesFrom (next + gap + size) rest
  | _ => []

namespace RangeTable

/-- The ranges of a packed text. -/
def ofText (text : String) : RangeTable Unit := (rangesFrom 0 (numbers text)).toArray

/-- The ranges of a packed text in which each range has a value. -/
def ofValuedText (text : String) : RangeTable Nat := (valuedRangesFrom 0 (numbers text)).toArray

/-- Looks between the positions `lo` and `hi`, halving the distance in each step. -/
def findBetween {α : Type} (table : RangeTable α) (n lo hi : Nat) : Option α :=
  if lo < hi then
    match table[(lo + hi) / 2]? with
    | none => none
    | some r =>
      if n < r.first then findBetween table n lo ((lo + hi) / 2)
      else if r.last < n then findBetween table n ((lo + hi) / 2 + 1) hi
      else some r.value
  else none
termination_by hi - lo

/-- The value of the range that holds `n`. -/
def find? {α : Type} (table : RangeTable α) (n : Nat) : Option α := findBetween table n 0 table.size

/-- Whether some range holds `n`. -/
def contains {α : Type} (table : RangeTable α) (n : Nat) : Bool := (table.find? n).isSome

end RangeTable

end WikiGateway.Unicode
