import WikiGateway.Unicode.CategoryData
import WikiGateway.Unicode.Packed

/-!
# General categories

Every code point has one of thirty general categories; what the table leaves out is unassigned.

* `category`: the general category of a character.
-/

namespace WikiGateway.Unicode

/-- A general category of the Unicode character database. -/
inductive Category
  | upperLetter | lowerLetter | titleLetter | modifierLetter | otherLetter
  | nonspacingMark | spacingMark | enclosingMark
  | decimalNumber | letterNumber | otherNumber
  | connector | dash | openPunctuation | closePunctuation | initialQuote | finalQuote | otherPunctuation
  | mathSymbol | currencySymbol | modifierSymbol | otherSymbol
  | spaceSeparator | lineSeparator | paragraphSeparator
  | control | format | surrogate | privateUse | unassigned
deriving DecidableEq, Repr, Inhabited

namespace Category

/-- The categories in the order of their numbers in the table. -/
def all : Array Category := #[
  upperLetter, lowerLetter, titleLetter, modifierLetter, otherLetter, nonspacingMark, spacingMark, enclosingMark,
  decimalNumber, letterNumber, otherNumber, connector, dash, openPunctuation, closePunctuation, initialQuote,
  finalQuote, otherPunctuation, mathSymbol, currencySymbol, modifierSymbol, otherSymbol, spaceSeparator,
  lineSeparator, paragraphSeparator, control, format, surrogate, privateUse]

/-- The category of a code point in a range of the table that starts at `first`. -/
def ofRange (number first n : Nat) : Category :=
  let upper := if number = 29 then (n - first) % 2 == 0 else (n - first) % 2 == 1
  if number < 29 then all.getD number unassigned
  else if upper then upperLetter else lowerLetter

/-- Whether the category is one of the three kinds of marks. -/
def isMark : Category → Bool
  | nonspacingMark | spacingMark | enclosingMark => true
  | _ => false

/-- Whether the category is one of the five kinds of letters. -/
def isLetter : Category → Bool
  | upperLetter | lowerLetter | titleLetter | modifierLetter | otherLetter => true
  | _ => false

end Category

/-- The ranges of the table, each with its start and its number. -/
def categoryTable : RangeTable (Nat × Nat) :=
  (RangeTable.ofValuedText CategoryData.ranges).map fun r => { r with value := (r.value, r.first) }

/-- The general category of a character. -/
def category (c : Char) : Category :=
  match categoryTable.find? c.toNat with
  | none => .unassigned
  | some (number, first) => .ofRange number first c.toNat

/-- Whether a character is a combining mark. -/
def isMark (c : Char) : Bool := 0x300 ≤ c.toNat && (category c).isMark

end WikiGateway.Unicode
