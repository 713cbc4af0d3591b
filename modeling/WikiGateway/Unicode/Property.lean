import WikiGateway.Text.Split
import WikiGateway.Unicode.Category
import WikiGateway.Unicode.PropertyData
import WikiGateway.Unicode.ScriptData

/-!
# Properties of characters by name

The properties that a text can name: general categories and groups of them, binary properties, scripts and extensions
of scripts. Names are compared without regard to case, blanks, hyphens, underscores and a leading `is`.

* `Property.named?`: the property of a name alone.
* `Property.valued?`: the property of a name and a value.
* `Property.holds`: whether a character has a property.
* `isWordChar`: the characters of words.
-/

namespace WikiGateway.Unicode

/-- A name without what does not count in comparisons. -/
def plainName (name : String) : String :=
  let cs := (name.toList.filter fun c => !(c == ' ' || c == '_' || c == '-') && c.toNat < 0x80).map Char.toLower
  String.ofList (match name.toList with
    | a :: b :: _ => if a.toLower == 'i' && b.toLower == 's' then cs.drop 2 else cs
    | _ => cs)

/-- The words of a text. -/
def words (s : String) : List String :=
  ((Text.splitOn (fun c => c == ' ' || c == '\n') s.toList).filter (!·.isEmpty)).map String.ofList

/-! ## Data -/

/-- A binary property: some categories, and where it differs from them. -/
structure BinaryProperty where
  /-- The names. -/
  names : List String
  /-- The categories whose characters mostly have the property. -/
  categories : List Category
  /-- The ranges where it is the other way round. -/
  exceptions : RangeTable Unit

instance : Inhabited BinaryProperty := ⟨⟨[], [], #[]⟩⟩

/-- Every binary property. -/
def binaryProperties : Array BinaryProperty :=
  (PropertyData.entries.map fun entry =>
    ⟨words entry.names, entry.categories.map (Category.all.getD · .unassigned), .ofText entry.exceptions⟩).toArray

/-- Whether a character has a binary property. -/
def BinaryProperty.holds (p : BinaryProperty) (c : Char) : Bool :=
  p.categories.contains (category c) != p.exceptions.contains c.toNat

/-- The names of every script. -/
def scriptNames : Array (List String) :=
  ((words ScriptData.names).map fun names =>
    (Text.splitOn (· == '/') names.toList).map String.ofList).toArray

/-- The ranges of code points by script. -/
def scriptTable : RangeTable Nat := .ofValuedText ScriptData.ranges

/-- Where the extensions of a script differ from it, by the number of the script. -/
def scriptExtensions : Array (RangeTable Unit) :=
  scriptNames.map fun names =>
    match ScriptData.extensions.find? fun entry => names.contains entry.1 with
    | some (_, text) => .ofText text
    | none => #[]

/-- The groups of general categories by name. -/
def categoryGroups : List (String × List Category) :=
  let letters : List Category := [.upperLetter, .lowerLetter, .titleLetter]
  let marks : List Category := [.nonspacingMark, .spacingMark, .enclosingMark]
  let numbers : List Category := [.decimalNumber, .letterNumber, .otherNumber]
  let punctuation : List Category := [.connector, .dash, .openPunctuation, .closePunctuation, .initialQuote,
    .finalQuote, .otherPunctuation]
  let symbols : List Category := [.mathSymbol, .currencySymbol, .modifierSymbol, .otherSymbol]
  let separators : List Category := [.spaceSeparator, .lineSeparator, .paragraphSeparator]
  [("lu uppercaseletter", [.upperLetter]), ("ll lowercaseletter", [.lowerLetter]),
    ("lt titlecaseletter", [.titleLetter]), ("lm modifierletter", [.modifierLetter]),
    ("lo otherletter", [.otherLetter]), ("lc casedletter", letters),
    ("l letter", letters ++ [.modifierLetter, .otherLetter]),
    ("mn nonspacingmark", [.nonspacingMark]), ("mc spacingmark", [.spacingMark]),
    ("me enclosingmark", [.enclosingMark]), ("m mark combiningmark", marks),
    ("nd decimalnumber digit", [.decimalNumber]), ("nl letternumber", [.letterNumber]),
    ("no othernumber", [.otherNumber]), ("n number", numbers),
    ("pc connectorpunctuation", [.connector]), ("pd dashpunctuation", [.dash]),
    ("ps openpunctuation", [.openPunctuation]), ("pe closepunctuation", [.closePunctuation]),
    ("pi initialpunctuation", [.initialQuote]), ("pf finalpunctuation", [.finalQuote]),
    ("po otherpunctuation", [.otherPunctuation]), ("p punctuation punct", punctuation),
    ("sm mathsymbol", [.mathSymbol]), ("sc currencysymbol", [.currencySymbol]),
    ("sk modifiersymbol", [.modifierSymbol]), ("so othersymbol", [.otherSymbol]), ("s symbol", symbols),
    ("zs spaceseparator", [.spaceSeparator]), ("zl lineseparator", [.lineSeparator]),
    ("zp paragraphseparator", [.paragraphSeparator]), ("z separator", separators),
    ("cc control cntrl", [.control]), ("cf format", [.format]), ("co privateuse", [.privateUse]),
    ("cn unassigned", [.unassigned]),
    ("c other", [.control, .format, .surrogate, .privateUse, .unassigned])]

/-! ## Properties -/

/-- A property that a text can name. -/
inductive Property
  /-- Every character. -/
  | any
  /-- The characters of ASCII. -/
  | ascii
  /-- The characters of some general categories. -/
  | categories (list : List Category)
  /-- The characters that have the binary property of this number. -/
  | binary (number : Nat)
  /-- The characters of the script of this number. -/
  | script (number : Nat)
  /-- The characters that are used in the script of this number. -/
  | scriptExtension (number : Nat)
deriving DecidableEq, Repr, Inhabited

namespace Property

/-- Whether a character has a property. -/
def holds (p : Property) (c : Char) : Bool :=
  match p with
  | any => true
  | ascii => c.toNat < 0x80
  | categories list => list.contains (category c)
  | binary number => (binaryProperties.getD number default).holds c
  | script number => scriptTable.find? c.toNat == some number
  | scriptExtension number =>
    (scriptTable.find? c.toNat == some number) != (scriptExtensions.getD number #[]).contains c.toNat

/-- The group of general categories of a plain name. -/
def category? (name : String) : Option Property :=
  if name = "any" then some any
  else if name = "ascii" then some ascii
  else if name = "assigned" then some (categories (Category.all.toList.filter (· != .unassigned)))
  else (categoryGroups.find? fun group => (words group.1).contains name).map fun group => categories group.2

/-- The number of the script of a plain name. -/
def scriptNumber? (name : String) : Option Nat := scriptNames.findIdx? (·.contains name)

/-- The binary property of a plain name. -/
def binary? (name : String) : Option Property := (binaryProperties.findIdx? (·.names.contains name)).map binary

/-- The property of a name alone: a binary property, a group of categories or a script. -/
def named? (name : String) : Option Property :=
  let name := plainName name
  binary? name <|> category? name <|> (scriptNumber? name).map script

/-- The property of a name and a value. -/
def valued? (name value : String) : Option Property :=
  let name := plainName name
  let value := plainName value
  if name = "gc" ∨ name = "generalcategory" then category? value
  else if name = "sc" ∨ name = "script" then (scriptNumber? value).map script
  else if name = "scx" ∨ name = "scriptextensions" then (scriptNumber? value).map scriptExtension
  else none

end Property

/-! ## Words -/

/-- The letters and other characters of alphabets. -/
def isAlphabetic (c : Char) : Bool :=
  if c.toNat < 0x80 then c.isAlpha else (binaryProperties.getD 0 default).holds c

/-- The characters of words: letters, marks, decimal digits, connectors and the two joiners. -/
def isWordChar (c : Char) : Bool :=
  if c.toNat < 0x80 then c.isAlphanum || c == '_'
  else isAlphabetic c || (category c).isMark || category c == .decimalNumber || category c == .connector ||
    c.toNat == 0x200C || c.toNat == 0x200D

/-- The decimal digits of all scripts. -/
def isDecimalDigit (c : Char) : Bool :=
  if c.toNat < 0x80 then c.isDigit else category c == .decimalNumber

end WikiGateway.Unicode
