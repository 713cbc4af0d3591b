import WikiGateway.Host.IdnaData
import WikiGateway.Host.Punycode
import WikiGateway.Text.Split
import WikiGateway.Unicode.Category
import WikiGateway.Unicode.Nfc

/-!
# Internationalised host names

A host name is brought to its ASCII form: characters are mapped and normalized, the name is cut into labels, labels in
punycode are decoded, every label is checked, and labels beyond ASCII are written in punycode. Hyphens may stand
anywhere, and names may have any length; only labels that are read from punycode or written in it have a limit.

* `toAscii?`: the ASCII form of a name, if it has one.
-/

namespace WikiGateway.Host.Idna

open Unicode (numbers RangeTable)

/-! ## Data -/

/-- The replacements of the packed text, where `next` is the end of the run before. -/
def mappingsFrom (next : Nat) : List Nat → List (Nat × List Nat)
  | gap :: size :: count :: rest =>
    let targets := rest.take count
    ((List.range size).map fun i => (next + gap + i, targets.map (· + i))) ++
      mappingsFrom (next + gap + size) (rest.drop count)
  | _ => []
termination_by xs => xs.length
decreasing_by simp only [List.length_cons, List.length_drop]; omega

/-- The characters that are replaced, with what is put in their place. -/
def mappings : Std.HashMap Nat (List Nat) := .ofList (mappingsFrom 0 (numbers IdnaData.mappings))

/-- Ranges of characters outside ASCII that a label may hold. -/
def validTable : RangeTable Unit := .ofText IdnaData.valid

/-- Ranges of directional classes. -/
def directionTable : RangeTable Nat := .ofValuedText IdnaData.directions

/-- Ranges of joining classes. -/
def joiningTable : RangeTable Nat := .ofValuedText IdnaData.joining

/-- The direction that a character is written in. -/
inductive Direction
  | leftToRight | rightToLeft | arabicNumber | europeanNumber | neutral | mark | other
deriving DecidableEq, Repr, Inhabited

/-- The direction of a character. -/
def direction (c : Char) : Direction :=
  match directionTable.find? c.toNat with
  | none => .leftToRight
  | some 1 => .rightToLeft
  | some 2 => .arabicNumber
  | some 3 => .europeanNumber
  | some 4 => .neutral
  | some 5 => .mark
  | some _ => .other

/-- Whether a character joins the one after it. -/
def joinsForward (c : Char) : Bool :=
  match joiningTable.find? c.toNat with
  | some 1 | some 2 => true
  | _ => false

/-- Whether a character joins the one before it. -/
def joinsBackward (c : Char) : Bool :=
  match joiningTable.find? c.toNat with
  | some 1 | some 3 => true
  | _ => false

/-- Whether characters join across this one. -/
def isTransparent (c : Char) : Bool := joiningTable.find? c.toNat == some 4

/-! ## Mapping -/

/-- What a character becomes. -/
def mapChar (c : Char) : List Char :=
  if c.toNat < 0x80 then [c.toLower]
  else match mappings[c.toNat]? with
    | some targets => targets.map Char.ofNat
    | none => [c]

/-- A name with its characters mapped and normalized. -/
def mapName (cs : List Char) : List Char :=
  let mapped := cs.flatMap mapChar
  if mapped.all fun c => c.toNat < 0x80 then mapped else Unicode.nfc mapped

/-! ## Checks of one label -/

/-- ASCII characters that no host name may hold. -/
def isForbidden (c : Char) : Bool :=
  c.toNat ≤ 0x20 || c.toNat == 0x7F || "#%/:<>?@[\\]^|".contains c

/-- Whether a label may hold a character. -/
def isAllowed (c : Char) : Bool :=
  if c.toNat < 0x80 then !isForbidden c && !c.isUpper else validTable.contains c.toNat

/-- Whether a joiner may stand between what is before it, the nearest first, and what is after it. -/
def joinerFits (joiner : Char) (before after : List Char) : Bool :=
  match before with
  | [] => false
  | last :: _ =>
    if Unicode.combiningClass last == 9 then true
    else if joiner.toNat == 0x200C then
      ((before.dropWhile isTransparent).head?.map joinsForward).getD false &&
        ((after.dropWhile isTransparent).head?.map joinsBackward).getD false
    else false

/-- Whether every joiner of a label may stand where it is; `before` is what was passed, the nearest first. -/
def joinersFit (before : List Char) : List Char → Bool
  | [] => true
  | c :: after =>
    (!(c.toNat == 0x200C || c.toNat == 0x200D) || joinerFits c before after) && joinersFit (c :: before) after

/-- Whether the characters of a label may stand as they do. -/
def isValidLabel (label : List Char) : Bool :=
  label.all isAllowed && !((label.head?.map Unicode.isMark).getD false) && joinersFit [] label

/-! ## Direction -/

/-- Whether a label has characters written from right to left. -/
def hasRightToLeft (label : List Char) : Bool :=
  label.any fun c => direction c == .rightToLeft || direction c == .arabicNumber

/-- The rule for labels of a name that has characters written from right to left: a label has one direction, which its
first character and its last one other than marks show. -/
def isOneDirection (label : List Char) : Bool :=
  let directions := label.map direction
  let last := (directions.reverse.dropWhile (· == .mark)).head?
  match directions with
  | [] => true
  | .rightToLeft :: _ =>
    directions.all (fun d => d != .leftToRight && d != .other) &&
      (last == some .rightToLeft || last == some .arabicNumber || last == some .europeanNumber) &&
      !(directions.contains .arabicNumber && directions.contains .europeanNumber)
  | .leftToRight :: _ =>
    directions.all (fun d => d == .leftToRight || d == .europeanNumber || d == .neutral || d == .mark) &&
      (last == some .leftToRight || last == some .europeanNumber)
  | _ => false

/-! ## Names -/

/-- The mark of labels in punycode. -/
def punycodeMark : List Char := ['x', 'n', '-', '-']

/-- The longest code that is decoded. -/
def maxCode : Nat := 2000

/-- The longest label that is written in punycode. -/
def maxEncoded : Nat := 1000

/-- A label as it is read and as it is written in ASCII. -/
structure Label where
  /-- The label with punycode decoded. -/
  unicode : List Char
  /-- The label with punycode. -/
  ascii : List Char

/-- Checks a mapped label and brings it to both its forms. -/
def label? (label : List Char) : Option Label :=
  match Text.dropPrefix? punycodeMark label with
  | some code =>
    match if code.length ≤ maxCode then Punycode.decode? code else none with
    | none => none
    | some decoded =>
      if label.all (fun c => c.toNat < 0x80 && !isForbidden c) && code.getLast? != some '-' &&
          decoded.any (fun c => 0x80 ≤ c.toNat) && isValidLabel decoded && Unicode.nfc decoded == decoded then
        some ⟨decoded, label⟩
      else none
  | none =>
    if !isValidLabel label then none
    else if label.all fun c => c.toNat < 0x80 then some ⟨label, label⟩
    else if maxEncoded < label.length then none
    else some ⟨label, punycodeMark ++ Punycode.encode label⟩

/-- The labels of a mapped name, if all of them are right. -/
def labels? (name : List Char) : Option (List Label) :=
  match (Text.splitOn (· == '.') name).mapM label? with
  | none => none
  | some labels =>
    if labels.any (fun l => hasRightToLeft l.unicode) && !labels.all (fun l => isOneDirection l.unicode) then none
    else some labels

/-- The ASCII form of a name, if it has one. -/
def toAscii? (name : List Char) : Option (List Char) :=
  (labels? (mapName name)).map fun labels => List.intercalate ['.'] (labels.map Label.ascii)

end WikiGateway.Host.Idna
