import WikiGateway.Pattern.Basic
import WikiGateway.Text.Split

/-!
# The syntax of patterns

Patterns are written with alternatives, groups, repetitions, classes in brackets, escapes and flags. Flags are set for
the rest of a group or for one group. There are no assertions about surrounding text and no references to groups.
Patterns may not be nested too deep nor stand for too large an automaton, whose size is estimated.

* `Pattern.parse?`: the pattern of a text, if it is one.
-/

namespace WikiGateway.Pattern

/-- The flags in force at a place of a pattern. -/
structure Flags where
  /-- `i`: letters match in either case. -/
  anyCase : Bool := false
  /-- `m`: anchors match at lines. -/
  multiLine : Bool := false
  /-- `s`: the dot matches line ends. -/
  dotAll : Bool := false
  /-- `u`: classes cover all of Unicode. -/
  unicode : Bool := true
  /-- `R`: a return ends a line. -/
  crlf : Bool := false
  /-- `x`: blanks and comments between the parts of a pattern are skipped. -/
  verbose : Bool := false
deriving DecidableEq, Repr, Inhabited

/-! ## Small pieces -/

/-- The text without blanks and comments in front, if they are skipped. -/
def skipBlanks (fuel : Nat) (flags : Flags) (cs : List Char) : List Char :=
  match fuel with
  | 0 => cs
  | fuel + 1 =>
    if !flags.verbose then cs
    else match cs.dropWhile Text.isSpace with
      | '#' :: rest => skipBlanks fuel flags ((rest.dropWhile (· != '\n')).drop 1)
      | rest => rest

/-- The same with as many steps as the text is long. -/
def skip (flags : Flags) (cs : List Char) : List Char := skipBlanks (cs.length + 1) flags cs

/-- Skipping never makes a text longer. -/
theorem length_skipBlanks_le (fuel : Nat) (flags : Flags) (cs : List Char) :
    (skipBlanks fuel flags cs).length ≤ cs.length := by
  induction fuel generalizing cs with
  | zero => exact Nat.le_refl _
  | succ fuel ih =>
    have hspaces := (List.dropWhile_suffix (l := cs) Text.isSpace).length_le
    rw [skipBlanks]
    split
    · exact Nat.le_refl _
    · split
      next rest hcomment =>
        have hline := ((List.drop_suffix 1 _).trans (List.dropWhile_suffix (l := rest) (· != '\n'))).length_le
        have hmore := ih ((rest.dropWhile (· != '\n')).drop 1)
        rw [hcomment, List.length_cons] at hspaces
        omega
      next => exact hspaces

/-- The characters of a class in front of a text, with what is skipped behind each of them, and what is left. -/
def takeRun (flags : Flags) (p : Char → Bool) : List Char → List Char × List Char
  | [] => ([], [])
  | c :: rest =>
    if p c then
      let (run, rest) := takeRun flags p (skip flags rest)
      (c :: run, rest)
    else ([], c :: rest)
termination_by cs => cs.length
decreasing_by
  rw [List.length_cons, skip]
  exact Nat.lt_succ_of_le (length_skipBlanks_le _ flags rest)

/-- The characters of a class up to a closing brace. -/
def runToBrace? (flags : Flags) (p : Char → Bool) (cs : List Char) : Option (List Char × List Char) :=
  match takeRun flags p cs with
  | (run, '\x7d' :: rest) => some (run, rest)
  | _ => none

/-- The same from the text after an opening brace. -/
def takeBraced? (flags : Flags) (p : Char → Bool) (cs : List Char) : Option (List Char × List Char) :=
  runToBrace? flags p (skip flags cs)

/-- The characters that have a meaning in patterns. -/
def isMeta (c : Char) : Bool := "\\.+*?()|[]\x7b\x7d^$#&-~".contains c

/-- Whether a character stands for itself after a backslash. -/
def isEscapable (c : Char) : Bool :=
  isMeta c || (c.toNat < 0x80 && !c.isAlphanum && c != '<' && c != '>')

/-- What one character or one escape stands for. -/
inductive Primitive
  | char (c : Char)
  | set (s : CharSet)
  | assert (a : Assertion)
deriving Repr, Inhabited

/-- A character by its code point. -/
def scalar? (n : Nat) : Option Char :=
  if n < 0xD800 ∨ (0xDFFF < n ∧ n < 0x110000) then some (Char.ofNat n) else none

/-- A set without the characters beyond ASCII, if it had none of them outside Unicode mode. -/
def checkedSet? (flags : Flags) (s : CharSet) : Option CharSet :=
  if flags.unicode then some s
  else if s.contains (Char.ofNat 0x80) then none
  else some s

/-- The set of a character, in either case if that is asked for. -/
def charSet? (flags : Flags) (c : Char) : Option CharSet :=
  if !flags.unicode && 0x80 ≤ c.toNat then none
  else some (
    if !flags.anyCase then .single c
    else if flags.unicode then .anyCase (.single c) else .anyAsciiCase (.single c))

/-- The characters of words in force. -/
def wordSet (flags : Flags) : CharSet :=
  if flags.unicode then .word
  else .union (.union (.range 0x30 0x39) (.range 0x41 0x5A)) (.union (.range 0x61 0x7A) (.single '_'))

/-- The digits in force. -/
def digitSet (flags : Flags) : CharSet := if flags.unicode then .digit else .range 0x30 0x39

/-- The blanks in force. -/
def spaceSet (flags : Flags) : CharSet :=
  if flags.unicode then .space else .union (.range 9 13) (.single ' ')

/-- A set closed under changes of case, if that is asked for. -/
def foldedSet (flags : Flags) (s : CharSet) : CharSet :=
  if !flags.anyCase then s else if flags.unicode then .anyCase s else .anyAsciiCase s

/-! ## Escapes -/

/-- The character whose code point some digits in base sixteen are; there is at least one. -/
def hexChar? (digits : List Char) : Option Char :=
  if digits.isEmpty then none else scalar? (digits.foldl (fun n c => n * 16 + (Text.hexValue? c).getD 0) 0)

/-- A fixed number of digits in base sixteen, with what is skipped in front of each of them. -/
def takeHexDigits? (flags : Flags) : Nat → List Char → Option (List Char × List Char)
  | 0, cs => some ([], cs)
  | count + 1, cs =>
    match skip flags cs with
    | [] => none
    | c :: rest =>
      if Text.isHexDigit c then (takeHexDigits? flags count rest).map fun (digits, rest) => (c :: digits, rest)
      else none

/-- The digits of a code point: between braces, or as many as there have to be. -/
def hexDigits? (flags : Flags) (count : Nat) (cs : List Char) : Option (List Char × List Char) :=
  match skip flags cs with
  | '\x7b' :: rest => takeBraced? flags Text.isHexDigit rest
  | cs => takeHexDigits? flags count cs

/-- A character by its code point in base sixteen. -/
def hexEscape? (flags : Flags) (count : Nat) (cs : List Char) : Option (Char × List Char) :=
  (hexDigits? flags count cs).bind fun (digits, rest) => (hexChar? digits).map fun c => (c, rest)

/-- The property that the text between braces names. -/
def namedProperty? (name : List Char) : Option (Unicode.Property × Bool) :=
  let valued (isNegated : Bool) (sides : List Char × List Char) :=
    (Unicode.Property.valued? (String.ofList sides.1) (String.ofList sides.2)).map fun p => (p, isNegated)
  match Text.cutText? ['!', '='] name with
  | some sides => valued true sides
  | none =>
    match Text.cut? (· == ':') name with
    | some sides => valued false sides
    | none =>
      match Text.cut? (· == '=') name with
      | some sides => valued false sides
      | none => (Unicode.Property.named? (String.ofList name)).map fun p => (p, false)

/-- The set of a named property, or what is not in it. -/
def propertySet? (flags : Flags) (isNegated : Bool) (name : List Char) : Option CharSet :=
  (namedProperty? name).map fun (p, differs) =>
    let s := foldedSet flags (.property p)
    if isNegated != differs then .compl s else s

/-- The name of a property: between braces, or of one character. -/
def propertyName? (flags : Flags) (cs : List Char) : Option (List Char × List Char) :=
  match skip flags cs with
  | '\x7b' :: rest => takeBraced? flags (· != '\x7d') rest
  | '\\' :: _ => none
  | c :: rest => some ([c], rest)
  | [] => none

/-- The set of a property escape. -/
def propertyEscape? (flags : Flags) (isNegated : Bool) (cs : List Char) : Option (CharSet × List Char) :=
  if !flags.unicode then none
  else (propertyName? flags cs).bind fun (name, rest) => (propertySet? flags isNegated name).map fun s => (s, rest)

/-- The boundary of a word that a name stands for. -/
def boundary? (flags : Flags) (name : List Char) : Option Assertion :=
  let isWord := wordSet flags
  match String.ofList name with
  | "start" => some (.wordStart isWord)
  | "end" => some (.wordEnd isWord)
  | "start-half" => some (.wordStartHalf isWord)
  | "end-half" => some (.wordEndHalf isWord)
  | _ => none

/-- Whether a character may stand in the name of a boundary. -/
def isBoundaryChar (c : Char) : Bool := c.isAlpha || c == '-'

/-- A boundary by its name up to a closing brace. -/
def namedBoundary? (flags : Flags) (cs : List Char) : Option (Assertion × List Char) :=
  (runToBrace? flags isBoundaryChar cs).bind fun (name, rest) => (boundary? flags name).map fun a => (a, rest)

/-- The boundary that an escape stands for: one whose name begins behind a brace, or else that of a word. -/
def boundaryEscape? (flags : Flags) (cs : List Char) : Option (Assertion × List Char) :=
  let unnamed := some (Assertion.wordBoundary (wordSet flags) true, cs)
  match cs with
  | '\x7b' :: rest =>
    match skip flags rest with
    | [] => none
    | c :: rest => if isBoundaryChar c then namedBoundary? flags (c :: rest) else unnamed
  | _ => unnamed

/-- What stands after a backslash. -/
def escape? (flags : Flags) : List Char → Option (Primitive × List Char)
  | [] => none
  | c :: rest =>
    let isWord := wordSet flags
    let set (s : CharSet) := some (Primitive.set s, rest)
    let char (c : Char) := some (Primitive.char c, rest)
    let assert (a : Assertion) := some (Primitive.assert a, rest)
    match c with
    | 'd' => set (digitSet flags)
    | 'D' => set (.compl (digitSet flags))
    | 's' => set (spaceSet flags)
    | 'S' => set (.compl (spaceSet flags))
    | 'w' => set isWord
    | 'W' => set (.compl isWord)
    | 'x' => (hexEscape? flags 2 rest).map fun (c, rest) => (.char c, rest)
    | 'u' => (hexEscape? flags 4 rest).map fun (c, rest) => (.char c, rest)
    | 'U' => (hexEscape? flags 8 rest).map fun (c, rest) => (.char c, rest)
    | 'p' => (propertyEscape? flags false rest).map fun (s, rest) => (.set s, rest)
    | 'P' => (propertyEscape? flags true rest).map fun (s, rest) => (.set s, rest)
    | 'a' => char '\x07'
    | 'f' => char '\x0c'
    | 't' => char '\t'
    | 'n' => char '\n'
    | 'r' => char '\r'
    | 'v' => char '\x0b'
    | 'A' => assert .start
    | 'z' => assert .finish
    | 'B' => assert (.wordBoundary isWord false)
    | '<' => assert (.wordStart isWord)
    | '>' => assert (.wordEnd isWord)
    | 'b' => (boundaryEscape? flags rest).map fun (a, rest) => (.assert a, rest)
    | c => if isEscapable c then char c else none

/-! ## Classes in brackets -/

/-- The sets of the names that may stand between `[:` and `:]`. -/
def asciiClass? (name : String) : Option CharSet :=
  let upper := CharSet.range 0x41 0x5A
  let lower := CharSet.range 0x61 0x7A
  let digits := CharSet.range 0x30 0x39
  let alpha := CharSet.union upper lower
  match name with
  | "alnum" => some (.union alpha digits)
  | "alpha" => some alpha
  | "ascii" => some (.range 0 0x7F)
  | "blank" => some (.union (.single '\t') (.single ' '))
  | "cntrl" => some (.union (.range 0 0x1F) (.single '\x7f'))
  | "digit" => some digits
  | "graph" => some (.range 0x21 0x7E)
  | "lower" => some lower
  | "print" => some (.range 0x20 0x7E)
  | "punct" => some (.union (.union (.range 0x21 0x2F) (.range 0x3A 0x40))
      (.union (.range 0x5B 0x60) (.range 0x7B 0x7E)))
  | "space" => some (.union (.range 9 13) (.single ' '))
  | "upper" => some upper
  | "word" => some (.union (.union alpha digits) (.single '_'))
  | "xdigit" => some (.union digits (.union (.range 0x41 0x46) (.range 0x61 0x66)))
  | _ => none

/-- The set of a class of ASCII by its name, which ends at a colon and a bracket. -/
def asciiClassName? (flags : Flags) (isNegated : Bool) (cs : List Char) : Option (CharSet × List Char) :=
  match cs.dropWhile (· != ':') with
  | ':' :: ']' :: after =>
    (asciiClass? (String.ofList (cs.takeWhile (· != ':')))).map fun s =>
      let s := foldedSet flags s
      (if isNegated then .compl s else s, after)
  | _ => none

/-- A named class of ASCII, from the text after its first bracket. -/
def takeAsciiClass? (flags : Flags) (cs : List Char) : Option (CharSet × List Char) :=
  match cs with
  | ':' :: '^' :: rest => asciiClassName? flags true rest
  | ':' :: rest => asciiClassName? flags false rest
  | _ => none

/-- A set of a class under way, with its depth and the number of its items. -/
structure SetItems where
  /-- The union of the items. -/
  set : CharSet := .none
  /-- The greatest depth of an item. -/
  depth : Nat := 0
  /-- The number of items. -/
  count : Nat := 0
deriving Repr, Inhabited

namespace SetItems

/-- One more item. -/
def add (items : SetItems) (s : CharSet) (depth : Nat) : SetItems :=
  ⟨if items.count = 0 then s else .union items.set s, max items.depth depth, items.count + 1⟩

/-- The depth of the union. -/
def unionDepth (items : SetItems) : Nat := if 1 < items.count then items.depth + 1 else items.depth

end SetItems

/-- An operation between sets in a class. -/
inductive SetOperator
  | intersection | difference | symmetricDifference
deriving DecidableEq, Repr, Inhabited

/-- A left side and the operation that waits for its right side. -/
abbrev Pending := Option (CharSet × Nat × SetOperator)

/-- Applies a waiting operation to its right side. -/
def applyPending (flags : Flags) (pending : Pending) (items : SetItems) : CharSet × Nat :=
  match pending with
  | none => (items.set, items.unionDepth)
  | some (left, depth, operator) =>
    let left := foldedSet flags left
    let right := foldedSet flags items.set
    let result := match operator with
      | .intersection => CharSet.inter left right
      | .difference => CharSet.diff left right
      | .symmetricDifference => CharSet.symmDiff left right
    (result, 1 + max depth items.unionDepth)

/-- One character or escape of a class. -/
def setPrimitive? (flags : Flags) : List Char → Option (Primitive × List Char)
  | [] => none
  | '\\' :: rest => escape? flags rest
  | c :: rest => some (.char c, rest)

/-- The set of an item of a class. -/
def itemSet? (flags : Flags) : Primitive → Option CharSet
  | .char c => if !flags.unicode && 0x80 ≤ c.toNat then none else some (.single c)
  | .set s => some s
  | .assert _ => none

/-- A character, an escape or a range of a class. -/
def setRange? (flags : Flags) (cs : List Char) : Option (CharSet × List Char) :=
  match setPrimitive? flags cs with
  | none => none
  | some (first, rest) =>
    let alone := (itemSet? flags first).map fun s => (s, skip flags rest)
    match skip flags rest with
    | [] => none
    | '-' :: rest =>
      match skip flags rest with
      | [] => none
      | ']' :: _ => alone
      | '-' :: _ => alone
      | rest =>
        match first, setPrimitive? flags rest with
        | .char a, some (.char b, rest) =>
          if b.toNat < a.toNat || (!flags.unicode && 0x80 ≤ b.toNat) then none
          else some (.range a.toNat b.toNat, rest)
        | _, _ => none
    | _ => alone

/-- The hyphens at the start of a class, which stand for themselves. -/
def leadingHyphens (flags : Flags) (items : SetItems) (cs : List Char) : Nat → SetItems × List Char
  | 0 => (items, cs)
  | fuel + 1 =>
    match cs with
    | '-' :: rest => leadingHyphens flags (items.add (.single '-') 0) (skip flags rest) fuel
    | _ => (items, cs)

/-- The start of a class after its bracket: whether it is negated, and the characters that stand for themselves there
alone. -/
def openClass (flags : Flags) (cs : List Char) : Bool × SetItems × List Char :=
  let cs := skip flags cs
  let (isNegated, cs) := match cs with
    | '^' :: rest => (true, skip flags rest)
    | _ => (false, cs)
  let (items, cs) := leadingHyphens flags {} cs (cs.length + 1)
  match items.count, cs with
  | 0, ']' :: rest => (isNegated, items.add (.single ']') 0, skip flags rest)
  | _, _ => (isNegated, items, cs)

/-- The rest of a class up to its closing bracket. -/
def classBody? (flags : Flags) : Nat → Bool → Pending → SetItems → List Char →
    Option (CharSet × Nat × List Char)
  | 0, _, _, _, _ => none
  | fuel + 1, isNegated, pending, items, cs =>
    let operator (operator : SetOperator) (rest : List Char) :=
      let (left, depth) := applyPending flags pending items
      classBody? flags fuel isNegated (some (left, depth, operator)) {} rest
    match skip flags cs with
    | [] => none
    | '[' :: rest =>
      match takeAsciiClass? flags rest with
      | some (s, rest) => classBody? flags fuel isNegated pending (items.add s 0) rest
      | none =>
        let (innerNegated, innerItems, rest) := openClass flags rest
        match classBody? flags fuel innerNegated none innerItems rest with
        | none => none
        | some (s, depth, rest) => classBody? flags fuel isNegated pending (items.add s depth) rest
    | ']' :: rest =>
      let (s, depth) := applyPending flags pending items
      let s := foldedSet flags s
      some (if isNegated then .compl s else s, depth + 1, rest)
    | '&' :: '&' :: rest => operator .intersection rest
    | '-' :: '-' :: rest => operator .difference rest
    | '~' :: '~' :: rest => operator .symmetricDifference rest
    | cs =>
      match setRange? flags cs with
      | none => none
      | some (s, rest) => classBody? flags fuel isNegated pending (items.add s 0) rest

/-- A class, from the text after its bracket. -/
def class? (flags : Flags) (cs : List Char) : Option (CharSet × Nat × List Char) :=
  let (isNegated, items, rest) := openClass flags cs
  match classBody? flags (cs.length + 1) isNegated none items rest with
  | none => none
  | some (s, depth, rest) => (checkedSet? flags s).map fun s => (s, depth, rest)

/-! ## Groups and repetitions -/

/-- One part of a sequence. -/
structure Part where
  /-- The pattern. -/
  pattern : Pattern
  /-- How deep the pattern is nested. -/
  depth : Nat
  /-- Whether the part may be repeated; a setting of flags may not. -/
  isRepeatable : Bool
deriving Repr, Inhabited

/-- The sequence of parts, the last one first. -/
def sequence : List Part → Part
  | [] => ⟨.empty, 0, true⟩
  | [part] => part
  | parts =>
    ⟨(parts.tail.map Part.pattern).foldl (fun rest p => .seq p rest) (parts.headD default).pattern,
      1 + (parts.map Part.depth).foldl max 0, true⟩

/-- The choice between parts, the last one first. -/
def choice : List Part → Part
  | [] => ⟨.empty, 0, true⟩
  | [part] => part
  | parts =>
    ⟨(parts.tail.map Part.pattern).foldl (fun rest p => .alt p rest) (parts.headD default).pattern,
      1 + (parts.map Part.depth).foldl max 0, true⟩

/-- The flags after one of them is set or cleared. -/
def Flags.update? (flags : Flags) (letter : Char) (value : Bool) : Option Flags :=
  match letter with
  | 'i' => some { flags with anyCase := value }
  | 'm' => some { flags with multiLine := value }
  | 's' => some { flags with dotAll := value }
  | 'U' => some flags
  | 'u' => some { flags with unicode := value }
  | 'R' => some { flags with crlf := value }
  | 'x' => some { flags with verbose := value }
  | _ => none

/-- Reads the letters of flags up to a colon or a bracket; `seen` holds the letters so far. The text that is left starts
with the end mark. -/
def takeFlags? (flags : Flags) (value : Bool) (seen : List Char) : List Char → Option (Flags × List Char)
  | [] => none
  | ':' :: rest => if seen.head? = some '-' then none else some (flags, ':' :: rest)
  | ')' :: rest => if seen.head? = some '-' then none else some (flags, ')' :: rest)
  | c :: rest =>
    if seen.contains c then none
    else if c = '-' then takeFlags? flags false (c :: seen) rest
    else
      match flags.update? c value with
      | none => none
      | some flags => takeFlags? flags value (c :: seen) rest

/-- Whether a character may stand in the name of a group. -/
def isNameChar (isFirst : Bool) (c : Char) : Bool :=
  c == '_' || Unicode.isAlphabetic c ||
    (!isFirst && (c == '.' || c == '[' || c == ']' || Unicode.category c == .decimalNumber ||
      Unicode.category c == .letterNumber || Unicode.category c == .otherNumber))

/-- The name of a group and the text after it. -/
def groupName? (cs : List Char) : Option (String × List Char) :=
  let name := cs.takeWhile (· != '>')
  match name, cs.dropWhile (· != '>') with
  | first :: more, _ :: rest =>
    if isNameChar true first && more.all (isNameChar false) then some (String.ofList name, rest) else none
  | _, _ => none

/-- How a bracket opens. -/
inductive Opening
  /-- A group with flags in force inside. -/
  | group (flags : Flags) (name : Option String)
  /-- A setting of flags for the rest of the group around. -/
  | setting (flags : Flags)

/-- Reads what follows an opening bracket. -/
def opening? (flags : Flags) (cs : List Char) : Option (Opening × List Char) :=
  let named (rest : List Char) :=
    (groupName? rest).map fun (name, rest) => (Opening.group flags (some name), rest)
  match skip flags cs with
  | '?' :: '=' :: _ => none
  | '?' :: '!' :: _ => none
  | '?' :: '<' :: '=' :: _ => none
  | '?' :: '<' :: '!' :: _ => none
  | '?' :: 'P' :: '<' :: rest => named rest
  | '?' :: '<' :: rest => named rest
  | '?' :: ')' :: _ => none
  | '?' :: rest =>
    match takeFlags? flags true [] rest with
    | some (flags, ':' :: rest) => some (.group flags none, rest)
    | some (flags, _ :: rest) => some (.setting flags, rest)
    | _ => none
  | rest => some (.group flags none, rest)

/-- A decimal number with blanks around it, and with what is skipped behind each of its digits. -/
def takeNumber? (flags : Flags) (cs : List Char) : Option (Nat × List Char) :=
  let (digits, rest) := takeRun flags Char.isDigit (cs.dropWhile Text.isSpace)
  let n := Text.digitsValue digits
  if digits.isEmpty || 0x100000000 ≤ n then none else some (n, rest.dropWhile Text.isSpace)

/-- The closing brace of bounds. -/
def closeBounds? (min : Nat) (max : Option Nat) : List Char → Option ((Nat × Option Nat) × List Char)
  | '\x7d' :: rest => some ((min, max), rest)
  | _ => none

/-- Bounds from the comma behind the lower one on: the upper one is at least as great, or there is none. -/
def upperBound? (flags : Flags) (min : Nat) (cs : List Char) : Option ((Nat × Option Nat) × List Char) :=
  match skip flags cs with
  | '\x7d' :: rest => some ((min, none), rest)
  | rest =>
    (takeNumber? flags rest).bind fun (max, rest) => if max < min then none else closeBounds? min (some max) rest

/-- The bounds of a repetition, from the text after its brace. -/
def takeBounds? (flags : Flags) (cs : List Char) : Option ((Nat × Option Nat) × List Char) :=
  (takeNumber? flags (skip flags cs)).bind fun (min, rest) =>
    match rest with
    | ',' :: rest => upperBound? flags min rest
    | rest => closeBounds? min (some min) rest

/-- The parts with the last one repeated. -/
def repeatLast? (min : Nat) (max : Option Nat) : List Part → Option (List Part)
  | [] => none
  | last :: parts =>
    if last.isRepeatable then some (⟨.repeated last.pattern min max, last.depth + 1, true⟩ :: parts) else none

/-- The text without a mark of a lazy repetition, which does not change where a pattern matches. -/
def skipLazyMark : List Char → List Char
  | '?' :: rest => rest
  | rest => rest

/-- The assertion at the start of a text or line. -/
def startAssertion (flags : Flags) : Assertion :=
  if !flags.multiLine then .start else if flags.crlf then .anyLineStart else .lineStart

/-- The assertion at the end of a text or line. -/
def endAssertion (flags : Flags) : Assertion :=
  if !flags.multiLine then .finish else if flags.crlf then .anyLineEnd else .lineEnd

/-- The set of the dot. -/
def dotSet? (flags : Flags) : Option CharSet :=
  if !flags.unicode then none
  else some (
    if flags.dotAll then .compl .none
    else if flags.crlf then .compl (.union (.single '\n') (.single '\r'))
    else .compl (.single '\n'))

/-- The part of a primitive. -/
def primitivePart? (flags : Flags) : Primitive → Option Part
  | .char c => (charSet? flags c).map fun s => ⟨.set s, 0, true⟩
  | .set s => (checkedSet? flags s).map fun s => ⟨.set s, 0, true⟩
  | .assert a => some ⟨.assert a, 0, true⟩

/-- The choices of a group up to its closing bracket or the end of the text. `names` holds the names of groups so far,
`done` the choices that are complete and `parts` those of the choice under way, each the last one first. -/
def choices? : Nat → Flags → List String → List Part → List Part → List Char →
    Option (Part × List String × List Char)
  | 0, _, _, _, _, _ => none
  | fuel + 1, flags, names, done, parts, cs =>
    let push (part : Part) (rest : List Char) := choices? fuel flags names done (part :: parts) rest
    let again (min : Nat) (max : Option Nat) (rest : List Char) :=
      (repeatLast? min max parts).bind fun parts =>
        choices? fuel flags names done parts (skipLazyMark rest)
    match skip flags cs with
    | [] => some (choice (sequence parts :: done), names, [])
    | ')' :: rest => some (choice (sequence parts :: done), names, ')' :: rest)
    | '|' :: rest => choices? fuel flags names (sequence parts :: done) [] rest
    | '[' :: rest =>
      match class? flags rest with
      | none => none
      | some (s, depth, rest) => push ⟨.set s, depth, true⟩ rest
    | '?' :: rest => again 0 (some 1) rest
    | '*' :: rest => again 0 none rest
    | '+' :: rest => again 1 none rest
    | '\x7b' :: rest =>
      match takeBounds? flags rest with
      | none => none
      | some ((min, max), rest) => again min max (skip flags rest)
    | '(' :: rest =>
      match opening? flags rest with
      | none => none
      | some (.setting flags, rest) => choices? fuel flags names done (⟨.empty, 0, false⟩ :: parts) rest
      | some (.group inner name, rest) =>
        if name.any names.contains then none
        else
          match choices? fuel inner (name.toList ++ names) [] [] rest with
          | some (part, names, ')' :: rest) =>
            choices? fuel flags names done (⟨part.pattern, part.depth + 1, true⟩ :: parts) rest
          | _ => none
    | '.' :: rest => (dotSet? flags).bind fun s => push ⟨.set s, 0, true⟩ rest
    | '^' :: rest => push ⟨.assert (startAssertion flags), 0, true⟩ rest
    | '$' :: rest => push ⟨.assert (endAssertion flags), 0, true⟩ rest
    | '\\' :: rest =>
      match escape? flags rest with
      | none => none
      | some (p, rest) => (primitivePart? flags p).bind fun part => push part rest
    | c :: rest => (primitivePart? flags (.char c)).bind fun part => push part rest

/-! ## Limits -/

/-- How deep a pattern may be nested. -/
def maxDepth : Nat := 250

/-- How many bytes the automaton of a pattern may take. -/
def maxWeight : Nat := 10485760

/-- About how many bytes the part of an automaton takes that reads a character of a set. The numbers are estimates: the
true ones hang on how the automaton is built, so that which patterns are too large is only known far from the limit. -/
def setWeight : CharSet → Nat
  | .none => 32
  | .range first last => if last < 0x80 then 32 else if first = last then 96 else 400
  | .property _ => 12000
  | .word => 25000
  | .digit => 4000
  | .space => 600
  | .union a b => setWeight a + setWeight b
  | .inter a b => setWeight a + setWeight b
  | .compl a => 400 + setWeight a
  | .anyCase a => 64 + setWeight a
  | .anyAsciiCase a => setWeight a

/-- About how many bytes the automaton of a pattern takes, by the same estimates. -/
def weight : Pattern → Nat
  | empty => 32
  | set s => setWeight s
  | assert _ => 32
  | seq a b => weight a + weight b
  | alt a b => 32 + weight a + weight b
  | repeated p min max => 32 + (weight p + 32) * (match max with
    | none => min + 1
    | some max => max)

/-- The pattern of a text, if it is one and keeps to the limits. -/
def parse? (s : String) : Option Pattern :=
  let cs := s.toList
  match choices? (cs.length + 1) {} [] [] [] cs with
  | some (part, _, []) =>
    if maxDepth < part.depth || maxWeight < part.pattern.weight then none else some part.pattern
  | _ => none

end WikiGateway.Pattern
