import WikiGateway.Text.Chars

/-!
# Blanks, comments, strings and keys of TOML

Each reader takes a text and gives what it read and the text behind, or nothing.

* `skipLines`: blanks, comments and line ends.
* `quoted?`: a string in any of its four forms.
* `dottedKey?`: a key with its parts.
-/

namespace WikiGateway.Toml

/-! ## Blanks and comments -/

/-- A blank inside a line. -/
def isBlank (c : Char) : Bool := c == ' ' || c == '\t'

/-- A character that comments and strings may hold: any but the control characters other than tab. -/
def isTextChar (c : Char) : Bool := c == '\t' || (0x20 ≤ c.toNat && c.toNat != 0x7F)

/-- The text without blanks in front. -/
def skipBlanks (cs : List Char) : List Char := cs.dropWhile isBlank

/-- The text behind a line end. -/
def lineEnd? : List Char → Option (List Char)
  | '\n' :: rest => some rest
  | '\r' :: '\n' :: rest => some rest
  | _ => none

/-- The text behind a comment, if there is one. -/
def skipComment : List Char → List Char
  | '#' :: rest => rest.dropWhile isTextChar
  | cs => cs

/-- The text behind the rest of a line that holds nothing more than a comment. -/
def finishLine? (cs : List Char) : Option (List Char) :=
  match skipComment (skipBlanks cs) with
  | [] => some []
  | rest => lineEnd? rest

/-- The text behind blanks, comments and line ends; `fuel` bounds the number of lines. -/
def skipLinesAux : Nat → List Char → List Char
  | 0, cs => cs
  | fuel + 1, cs =>
    match lineEnd? (skipComment (skipBlanks cs)) with
    | some rest => skipLinesAux fuel rest
    | none => skipBlanks cs

/-- The text behind blanks, comments and line ends. -/
def skipLines (cs : List Char) : List Char := skipLinesAux (cs.length + 1) cs

/-! ## Strings -/

/-- The character of a code point in base sixteen. -/
def scalarOfHex? (digits : List Char) : Option Char :=
  (digits.mapM Text.hexValue?).bind fun values =>
    let n := values.foldl (fun n d => n * 16 + d) 0
    if n < 0xD800 ∨ (0xDFFF < n ∧ n < 0x110000) then some (Char.ofNat n) else none

/-- The character of `count` digits in base sixteen, and how many characters the escape takes. -/
def hexEscape? (count : Nat) (cs : List Char) : Option (Char × Nat) :=
  if cs.length < count then none else (scalarOfHex? (cs.take count)).map fun c => (c, count + 1)

/-- What the text behind a backslash stands for, and how many characters it takes. -/
def escape? : List Char → Option (Char × Nat)
  | 'b' :: _ => some ('\x08', 1)
  | 't' :: _ => some ('\t', 1)
  | 'n' :: _ => some ('\n', 1)
  | 'f' :: _ => some ('\x0c', 1)
  | 'r' :: _ => some ('\r', 1)
  | '"' :: _ => some ('"', 1)
  | '\\' :: _ => some ('\\', 1)
  | 'u' :: rest => hexEscape? 4 rest
  | 'U' :: rest => hexEscape? 8 rest
  | _ => none

/-- A string in double quotes, behind its opening quote; `seen` holds what was read, the last character first. -/
def basicBody? (seen : List Char) : List Char → Option (String × List Char)
  | [] => none
  | '"' :: rest => some (String.ofList seen.reverse, rest)
  | '\\' :: rest =>
    match escape? rest with
    | none => none
    | some (c, count) => basicBody? (c :: seen) (rest.drop count)
  | c :: rest => if isTextChar c then basicBody? (c :: seen) rest else none
termination_by cs => cs.length
decreasing_by all_goals grind

/-- A string in single quotes, behind its opening quote. -/
def literalBody? (cs : List Char) : Option (String × List Char) :=
  let text := cs.takeWhile (· != '\'')
  match cs.dropWhile (· != '\'') with
  | [] => none
  | _ :: rest => if text.all isTextChar then some (String.ofList text, rest) else none

/-- The end of a string of several lines: three quotes, of which up to two more before belong to the string. -/
def closing? (quote : Char) (seen cs : List Char) : Option (String × List Char) :=
  let count := (cs.takeWhile (· == quote)).length
  if count < 3 then none
  else some (String.ofList (seen.reverse ++ List.replicate (min (count - 3) 2) quote), cs.drop (min count 5))

/-- The text behind blanks and line ends. -/
def skipBreaks : List Char → List Char
  | [] => []
  | '\r' :: '\n' :: rest => skipBreaks rest
  | c :: rest => if c = '\n' ∨ isBlank c then skipBreaks rest else c :: rest

/-- Skipping makes no text longer. -/
theorem length_skipBreaks (cs : List Char) : (skipBreaks cs).length ≤ cs.length := by
  fun_induction skipBreaks cs <;> simp_all <;> omega

/-- A string of several lines, behind its opening quotes; escapes count only where `hasEscapes` says so. A backslash at
the end of a line takes all blanks and line ends behind it. -/
def linesBody? (quote : Char) (hasEscapes : Bool) (seen : List Char) : List Char → Option (String × List Char)
  | [] => none
  | '\r' :: '\n' :: rest => linesBody? quote hasEscapes ('\n' :: seen) rest
  | c :: rest =>
    if c = quote then
      match closing? quote seen (c :: rest) with
      | some result => some result
      | none => linesBody? quote hasEscapes (c :: seen) rest
    else if c = '\\' ∧ hasEscapes then
      match lineEnd? (skipBlanks rest) with
      | some _ => linesBody? quote hasEscapes seen (skipBreaks rest)
      | none =>
        match escape? rest with
        | none => none
        | some (c, count) => linesBody? quote hasEscapes (c :: seen) (rest.drop count)
    else if c = '\n' ∨ isTextChar c then linesBody? quote hasEscapes (c :: seen) rest
    else none
termination_by cs => cs.length
decreasing_by
  all_goals have := length_skipBreaks rest
  all_goals grind

/-- The text without one line end in front. -/
def dropLineEnd (cs : List Char) : List Char := (lineEnd? cs).getD cs

/-- A string in any of its four forms. -/
def quoted? : List Char → Option (String × List Char)
  | '"' :: '"' :: '"' :: rest => linesBody? '"' true [] (dropLineEnd rest)
  | '\'' :: '\'' :: '\'' :: rest => linesBody? '\'' false [] (dropLineEnd rest)
  | '"' :: rest => basicBody? [] rest
  | '\'' :: rest => literalBody? rest
  | _ => none

/-! ## Keys -/

/-- A character of a bare key. -/
def isKeyChar (c : Char) : Bool := c.isAlphanum || c == '-' || c == '_'

/-- One part of a key. -/
def keyPart? : List Char → Option (String × List Char)
  | '"' :: rest => basicBody? [] rest
  | '\'' :: rest => literalBody? rest
  | cs =>
    let name := cs.takeWhile isKeyChar
    if name.isEmpty then none else some (String.ofList name, cs.dropWhile isKeyChar)

/-- How deep values may be nested and how many parts a key may have: fewer than this. -/
def maxDepth : Nat := 80

/-- The parts of a key between dots, fewer than `fuel`, and the text behind the blanks that follow. -/
def keyParts? : Nat → List Char → Option (List String × List Char)
  | 0, _ => none
  | fuel + 1, cs =>
    match keyPart? (skipBlanks cs) with
    | none => none
    | some (part, rest) =>
      match skipBlanks rest with
      | '.' :: rest => (keyParts? fuel rest).map fun (parts, rest) => (part :: parts, rest)
      | rest => some ([part], rest)

/-- A key as the path to its last part, and that part. -/
def dottedKey? (cs : List Char) : Option (List String × String × List Char) :=
  (keyParts? (maxDepth - 1) cs).bind fun (parts, rest) =>
    parts.getLast?.map fun last => (parts.dropLast, last, rest)

end WikiGateway.Toml
