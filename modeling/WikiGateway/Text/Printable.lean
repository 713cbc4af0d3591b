import WikiGateway.Text.Chars
import WikiGateway.Unicode.Property

/-!
# Texts in printable form

A text between quotes in which every character can be seen: what is not printable, and what would combine with the
character before it, is written as an escape.

* `quotePrintable`: the text between quotes.
-/

namespace WikiGateway.Text

/-- Whether a character would combine with the one before it. -/
def extendsGrapheme (c : Char) : Bool :=
  0x300 ≤ c.toNat && (Unicode.Property.named? "graphemeextend").any fun p => p.holds c

/-- Whether a character can be seen by itself: not one of the control, format, private or unassigned ones and no blank
but the space. -/
def isPrintable (c : Char) : Bool :=
  if c.toNat < 0x7F then 0x20 ≤ c.toNat
  else
    match Unicode.category c with
    | .control | .format | .surrogate | .privateUse | .unassigned | .spaceSeparator | .lineSeparator
    | .paragraphSeparator => false
    | _ => !extendsGrapheme c

/-- A character by its code point. -/
def codePointEscape (c : Char) : String := "\\u\x7b" ++ hexText c.toNat ++ "\x7d"

/-- A character between quotes. -/
def printableChar (c : Char) : String :=
  if c = '\x00' then "\\0"
  else if c = '\t' then "\\t"
  else if c = '\r' then "\\r"
  else if c = '\n' then "\\n"
  else if c = '\\' then "\\\\"
  else if c = '"' then "\\\""
  else if isPrintable c then String.ofList [c]
  else codePointEscape c

/-- The text between quotes. -/
def quotePrintable (s : String) : String := "\"" ++ String.join (s.toList.map printableChar) ++ "\""

end WikiGateway.Text
