import WikiGateway.Text.Utf8
import WikiGateway.Unicode.Nfc

/-!
# Cleaning of client text

Client text is brought to a normal form before it is used: characters that no XML document may hold become U+FFFD, and
the result is put in Normalization Form C. Text that needs no work is recognised early.

* `Normalizer.clean`, `Normalizer.cleanAll`: the cleaning, given a normalization and a quick check for it.
* `clean`: the cleaning by Normalization Form C.
-/

namespace WikiGateway.Text

/-- A control character other than tab, line feed and return, or one of the two noncharacters at the end of the first
plane; no XML document may hold it. -/
def isIllegal (c : Char) : Bool :=
  let n := c.toNat
  n ≤ 8 || n == 0xB || n == 0xC || (0xE ≤ n && n ≤ 0x1F) || n == 0xFFFE || n == 0xFFFF

/-- Whether a character is printable ASCII. -/
def isPlain (c : Char) : Bool := 0x20 ≤ c.toNat && c.toNat ≤ 0x7E

/-- The text with U+FFFD for every illegal character. -/
def replaceIllegal (cs : List Char) : List Char := cs.map fun c => if isIllegal c then replacement else c

/-- A normalization of texts with a quick check for it. -/
structure Normalizer where
  /-- The normal form of a text. -/
  normalize : List Char → List Char
  /-- Holds only of texts that are their own normal form. -/
  isQuick : List Char → Bool

/-- Normalization Form C. -/
def nfcNormalizer : Normalizer := ⟨Unicode.nfc, Unicode.isQuickNfc⟩

/-- Cleans a text by a normalization. -/
def Normalizer.clean (n : Normalizer) (s : String) : String :=
  if s.toList.all isPlain then s
  else
    let legal := if s.toList.any isIllegal then replaceIllegal s.toList else s.toList
    String.ofList (if n.isQuick legal then legal else n.normalize legal)

/-- Cleans every text of a list by a normalization. -/
def Normalizer.cleanAll (n : Normalizer) (values : List String) : List String := values.map n.clean

/-- Cleans a text by Normalization Form C. -/
def clean (s : String) : String := nfcNormalizer.clean s

/-- Cleans every text of a list by Normalization Form C. -/
def cleanAll (values : List String) : List String := nfcNormalizer.cleanAll values

end WikiGateway.Text
