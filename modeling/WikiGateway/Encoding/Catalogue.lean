import WikiGateway.Encoding.SingleByte
import WikiGateway.Text.Chars
import WikiGateway.Text.Split
import WikiGateway.Text.Utf8

/-!
# Character encodings of the web

The encodings that web documents are labelled with, their labels, and the reading of bytes by an encoding. The encodings
of East Asia, whose characters take several bytes, are read by a library outside of this one.

* `Encoding`: a name and the reading of bytes, whatever it is.
* `MultiByteDecoders`: the readings that the library brings.
* `Encoding.lookup?`, `Encoding.ofLabel?`: the encoding for a label, up to ASCII case and surrounding blanks.
-/

namespace WikiGateway

/-- A character encoding. -/
structure Encoding where
  /-- Its name in the standard's spelling. -/
  name : String
  /-- The text of bytes; what the encoding cannot read becomes U+FFFD. -/
  decode : List UInt8 → String

/-- The encodings whose characters take several bytes. -/
inductive Encoding.MultiByte
  | gbk
  | gb18030
  | big5
  | eucJp
  | iso2022Jp
  | shiftJis
  | eucKr
deriving DecidableEq, Repr, Inhabited

/-- The reading of bytes in the encodings whose characters take several of them. Its tables are no part of this library,
and no law is asked of it. -/
class MultiByteDecoders where
  /-- The text of bytes. -/
  decode : Encoding.MultiByte → List UInt8 → String

/-- How an encoding reads bytes. -/
inductive Encoding.Scheme
  /-- UTF-8. -/
  | utf8
  /-- Units of two bytes. -/
  | utf16 (bigEndian : Bool)
  /-- One character per byte; the text lists those of the bytes 80 to FF. -/
  | singleByte (high : String)
  /-- One character per byte; the bytes 80 to FF stand for private characters from U+F780 on. -/
  | userDefined
  /-- An encoding that is never read: any input is one U+FFFD. -/
  | nothing
  /-- By the decoders of a library. -/
  | multiByte (encoding : Encoding.MultiByte)
deriving DecidableEq, Repr, Inhabited

/-- An entry of the catalogue of encodings. -/
structure Encoding.Entry where
  /-- The name of the encoding in the standard's spelling. -/
  name : String
  /-- How it reads bytes. -/
  scheme : Encoding.Scheme
  /-- The labels that choose it, with blanks between them. -/
  labels : String
deriving DecidableEq, Repr, Inhabited

namespace Encoding

/-- Every encoding with its labels. -/
def all : List Entry := [
  ⟨"UTF-8", .utf8,
    "unicode-1-1-utf-8 unicode11utf8 unicode20utf8 utf-8 utf8 x-unicode20utf8"⟩,
  ⟨"IBM866", .singleByte SingleByte.ibm866,
    "866 cp866 csibm866 ibm866"⟩,
  ⟨"ISO-8859-2", .singleByte SingleByte.latin2,
    "csisolatin2 iso-8859-2 iso-ir-101 iso8859-2 iso88592 iso_8859-2 iso_8859-2:1987 l2 latin2"⟩,
  ⟨"ISO-8859-3", .singleByte SingleByte.latin3,
    "csisolatin3 iso-8859-3 iso-ir-109 iso8859-3 iso88593 iso_8859-3 iso_8859-3:1988 l3 latin3"⟩,
  ⟨"ISO-8859-4", .singleByte SingleByte.latin4,
    "csisolatin4 iso-8859-4 iso-ir-110 iso8859-4 iso88594 iso_8859-4 iso_8859-4:1988 l4 latin4"⟩,
  ⟨"ISO-8859-5", .singleByte SingleByte.latin5,
    "csisolatincyrillic cyrillic iso-8859-5 iso-ir-144 iso8859-5 iso88595 iso_8859-5 iso_8859-5:1988"⟩,
  ⟨"ISO-8859-6", .singleByte SingleByte.latin6,
    "arabic asmo-708 csiso88596e csiso88596i csisolatinarabic ecma-114 iso-8859-6 iso-8859-6-e " ++
    "iso-8859-6-i iso-ir-127 iso8859-6 iso88596 iso_8859-6 iso_8859-6:1987"⟩,
  ⟨"ISO-8859-7", .singleByte SingleByte.latin7,
    "csisolatingreek ecma-118 elot_928 greek greek8 iso-8859-7 iso-ir-126 iso8859-7 iso88597 iso_8859-7 " ++
    "iso_8859-7:1987 sun_eu_greek"⟩,
  ⟨"ISO-8859-8", .singleByte SingleByte.latin8,
    "csiso88598e csisolatinhebrew hebrew iso-8859-8 iso-8859-8-e iso-ir-138 iso8859-8 iso88598 iso_8859-8 " ++
    "iso_8859-8:1988 visual"⟩,
  ⟨"ISO-8859-8-I", .singleByte SingleByte.latin8,
    "csiso88598i iso-8859-8-i logical"⟩,
  ⟨"ISO-8859-10", .singleByte SingleByte.latin10,
    "csisolatin6 iso-8859-10 iso-ir-157 iso8859-10 iso885910 l6 latin6"⟩,
  ⟨"ISO-8859-13", .singleByte SingleByte.latin13,
    "iso-8859-13 iso8859-13 iso885913"⟩,
  ⟨"ISO-8859-14", .singleByte SingleByte.latin14,
    "iso-8859-14 iso8859-14 iso885914"⟩,
  ⟨"ISO-8859-15", .singleByte SingleByte.latin15,
    "csisolatin9 iso-8859-15 iso8859-15 iso885915 iso_8859-15 l9"⟩,
  ⟨"ISO-8859-16", .singleByte SingleByte.latin16,
    "iso-8859-16"⟩,
  ⟨"KOI8-R", .singleByte SingleByte.koi8R,
    "cskoi8r koi koi8 koi8-r koi8_r"⟩,
  ⟨"KOI8-U", .singleByte SingleByte.koi8U,
    "koi8-ru koi8-u"⟩,
  ⟨"macintosh", .singleByte SingleByte.macintosh,
    "csmacintosh mac macintosh x-mac-roman"⟩,
  ⟨"windows-874", .singleByte SingleByte.windows874,
    "dos-874 iso-8859-11 iso8859-11 iso885911 tis-620 windows-874"⟩,
  ⟨"windows-1250", .singleByte SingleByte.windows1250,
    "cp1250 windows-1250 x-cp1250"⟩,
  ⟨"windows-1251", .singleByte SingleByte.windows1251,
    "cp1251 windows-1251 x-cp1251"⟩,
  ⟨"windows-1252", .singleByte SingleByte.windows1252,
    "ansi_x3.4-1968 ascii cp1252 cp819 csisolatin1 ibm819 iso-8859-1 iso-ir-100 iso8859-1 iso88591 " ++
    "iso_8859-1 iso_8859-1:1987 l1 latin1 us-ascii windows-1252 x-cp1252"⟩,
  ⟨"windows-1253", .singleByte SingleByte.windows1253,
    "cp1253 windows-1253 x-cp1253"⟩,
  ⟨"windows-1254", .singleByte SingleByte.windows1254,
    "cp1254 csisolatin5 iso-8859-9 iso-ir-148 iso8859-9 iso88599 iso_8859-9 iso_8859-9:1989 l5 latin5 " ++
    "windows-1254 x-cp1254"⟩,
  ⟨"windows-1255", .singleByte SingleByte.windows1255,
    "cp1255 windows-1255 x-cp1255"⟩,
  ⟨"windows-1256", .singleByte SingleByte.windows1256,
    "cp1256 windows-1256 x-cp1256"⟩,
  ⟨"windows-1257", .singleByte SingleByte.windows1257,
    "cp1257 windows-1257 x-cp1257"⟩,
  ⟨"windows-1258", .singleByte SingleByte.windows1258,
    "cp1258 windows-1258 x-cp1258"⟩,
  ⟨"x-mac-cyrillic", .singleByte SingleByte.macCyrillic,
    "x-mac-cyrillic x-mac-ukrainian"⟩,
  ⟨"GBK", .multiByte .gbk,
    "chinese csgb2312 csiso58gb231280 gb2312 gb_2312 gb_2312-80 gbk iso-ir-58 x-gbk"⟩,
  ⟨"gb18030", .multiByte .gb18030,
    "gb18030"⟩,
  ⟨"Big5", .multiByte .big5,
    "big5 big5-hkscs cn-big5 csbig5 x-x-big5"⟩,
  ⟨"EUC-JP", .multiByte .eucJp,
    "cseucpkdfmtjapanese euc-jp x-euc-jp"⟩,
  ⟨"ISO-2022-JP", .multiByte .iso2022Jp,
    "csiso2022jp iso-2022-jp"⟩,
  ⟨"Shift_JIS", .multiByte .shiftJis,
    "csshiftjis ms932 ms_kanji shift-jis shift_jis sjis windows-31j x-sjis"⟩,
  ⟨"EUC-KR", .multiByte .eucKr,
    "cseuckr csksc56011987 euc-kr iso-ir-149 korean ks_c_5601-1987 ks_c_5601-1989 ksc5601 ksc_5601 " ++
    "windows-949"⟩,
  ⟨"replacement", .nothing,
    "csiso2022kr hz-gb-2312 iso-2022-cn iso-2022-cn-ext iso-2022-kr replacement"⟩,
  ⟨"UTF-16BE", .utf16 true,
    "unicodefffe utf-16be"⟩,
  ⟨"UTF-16LE", .utf16 false,
    "csunicode iso-10646-ucs-2 ucs-2 unicode unicodefeff utf-16 utf-16le"⟩,
  ⟨"x-user-defined", .userDefined,
    "x-user-defined"⟩]

/-- A blank that may surround a label. -/
def isLabelBlank (c : Char) : Bool := c == ' ' || c == '\t' || c == '\n' || c == '\r' || c == '\x0c'

/-- The entry for a label, up to ASCII case and surrounding blanks. -/
def lookup? (label : String) : Option Entry :=
  let wanted := (Text.trimBoth isLabelBlank label.toList).map Char.toLower
  all.find? fun e => (Text.splitOn (· == ' ') e.labels.toList).any (fun l => !l.isEmpty && l == wanted)

/-! ## Units of two bytes -/

/-- Reads one unit of two bytes; a single byte at the end is none. -/
def readUnit (bigEndian : Bool) (b : UInt8) : List UInt8 → Option Nat × List UInt8
  | [] => (none, [])
  | c :: rest => (some (if bigEndian then b.toNat * 256 + c.toNat else c.toNat * 256 + b.toNat), rest)

/-- Reading a unit never makes the rest longer. -/
theorem length_readUnit (bigEndian : Bool) (b : UInt8) (rest : List UInt8) :
    (readUnit bigEndian b rest).2.length ≤ rest.length := by
  cases rest <;> simp [readUnit]

/-- Whether a unit is the first half of a pair. -/
def isHighHalf (unit : Nat) : Bool := 0xD800 ≤ unit && unit ≤ 0xDBFF

/-- Whether a unit is the second half of a pair. -/
def isLowHalf (unit : Nat) : Bool := 0xDC00 ≤ unit && unit ≤ 0xDFFF

/-- Reads one scalar of a list of units. A half without its partner is unreadable, also together with a single byte
at the end. -/
def readPair : Option Nat → List (Option Nat) → Char × List (Option Nat)
  | none, rest => (Text.replacement, rest)
  | some unit, rest =>
    if isHighHalf unit then
      match rest with
      | some low :: after =>
        if isLowHalf low then (Char.ofNat (0x10000 + (unit - 0xD800) * 0x400 + (low - 0xDC00)), after)
        else (Text.replacement, rest)
      | none :: after => (Text.replacement, after)
      | [] => (Text.replacement, [])
    else if isLowHalf unit then (Text.replacement, rest)
    else (Char.ofNat unit, rest)

/-- Reading a scalar never makes the rest longer. -/
theorem length_readPair (unit : Option Nat) (rest : List (Option Nat)) :
    (readPair unit rest).2.length ≤ rest.length := by
  unfold readPair
  split
  · simp
  · split
    · split
      · split <;> simp
      · simp
      · simp
    · split <;> simp

/-- The text of units of two bytes. -/
def decodeUtf16 (bigEndian : Bool) (bytes : List UInt8) : List Char :=
  let units : Text.ItemReader UInt8 (Option Nat) := ⟨readUnit bigEndian, length_readUnit bigEndian⟩
  let scalars : Text.ItemReader (Option Nat) Char := ⟨readPair, length_readPair⟩
  scalars.readAll (units.readAll bytes)

/-! ## All encodings -/

/-- The character of a byte, where `high` lists those of the bytes from 80 on. -/
def byteChar (high : Array Char) (b : UInt8) : Char :=
  if b < 0x80 then Char.ofNat b.toNat else high.getD (b.toNat - 0x80) Text.replacement

/-- The text of bytes by a scheme. -/
def Scheme.decode [MultiByteDecoders] (scheme : Scheme) (bytes : List UInt8) : String :=
  match scheme with
  | .utf8 => Text.decodeLossy bytes
  | .utf16 bigEndian => String.ofList (decodeUtf16 bigEndian bytes)
  | .singleByte high => String.ofList (bytes.map (byteChar high.toList.toArray))
  | .userDefined => String.ofList (bytes.map fun b => Char.ofNat (if b < 0x80 then b.toNat else 0xF700 + b.toNat))
  | .nothing => if bytes.isEmpty then "" else String.ofList [Text.replacement]
  | .multiByte encoding => MultiByteDecoders.decode encoding bytes

/-- The encoding for a label, up to ASCII case and surrounding blanks. -/
def ofLabel? [MultiByteDecoders] (label : String) : Option Encoding :=
  (lookup? label).map fun e => ⟨e.name, e.scheme.decode⟩

end Encoding

/-- What stands in for the decoders of a library where none is linked: the ASCII part alone is read. -/
instance MultiByteDecoders.asciiPart : MultiByteDecoders where
  decode _ bytes := String.ofList (bytes.map (Encoding.byteChar #[]))

end WikiGateway
