import WikiGateway.Toml.Text
import WikiGateway.Toml.Value

/-!
# Numbers, dates and times of TOML

Each reader takes a text and gives what it read and the text behind, or nothing.

* `integer?`, `float?`: numbers; digits may be parted by single underscores.
* `moment?`: a date, a time of day or both, brought to a plain form.
-/

namespace WikiGateway.Toml

/-! ## Numbers -/

/-- The digits of a class at the front of a text, where an underscore may stand between two of them. -/
def takeDigits (p : Char → Bool) : List Char → List Char × List Char
  | '_' :: cs => ([], '_' :: cs)
  | c :: '_' :: d :: rest =>
    if p c && p d then
      let (digits, rest) := takeDigits p (d :: rest)
      (c :: digits, rest)
    else if p c then ([c], '_' :: d :: rest)
    else ([], c :: '_' :: d :: rest)
  | c :: rest =>
    if p c then
      let (digits, rest) := takeDigits p rest
      (c :: digits, rest)
    else ([], c :: rest)
  | [] => ([], [])
termination_by cs => cs.length

/-- The digits of a class, of which there is at least one. -/
def digits? (p : Char → Bool) (cs : List Char) : Option (List Char × List Char) :=
  let (digits, rest) := takeDigits p cs
  if digits.isEmpty then none else some (digits, rest)

/-- Whether a number is negative, and the text behind its sign. -/
def takeSign : List Char → Bool × List Char
  | '-' :: rest => (true, rest)
  | '+' :: rest => (false, rest)
  | cs => (false, cs)

/-- The digits of a decimal integer, which has no zero in front. -/
def wholeDigits? : List Char → Option (List Char × List Char)
  | '0' :: rest => some (['0'], rest)
  | cs => digits? Char.isDigit cs

/-- An integer of the range of 64 bits. -/
def inRange? (n : Int) (rest : List Char) : Option (Toml × List Char) :=
  if minInt64 ≤ n ∧ n ≤ maxInt64 then some (.integer n, rest) else none

/-- A natural number in some base. -/
def based? (base : Nat) (p : Char → Bool) (cs : List Char) : Option (Toml × List Char) :=
  match digits? p cs with
  | none => none
  | some (digits, rest) =>
    inRange? (digits.foldl (fun n c => n * base + (Text.hexValue? c).getD 0) 0 : Nat) rest

/-- An integer. -/
def integer? (cs : List Char) : Option (Toml × List Char) :=
  match cs with
  | '0' :: 'x' :: rest => based? 16 Text.isHexDigit rest
  | '0' :: 'o' :: rest => based? 8 (fun c => '0' ≤ c && c ≤ '7') rest
  | '0' :: 'b' :: rest => based? 2 (fun c => c == '0' || c == '1') rest
  | _ =>
    let (negative, rest) := takeSign cs
    match wholeDigits? rest with
    | none => none
    | some (digits, rest) =>
      let n : Int := Text.digitsValue digits
      inRange? (if negative then -n else n) rest

/-- The digits of a fraction, if a point stands in front. -/
def fraction? : List Char → Option (List Char × List Char)
  | '.' :: rest => digits? Char.isDigit rest
  | _ => none

/-- The value of an exponent, if its letter stands in front. -/
def exponent? : List Char → Option (Int × List Char)
  | c :: rest =>
    if c == 'e' || c == 'E' then
      let (negative, rest) := takeSign rest
      (digits? Char.isDigit rest).map fun (digits, rest) =>
        let n : Int := Text.digitsValue digits
        (if negative then -n else n, rest)
    else none
  | [] => none

/-- The number of a decimal, unless it is too great. -/
def decimal? (negative : Bool) (whole fraction : List Char) (exponent : Int) (rest : List Char) :
    Option (Toml × List Char) :=
  let digits := Text.digitsValue (whole ++ fraction)
  let x := Binary64.ofDecimal negative digits digits.repr.length (exponent - fraction.length)
  if x = .infinite false then none else some (.float x, rest)

/-- A number that is infinite or none, after its sign. The latter has no value of its own here. -/
def special? (negative : Bool) : List Char → Option (Toml × List Char)
  | 'i' :: 'n' :: 'f' :: rest => some (.float (.infinite negative), rest)
  | 'n' :: 'a' :: 'n' :: rest => some (.float (.infinite negative), rest)
  | _ => none

/-- A number with a fraction or an exponent or both, or a special one. -/
def float? (cs : List Char) : Option (Toml × List Char) :=
  let (negative, rest) := takeSign cs
  match wholeDigits? rest with
  | none => special? negative rest
  | some (whole, rest) =>
    match fraction? rest with
    | none => (exponent? rest).bind fun (exponent, rest) => decimal? negative whole [] exponent rest
    | some (fraction, rest) =>
      match exponent? rest with
      | none => decimal? negative whole fraction 0 rest
      | some (exponent, rest) => decimal? negative whole fraction exponent rest

/-! ## Dates and times -/

/-- A number of exactly `count` digits within bounds. -/
def fixed? (count least greatest : Nat) (cs : List Char) : Option (Nat × List Char) :=
  let digits := cs.take count
  let n := Text.digitsValue digits
  if digits.length = count ∧ digits.all Char.isDigit ∧ least ≤ n ∧ n ≤ greatest then some (n, cs.drop count) else none

/-- The text behind a character. -/
def after? (c : Char) : List Char → Option (List Char)
  | d :: rest => if d = c then some rest else none
  | [] => none

/-- A number of at least `count` digits with zeros in front. -/
def padded (count n : Nat) : String :=
  let digits := n.repr
  String.ofList (List.replicate (count - digits.length) '0') ++ digits

/-- The number of days of a month. -/
def daysOf (year month : Nat) : Nat :=
  if month = 2 then (if year % 4 = 0 ∧ (year % 100 ≠ 0 ∨ year % 400 = 0) then 29 else 28)
  else if [4, 6, 9, 11].contains month then 30
  else 31

/-- A date. -/
def date? (cs : List Char) : Option (String × List Char) := do
  let (year, rest) ← fixed? 4 0 9999 cs
  let rest ← after? '-' rest
  let (month, rest) ← fixed? 2 1 12 rest
  let rest ← after? '-' rest
  let (day, rest) ← fixed? 2 1 (daysOf year month) rest
  return (padded 4 year ++ "-" ++ padded 2 month ++ "-" ++ padded 2 day, rest)

/-- The fraction of a second with its point, to nine places and without zeros at the end. -/
def secondFraction : List Char → Option (String × List Char)
  | '.' :: rest =>
    let digits := rest.takeWhile Char.isDigit
    if digits.isEmpty then none
    else
      let kept := Text.trimEnd (· == '0') (digits.take 9)
      some (if kept.isEmpty then "" else "." ++ String.ofList kept, rest.dropWhile Char.isDigit)
  | cs => some ("", cs)

/-- A time of day. -/
def clock? (cs : List Char) : Option (String × List Char) := do
  let (hour, rest) ← fixed? 2 0 23 cs
  let rest ← after? ':' rest
  let (minute, rest) ← fixed? 2 0 59 rest
  let rest ← after? ':' rest
  let (second, rest) ← fixed? 2 0 60 rest
  let (fraction, rest) ← secondFraction rest
  return (padded 2 hour ++ ":" ++ padded 2 minute ++ ":" ++ padded 2 second ++ fraction, rest)

/-- The distance of a time zone; that of no minutes is positive. -/
def zone? : List Char → Option (String × List Char)
  | 'Z' :: rest | 'z' :: rest => some ("Z", rest)
  | sign :: rest =>
    if sign == '+' || sign == '-' then do
      let (hour, rest) ← fixed? 2 0 23 rest
      let rest ← after? ':' rest
      let (minute, rest) ← fixed? 2 0 59 rest
      let mark := if sign = '-' ∧ 0 < hour + minute then "-" else "+"
      return (mark ++ padded 2 hour ++ ":" ++ padded 2 minute, rest)
    else none
  | [] => none

/-- A time of day behind a date, with an optional zone. -/
def clockAfterDate? : List Char → Option (String × List Char)
  | c :: rest =>
    if c == 'T' || c == 't' || c == ' ' then
      (clock? rest).map fun (clock, rest) =>
        match zone? rest with
        | some (zone, rest) => ("T" ++ clock ++ zone, rest)
        | none => ("T" ++ clock, rest)
    else none
  | [] => none

/-- A date, a time of day or both. -/
def moment? (cs : List Char) : Option (Toml × List Char) :=
  match date? cs with
  | some (date, rest) =>
    match clockAfterDate? rest with
    | some (clock, rest) => some (.moment (date ++ clock), rest)
    | none => some (.moment date, rest)
  | none => (clock? cs).map fun (clock, rest) => (.moment clock, rest)

end WikiGateway.Toml
