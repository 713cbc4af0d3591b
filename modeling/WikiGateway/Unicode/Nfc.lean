import Std.Data.HashMap
import WikiGateway.Unicode.CanonicalData
import WikiGateway.Unicode.Packed

/-!
# Normalization Form C

A text is decomposed, the combining marks between two starters are put in the order of their classes, and then what
can be composed is composed again.

* `decompose`: the canonical decomposition, in canonical order.
* `nfc`: Normalization Form C.
* `isQuickNfc`: a sufficient condition for a text to be in that form, checked one character at a time.
-/

namespace WikiGateway.Unicode

/-! ## Data -/

/-- One-character mappings from distances and targets. -/
def singletonsFrom (last : Nat) : List Nat → List (Nat × List Nat)
  | gap :: target :: rest => (last + gap, [target]) :: singletonsFrom (last + gap) rest
  | _ => []

/-- Pairs from distances. -/
def pairsFrom (last : Nat) : List Nat → List (Nat × Nat × Nat)
  | gap :: a :: b :: rest => (last + gap, a, b) :: pairsFrom (last + gap) rest
  | _ => []

/-- Mappings from distances, lengths and targets. -/
def expansionsFrom (last : Nat) : List Nat → List (Nat × List Nat)
  | gap :: size :: rest => (last + gap, rest.take size) :: expansionsFrom (last + gap) (rest.drop size)
  | _ => []
termination_by xs => xs.length
decreasing_by simp only [List.length_cons, List.length_drop]; omega

/-- The mappings of characters that are never the result of a composition. -/
def oneWayMappings : Std.HashMap Nat (List Nat) :=
  .ofList (singletonsFrom 0 (numbers CanonicalData.singletons) ++
    expansionsFrom 0 (numbers CanonicalData.exclusions))

/-- The characters that are composed from a pair, with their pairs. -/
def compositePairs : List (Nat × Nat × Nat) := pairsFrom 0 (numbers CanonicalData.composites)

/-- The pair of a composed character. -/
def pairOf : Std.HashMap Nat (Nat × Nat) := .ofList compositePairs

/-- The character composed from a pair. -/
def composedOf : Std.HashMap (Nat × Nat) Nat := .ofList (compositePairs.map fun (c, a, b) => ((a, b), c))

/-- The characters that stand second in some pair. -/
def secondOfPair : Std.HashMap Nat Unit := .ofList (compositePairs.map fun (_, _, b) => (b, ()))

/-- The canonical combining classes other than zero. -/
def classTable : RangeTable Nat := .ofValuedText CanonicalData.classes

/-- The canonical combining class. -/
def combiningClass (c : Char) : Nat :=
  if c.toNat < 0x300 then 0 else (classTable.find? c.toNat).getD 0

/-! ## Decomposition -/

/-- The parts of a syllable of the Hangul script. -/
def hangulParts? (n : Nat) : Option (List Nat) :=
  if 0xAC00 ≤ n ∧ n < 0xAC00 + 11172 then
    let index := n - 0xAC00
    let lead := 0x1100 + index / 588
    let vowel := 0x1161 + index % 588 / 28
    let trail := 0x11A7 + index % 28
    some (if trail = 0x11A7 then [lead, vowel] else [lead, vowel, trail])
  else none

/-- The full decomposition of a code point; a pair is taken apart at most `depth` times. -/
def decomposeFrom (depth : Nat) (n : Nat) : List Nat :=
  match depth with
  | 0 => [n]
  | depth + 1 =>
    match pairOf[n]? with
    | some (a, b) => decomposeFrom depth a ++ [b]
    | none => (oneWayMappings[n]?).getD [n]

/-- The full decomposition of a character, in which pairs are nested at most three deep. -/
def decomposeChar (c : Char) : List Char :=
  if c.toNat < 0xC0 then [c]
  else ((hangulParts? c.toNat).getD (decomposeFrom 4 c.toNat)).map Char.ofNat

/-- The characters seen so far in canonical order, the last one first, and the marks after the last starter. -/
def orderStep (c : Char) (state : List Char × List Char) : List Char × List Char :=
  if combiningClass c = 0 then ([], c :: (state.1.mergeSort classLe ++ state.2))
  else (c :: state.1, state.2)
where
  /-- Marks are ordered by class. -/
  classLe (a b : Char) : Bool := combiningClass a ≤ combiningClass b

/-- Puts the marks between two starters in the order of their classes; marks of one class keep their order. -/
def canonicalOrder (cs : List Char) : List Char :=
  let state := cs.foldr orderStep ([], [])
  state.1.mergeSort orderStep.classLe ++ state.2

/-- The canonical decomposition of a text. -/
def decompose (cs : List Char) : List Char := canonicalOrder (cs.flatMap decomposeChar)

/-! ## Composition -/

/-- The character composed from two, if there is one. -/
def composePair? (a b : Char) : Option Char :=
  let (m, n) := (a.toNat, b.toNat)
  if 0x1100 ≤ m ∧ m < 0x1113 ∧ 0x1161 ≤ n ∧ n < 0x1176 then
    some (Char.ofNat (0xAC00 + (m - 0x1100) * 588 + (n - 0x1161) * 28))
  else if 0xAC00 ≤ m ∧ m < 0xD7A4 ∧ (m - 0xAC00) % 28 = 0 ∧ 0x11A7 < n ∧ n < 0x11C3 then
    some (Char.ofNat (m + (n - 0x11A7)))
  else (composedOf[(m, n)]?).map Char.ofNat

/-- A composition under way. -/
structure Composition where
  /-- What is finished, the last character first. -/
  done : List Char
  /-- The last starter, with what was composed onto it. -/
  starter : Option Char
  /-- The marks after the starter that were not composed, the last one first. -/
  marks : List Char

namespace Composition

/-- Everything read so far, the last character first. -/
def all (s : Composition) : List Char := s.marks ++ s.starter.toList ++ s.done

/-- Whether a mark after the starter keeps a character of this class from it. -/
def blocks (s : Composition) (cls : Nat) : Bool :=
  match s.marks with
  | [] => false
  | last :: _ => cls ≤ combiningClass last

/-- Reads one more character. -/
def push (s : Composition) (c : Char) : Composition :=
  let cls := combiningClass c
  let composed := if s.blocks cls then none else s.starter.bind fun a => composePair? a c
  match composed with
  | some d => { s with starter := some d }
  | none => if cls = 0 then ⟨s.all, some c, []⟩ else { s with marks := c :: s.marks }

end Composition

/-- Composes a text in canonical order. -/
def compose (cs : List Char) : List Char :=
  (cs.foldl Composition.push ⟨[], none, []⟩).all.reverse

/-- Normalization Form C of a text. -/
def nfc (cs : List Char) : List Char := compose (decompose cs)

/-! ## Quick check -/

/-- Whether a character keeps its form, whatever stands before it. -/
def isStable (c : Char) : Bool :=
  let n := c.toNat
  n < 0x300 || (!oneWayMappings.contains n && !secondOfPair.contains n &&
    !((0x1161 ≤ n && n < 0x1176) || (0x11A7 < n && n < 0x11C3)))

/-- Whether every character is stable and the classes of neighbouring marks ascend, where `last` is the class before. -/
def isQuickNfcFrom (last : Nat) : List Char → Bool
  | [] => true
  | c :: cs =>
    let cls := combiningClass c
    (cls == 0 || last ≤ cls) && isStable c && isQuickNfcFrom cls cs

/-- A sufficient condition for a text to be in Normalization Form C. -/
def isQuickNfc (cs : List Char) : Bool := isQuickNfcFrom 0 cs

end WikiGateway.Unicode
