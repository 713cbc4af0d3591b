import Std.Data.HashMap
import WikiGateway.Unicode.FoldData
import WikiGateway.Unicode.Packed

/-!
# Case folding

Letters that differ in case alone fold to the same character.

* `fold`: the simple case folding of a character.
* `caseVariants`: every character that folds to the same as a given one.
-/

namespace WikiGateway.Unicode

/-- The pairs of letters and their foldings, where `last` is the start of the run before. -/
def foldingsFrom (last : Nat) : List Nat → List (Nat × Nat)
  | gap :: count :: stride :: target :: rest =>
    ((List.range count).map fun i => (last + gap + i * stride, target + i * stride)) ++
      foldingsFrom (last + gap) rest
  | _ => []

/-- Every letter that folds to another character, with that character. -/
def foldings : List (Nat × Nat) := foldingsFrom 0 (numbers FoldData.runs)

/-- The folding of each letter that has one. -/
def foldingOf : Std.HashMap Nat Nat := .ofList foldings

/-- The letters that fold to each character. -/
def unfoldingsOf : Std.HashMap Nat (List Nat) :=
  foldings.foldl (fun m (c, target) => m.insert target (c :: m.getD target [])) ∅

/-- The simple case folding of a character. -/
def fold (c : Char) : Char := Char.ofNat (foldingOf.getD c.toNat c.toNat)

/-- Every character that folds to the same as a given one, that one included. -/
def caseVariants (c : Char) : List Char :=
  let folded := fold c
  folded :: (unfoldingsOf.getD folded.toNat []).map Char.ofNat

end WikiGateway.Unicode
