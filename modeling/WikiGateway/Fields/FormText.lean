import WikiGateway.Fields.Map
import WikiGateway.Text.Percent

/-!
# Writing forms

Fields as the text of a query: pairs joined by ampersands, in which letters, digits and four marks stand for
themselves, a plus stands for a space, and all else is percent-encoded.

* `formEncode`: a name or a value.
* `forall_mem_formEncode`: what holds of the characters of every byte holds of all that is written.
* `FieldMap.formText`: the fields of a map, where the items of a list are numbered.
-/

namespace WikiGateway

/-- A byte that stands for itself in a form. -/
def isFormByte (b : UInt8) : Bool :=
  Text.isAlphanumericByte b || b == 0x2A || b == 0x2D || b == 0x2E || b == 0x5F

/-- A byte of a name or a value. -/
def formEncodeByte (b : UInt8) : List Char :=
  if b = 0x20 then ['+'] else Text.percentEncodeByte isFormByte b

/-- A name or a value as it is written in a form. -/
def formEncode (s : String) : String := String.ofList ((Text.encode s).flatMap formEncodeByte)

/-- What holds of the characters that are written for every byte holds of those of a text. -/
theorem forall_mem_formEncode {p : Char → Prop} [DecidablePred p]
    (h : ∀ n < 256, (formEncodeByte (UInt8.ofNat n)).all (decide <| p ·) = true) (s : String) :
    ∀ c ∈ (formEncode s).toList, p c := by
  intro c hc
  rw [formEncode, String.toList_ofList, List.mem_flatMap] at hc
  obtain ⟨b, -, hc⟩ := hc
  have hbyte := h b.toNat b.toNat_lt
  rw [UInt8.ofNat_toNat] at hbyte
  exact of_decide_eq_true (List.all_eq_true.mp hbyte c hc)

/-- A pair of a name and a value. -/
def formPair (name value : String) : String := formEncode name ++ "=" ++ formEncode value

/-- The items of a list from some number on, each with its number behind the name. -/
def numberedPairs (name : String) (number : Nat) : List String → List String
  | [] => []
  | item :: rest => formPair (name ++ "[" ++ number.repr ++ "]") item :: numberedPairs name (number + 1) rest

/-- The pairs of a field. -/
def FieldValue.formPairs (name : String) : FieldValue → List String
  | scalar text => [formPair name text]
  | list items => numberedPairs name 0 items

/-- The fields of a map as the text of a query. -/
def FieldMap.formText (m : FieldMap) : String :=
  String.intercalate "&" (m.toList.flatMap fun (name, value) => value.formPairs name)

end WikiGateway
