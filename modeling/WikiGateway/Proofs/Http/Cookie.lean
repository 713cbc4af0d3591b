import Mathlib.Data.List.Basic
import WikiGateway.Http.Cookie
import WikiGateway.Http.Message

/-!
# Cookies can be sent

The value of a cookie is written as in a form, without control characters. So the field that sets a cookie has none
either, unless one stands in the name or in an attribute, and can be sent (`isFieldValue_fieldValue`).
-/

namespace WikiGateway

/-- A text without control characters of ASCII. -/
def NoControls (s : String) : Prop := ∀ c ∈ s.toList, 0x20 ≤ c.toNat ∧ c.toNat ≠ 0x7F

instance : DecidablePred NoControls := fun s => List.decidableBAll _ s.toList

namespace NoControls

theorem isFieldValue {s : String} (h : NoControls s) : isFieldValue s = true := by
  refine List.all_eq_true.mpr fun c hc => ?_
  obtain ⟨hle, hne⟩ := h c hc
  simp [hle, hne]

theorem append {s t : String} (hs : NoControls s) (ht : NoControls t) : NoControls (s ++ t) := by
  intro c hc
  rw [String.toList_append] at hc
  exact (List.mem_append.mp hc).elim (hs c) (ht c)

theorem intercalate {separator : String} (hseparator : NoControls separator) : ∀ {texts : List String},
    (∀ text ∈ texts, NoControls text) → NoControls (String.intercalate separator texts)
  | [], _ => by simp [NoControls]
  | [text], h => by simpa using h
  | text :: next :: texts, h => by
    rw [String.intercalate_cons_cons]
    have hrest : NoControls (String.intercalate separator (next :: texts)) :=
      intercalate hseparator fun other hother => h other (List.mem_cons_of_mem _ hother)
    exact ((h text List.mem_cons_self).append hseparator).append hrest

theorem repr (n : Nat) : NoControls n.repr := by
  intro c hc
  rw [Nat.toList_repr] at hc
  have hdigit := Nat.isDigit_of_mem_toDigits (by decide) (by decide) hc
  simp only [Char.isDigit, ge_iff_le, Bool.and_eq_true, decide_eq_true_eq, UInt32.le_iff_toNat_le] at hdigit
  have hval : c.toNat = c.val.toNat := rfl
  have hzero : '0'.val.toNat = 48 := rfl
  have hnine : '9'.val.toNat = 57 := rfl
  omega

/-- What is written of a text in a form. -/
theorem formEncode (s : String) : NoControls (formEncode s) :=
  forall_mem_formEncode (by decide +kernel) s

end NoControls

namespace CookieOptions

variable {options : CookieOptions}

theorem noControls_attributes (hpath : NoControls options.path) (hdomain : NoControls options.domain) :
    ∀ part ∈ options.attributes, NoControls part := by
  have hwords : ∀ word ∈ ["Max-Age=", "Path=", "Domain=", "Secure", "HttpOnly"], NoControls word := by decide
  intro part h
  simp only [attributes, List.mem_append, List.mem_map, Option.mem_toList, List.mem_ite_nil_left,
    List.mem_ite_nil_right, List.mem_singleton] at h
  rcases h with (((⟨age, -, rfl⟩ | ⟨-, rfl⟩) | ⟨-, rfl⟩) | ⟨-, rfl⟩) | ⟨-, rfl⟩
  · exact (hwords "Max-Age=" (by decide)).append (.repr _)
  · exact (hwords "Path=" (by decide)).append hpath
  · exact (hwords "Domain=" (by decide)).append hdomain
  · exact hwords "Secure" (by decide)
  · exact hwords "HttpOnly" (by decide)

/-- The field that sets a cookie can be sent. -/
theorem isFieldValue_fieldValue {name : String} (hname : NoControls (options.fullName name))
    (hpath : NoControls options.path) (hdomain : NoControls options.domain) (value : String) :
    isFieldValue (options.fieldValue name value) = true := by
  have hmarks : NoControls "=" ∧ NoControls "; " := by decide
  refine NoControls.isFieldValue (hmarks.2.intercalate fun text htext => ?_)
  rcases List.mem_cons.mp htext with rfl | htext
  · exact (hname.append hmarks.1).append (.formEncode value)
  · exact noControls_attributes hpath hdomain text htext

end CookieOptions

end WikiGateway
