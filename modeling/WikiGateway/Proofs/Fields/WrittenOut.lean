import WikiGateway.Fields.Form
import WikiGateway.Proofs.Text.Percent

/-!
# Bytes of a form that are written out

A byte that is no mark of forms and no digit may stand in a form as itself or as a percent sign and two digits. What is
decoded is the same, wherever the byte stands and whatever stands around it (`percentDecode_writtenOut`), and so are the
fields of the form.

* `readPercent_append`: what is read in front of a byte that is no digit does not hang on it.
* `DecodesAlike.parseForm_eq`: texts between the marks that decode alike give the same fields.
* `decodesAlike_writtenOut`: a byte and what is written for it are such texts.
-/

namespace WikiGateway

namespace Text

/-! ## What is decoded -/

theorem percentDecode_cons (b : UInt8) (rest : List UInt8) :
    percentDecode (b :: rest) = (readPercent b rest).1 :: percentDecode (readPercent b rest).2 := by
  rw [percentDecode, percentReader.readAll_cons]
  rfl

/-- The digits behind a percent sign end at a byte that is none. -/
theorem readPercent_append (b : UInt8) (before : List UInt8) : ∃ read more, more.length ≤ before.length ∧
    ∀ next after, byteHexValue? next = none →
      readPercent b (before ++ next :: after) = (read, more ++ next :: after) := by
  by_cases hb : b = 0x25
  · subst hb
    match before with
    | [] =>
      refine ⟨0x25, [], Nat.le_refl _, fun next after hnext => ?_⟩
      cases after <;> simp [readPercent, hnext]
    | [high] =>
      refine ⟨0x25, [high], Nat.le_refl _, fun next after hnext => ?_⟩
      cases hhigh : byteHexValue? high <;> simp [readPercent, hnext]
    | high :: low :: more =>
      cases hhigh : byteHexValue? high with
      | none => exact ⟨0x25, high :: low :: more, Nat.le_refl _, by simp [readPercent, hhigh]⟩
      | some h =>
        cases hlow : byteHexValue? low with
        | none => exact ⟨0x25, high :: low :: more, Nat.le_refl _, by simp [readPercent, hlow]⟩
        | some l => exact ⟨UInt8.ofNat (h * 16 + l), more, by simp; omega, by simp [readPercent, hhigh, hlow]⟩
  · exact ⟨b, before, Nat.le_refl _, by simp [readPercent, hb]⟩

/-- The three bytes that are written for one. -/
def writtenOut (b : UInt8) : List UInt8 := [0x25, hexByte (b.toNat / 16), hexByte (b.toNat % 16)]

/-- A byte that is no digit and no percent sign may be written out. -/
theorem percentDecode_writtenOut {b : UInt8} (hdigit : byteHexValue? b = none) (hpercent : b ≠ 0x25)
    (after : List UInt8) : ∀ before : List UInt8,
      percentDecode (before ++ (writtenOut b ++ after)) = percentDecode (before ++ ([b] ++ after))
  | [] => by
    have hlt := b.toNat_lt
    have hvalue : b.toNat / 16 * 16 + b.toNat % 16 = b.toNat := by omega
    show percentDecode (0x25 :: hexByte (b.toNat / 16) :: hexByte (b.toNat % 16) :: after) = percentDecode (b :: after)
    rw [percentDecode_percent (by omega) (by omega), hvalue, UInt8.ofNat_toNat, percentDecode_cons_other hpercent]
  | first :: before => by
    obtain ⟨read, more, hlength, hread⟩ := readPercent_append first before
    have hout := hread 0x25 (hexByte (b.toNat / 16) :: hexByte (b.toNat % 16) :: after) (by decide)
    have hself := hread b after hdigit
    show percentDecode (first :: (before ++ 0x25 :: hexByte (b.toNat / 16) :: hexByte (b.toNat % 16) :: after)) =
      percentDecode (first :: (before ++ b :: after))
    rw [percentDecode_cons, percentDecode_cons, hout, hself]
    exact congrArg (read :: ·) (percentDecode_writtenOut hdigit hpercent after more)
termination_by before => before.length
decreasing_by exact Nat.lt_succ_of_le hlength

end Text

/-! ## Forms around a text -/

section
variable {legacy : Option Encoding}

/-- The item of a pair hangs on what is decoded of its two sides. -/
theorem formItem?_of_cut {pair key value : List UInt8} (hne : pair ≠ [])
    (hcut : (Text.cut? (· == 0x3D) pair).getD (pair, []) = (key, value)) : formItem? legacy pair =
      (fieldName? (Text.decodeLossy (formDecode key)).toList).map fun (name, isListItem) =>
        ⟨name, isListItem, fieldText legacy (formDecode value)⟩ := by
  rw [formItem?, if_neg (by simpa using hne), hcut]

/-- The items on either side of an ampersand. -/
theorem formItems_append_ampersand (before after : List UInt8) :
    formItems legacy (before ++ 0x26 :: after) = formItems legacy before ++ formItems legacy after := by
  rw [formItems, formItems, formItems, Text.splitOn_eq, Text.splitOn_eq, Text.splitOn_eq,
    List.splitOn_append_cons_self, List.filterMap_append]

/-- A form without ampersands has one pair. -/
theorem formItems_of_not_mem {bytes : List UInt8} (h : 0x26 ∉ bytes) :
    formItems legacy bytes = (formItem? legacy bytes).toList := by
  rw [formItems, Text.splitOn_eq, List.splitOn_eq_singleton h]
  cases hitem : formItem? legacy bytes <;> simp [hitem]

end

/-- Two texts between the marks of a form that decode alike, whatever stands around them. -/
structure DecodesAlike (text other : List UInt8) : Prop where
  nonempty : text ≠ [] ∧ other ≠ []
  noAmpersand : 0x26 ∉ text ∧ 0x26 ∉ other
  noEquals : 0x3D ∉ text ∧ 0x3D ∉ other
  decode : ∀ before after, formDecode (before ++ (text ++ after)) = formDecode (before ++ (other ++ after))

namespace DecodesAlike

variable {text other : List UInt8} (h : DecodesAlike text other) (legacy : Option Encoding)
include h

/-- In a pair, one may stand in the place of the other. -/
theorem formItem?_eq (before after : List UInt8) :
    formItem? legacy (before ++ (text ++ after)) = formItem? legacy (before ++ (other ++ after)) := by
  have hne : before ++ (text ++ after) ≠ [] := by simp [h.nonempty.1]
  have hne' : before ++ (other ++ after) ≠ [] := by simp [h.nonempty.2]
  by_cases hbefore : 0x3D ∈ before
  · -- the text stands in the value
    obtain ⟨key, value, rfl, hkey⟩ := List.eq_append_cons_of_mem hbefore
    have hcut : ∀ rest, (Text.cut? (· == 0x3D) (key ++ 0x3D :: value ++ rest)).getD (key ++ 0x3D :: value ++ rest, []) =
        (key, value ++ rest) := fun rest => by
      rw [List.append_assoc, List.cons_append, Text.cut?_append_cons_self hkey, Option.getD_some]
    rw [formItem?_of_cut hne (hcut _), formItem?_of_cut hne' (hcut _), h.decode]
  by_cases hafter : 0x3D ∈ after
  · -- the text stands in the key
    obtain ⟨key, value, rfl, hkey⟩ := List.eq_append_cons_of_mem hafter
    have hcut : ∀ middle, 0x3D ∉ middle → (Text.cut? (· == 0x3D) (before ++ (middle ++ (key ++ 0x3D :: value)))).getD
        (before ++ (middle ++ (key ++ 0x3D :: value)), []) = (before ++ (middle ++ key), value) := by
      intro middle hmiddle
      have hsplit : before ++ (middle ++ (key ++ 0x3D :: value)) = (before ++ (middle ++ key)) ++ 0x3D :: value := by
        simp only [List.append_assoc]
      rw [hsplit, Text.cut?_append_cons_self (by simp [hbefore, hmiddle, hkey]), Option.getD_some]
    rw [formItem?_of_cut hne (hcut _ h.noEquals.1), formItem?_of_cut hne' (hcut _ h.noEquals.2), h.decode]
  · -- the text stands in a key without a value
    have hcut : ∀ middle, 0x3D ∉ middle → (Text.cut? (· == 0x3D) (before ++ (middle ++ after))).getD
        (before ++ (middle ++ after), []) = (before ++ (middle ++ after), []) := by
      intro middle hmiddle
      rw [Text.cut?_eq_none_of_not_mem (by simp [hbefore, hmiddle, hafter]), Option.getD_none]
    rw [formItem?_of_cut hne (hcut _ h.noEquals.1), formItem?_of_cut hne' (hcut _ h.noEquals.2), h.decode]

/-- In a form, one may stand in the place of the other. -/
theorem formItems_eq (before after : List UInt8) :
    formItems legacy (before ++ (text ++ after)) = formItems legacy (before ++ (other ++ after)) := by
  induction hn : before.length using Nat.strong_induction_on generalizing before with
  | h n ih =>
    subst hn
    by_cases hbefore : 0x26 ∈ before
    · obtain ⟨front, back, rfl, -⟩ := List.eq_append_cons_of_mem hbefore
      have hlt : back.length < (front ++ 0x26 :: back).length := by simp; omega
      rw [List.append_assoc, List.cons_append, formItems_append_ampersand, ih _ hlt back rfl, List.append_assoc,
        List.cons_append, formItems_append_ampersand]
    · have hpair : ∀ rest, 0x26 ∉ rest →
          formItems legacy (before ++ (text ++ rest)) = formItems legacy (before ++ (other ++ rest)) := by
        intro rest hrest
        rw [formItems_of_not_mem (by simp [hbefore, h.noAmpersand.1, hrest]),
          formItems_of_not_mem (by simp [hbefore, h.noAmpersand.2, hrest]), h.formItem?_eq]
      by_cases hafter : 0x26 ∈ after
      · obtain ⟨front, back, rfl, hfront⟩ := List.eq_append_cons_of_mem hafter
        have hsplit : ∀ middle : List UInt8, before ++ (middle ++ (front ++ 0x26 :: back)) =
            (before ++ (middle ++ front)) ++ 0x26 :: back := fun middle => by simp only [List.append_assoc]
        rw [hsplit, hsplit, formItems_append_ampersand, formItems_append_ampersand, hpair front hfront]
      · exact hpair after hafter

/-- So the fields of the form are the same. -/
theorem parseForm_eq (before after : List UInt8) :
    parseForm legacy (before ++ (text ++ after)) = parseForm legacy (before ++ (other ++ after)) := by
  rw [parseForm, h.formItems_eq, parseForm]

end DecodesAlike

/-! ## Bytes that are written out -/

/-- A byte that is no mark of forms and no digit may be written out. -/
theorem decodesAlike_writtenOut {b : UInt8} (hdigit : Text.byteHexValue? b = none)
    (hmarks : b ≠ 0x25 ∧ b ≠ 0x26 ∧ b ≠ 0x2B ∧ b ≠ 0x3D) : DecodesAlike (Text.writtenOut b) [b] := by
  have hlt := b.toNat_lt
  have hbytes : ∀ mark : UInt8, mark ≠ 0x25 → Text.isAlphanumericByte mark = false → mark ∉ Text.writtenOut b := by
    intro mark hpercent hletter hmem
    have hhigh := Text.isAlphanumericByte_hexByte (b.toNat / 16) (by omega)
    have hlow := Text.isAlphanumericByte_hexByte (b.toNat % 16) (by omega)
    simp only [Text.writtenOut, List.mem_cons, List.not_mem_nil, or_false] at hmem
    rcases hmem with rfl | rfl | rfl <;> simp_all
  refine ⟨⟨List.cons_ne_nil _ _, List.cons_ne_nil _ _⟩, ⟨hbytes 0x26 (by decide) (by decide), ?_⟩,
    ⟨hbytes 0x3D (by decide) (by decide), ?_⟩, fun before after => ?_⟩
  · simpa using hmarks.2.1.symm
  · simpa using hmarks.2.2.2.symm
  · have hplus : ∀ {bytes : List UInt8}, 0x2B ∉ bytes → Text.replaceEach (· == 0x2B) 0x20 bytes = bytes := by
      intro bytes hbytes
      refine (List.map_congr_left fun c hc => ?_).trans (List.map_id' bytes)
      exact if_neg (by simpa using ne_of_mem_of_not_mem hc hbytes)
    have hreplace : ∀ middle : List UInt8, 0x2B ∉ middle →
        Text.replaceEach (· == 0x2B) 0x20 (before ++ (middle ++ after)) =
          Text.replaceEach (· == 0x2B) 0x20 before ++ (middle ++ Text.replaceEach (· == 0x2B) 0x20 after) := by
      intro middle hmiddle
      rw [Text.replaceEach, List.map_append, List.map_append, ← Text.replaceEach, ← Text.replaceEach,
        ← Text.replaceEach, hplus hmiddle]
    rw [formDecode, formDecode, hreplace _ (hbytes 0x2B (by decide) (by decide)),
      hreplace [b] (by simpa using hmarks.2.2.1.symm), Text.percentDecode_writtenOut hdigit hmarks.1]

end WikiGateway
