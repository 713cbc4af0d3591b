import Mathlib.Tactic.IntervalCases
import WikiGateway.Text.Utf8

/-!
# Texts read back from their bytes

The bytes of a text are those of its characters (`encode_eq_flatMap`), each of which is read back by one step of the
reader, whatever follows (`scalars_utf8EncodeChar_append`).

* `decode?_encode`: the bytes of a text are valid and give the text back.
* `decodeLossy_encode`: so do they when invalid bytes would be let through.
* `exists_byte_of_mem_decodeLossy`: every character of ASCII in the lossy reading is one of the bytes.
* `exists_char_of_mem_encode`: every byte of ASCII is one of the characters.
* `decodeLossy_eq_empty_iff`: only where there are no bytes, nothing is read.
-/

namespace WikiGateway.Text

namespace Utf8

/-! ## Lead bytes -/

theorem following?_of_two {n : Nat} (h : 2 ≤ n) (h' : n < 32) :
    following? (UInt8.ofNat (n + 0xC0)) = some (0x80, 0xBF, 1) := by
  interval_cases n <;> rfl

theorem following?_of_three : ∀ n < 16, following? (UInt8.ofNat (n + 0xE0)) =
    some (if n = 0 then 0xA0 else 0x80, if n = 13 then 0x9F else 0xBF, 2) := by
  decide

theorem following?_of_four : ∀ n < 5, following? (UInt8.ofNat (n + 0xF0)) =
    some (if n = 0 then 0x90 else 0x80, if n = 4 then 0x8F else 0xBF, 3) := by
  decide

/-! ## One scalar -/

theorem toNat_byte {n : Nat} (h : n < 0x100) : (UInt8.ofNat n).toNat = n := by
  rw [UInt8.toNat_ofNat', Nat.mod_eq_of_lt h]

/-- A following byte in its range adds its six bits. -/
theorem readFollowing_cons {lo hi : UInt8} {k : Nat} (hlo : lo.toNat ≤ k + 0x80) (hhi : k + 0x80 ≤ hi.toNat)
    (count n : Nat) (rest : List UInt8) :
    readFollowing lo hi (count + 1) n (UInt8.ofNat (k + 0x80) :: rest) =
      readFollowing 0x80 0xBF count (n * 64 + k) rest := by
  have hbyte : (UInt8.ofNat (k + 0x80)).toNat = k + 0x80 := toNat_byte (Nat.lt_of_le_of_lt hhi hi.toNat_lt)
  have hrange : lo ≤ UInt8.ofNat (k + 0x80) ∧ UInt8.ofNat (k + 0x80) ≤ hi := by
    rw [UInt8.le_iff_toNat_le, UInt8.le_iff_toNat_le, hbyte]
    exact ⟨hlo, hhi⟩
  rw [readFollowing, if_pos hrange, hbyte, Nat.add_sub_cancel]

/-- A byte that starts a scalar of several bytes. -/
theorem readScalar_of_lead {n : Nat} (h : 0x80 ≤ n) (h' : n < 0x100) {lo hi : UInt8} {count : Nat}
    (hfollowing : following? (UInt8.ofNat n) = some (lo, hi, count)) {rest after : List UInt8} {value : Nat}
    (hvalue : readFollowing lo hi count (n % (64 >>> count)) rest = (some value, after)) :
    readScalar (UInt8.ofNat n) rest = (some (Char.ofNat value), after) := by
  have hhigh : ¬ UInt8.ofNat n < 0x80 := by
    rw [UInt8.lt_iff_toNat_lt, toNat_byte h']
    exact Nat.not_lt.mpr h
  rw [readScalar, if_neg hhigh, hfollowing, toNat_byte h']
  dsimp only
  rw [hvalue]
  rfl

theorem readScalar_one {v : Nat} (h : v ≤ 0x7F) (rest : List UInt8) :
    readScalar (UInt8.ofNat v) rest = (some (Char.ofNat v), rest) := by
  have hbyte : (UInt8.ofNat v).toNat = v := toNat_byte (by omega)
  have hlow : UInt8.ofNat v < 0x80 := by
    rw [UInt8.lt_iff_toNat_lt, hbyte]
    exact Nat.lt_succ_of_le h
  rw [readScalar, if_pos hlow, hbyte]

theorem readScalar_two {v : Nat} (h : 0x7F < v) (h' : v ≤ 0x7FF) (rest : List UInt8) :
    readScalar (UInt8.ofNat (v / 64 % 0x20 + 0xC0)) (UInt8.ofNat (v % 0x40 + 0x80) :: rest) =
      (some (Char.ofNat v), rest) := by
  refine readScalar_of_lead (by omega) (by omega) (following?_of_two (by omega) (by omega)) ?_
  rw [readFollowing_cons (by simp) (by simp; omega)]
  have hvalue : (v / 64 % 0x20 + 0xC0) % (64 >>> 1) * 64 + v % 0x40 = v := by
    simp only [Nat.shiftRight_eq_div_pow]
    omega
  rw [readFollowing, hvalue]

theorem readScalar_three {v : Nat} (h : 0x7FF < v) (h' : v ≤ 0xFFFF) (hv : v < 0xD800 ∨ 0xDFFF < v)
    (rest : List UInt8) :
    readScalar (UInt8.ofNat (v / 4096 % 0x10 + 0xE0))
      (UInt8.ofNat (v / 64 % 0x40 + 0x80) :: UInt8.ofNat (v % 0x40 + 0x80) :: rest) = (some (Char.ofNat v), rest) := by
  refine readScalar_of_lead (by omega) (by omega) (following?_of_three _ (by omega)) ?_
  rw [readFollowing_cons (by split <;> simp; omega) (by split <;> simp <;> omega),
    readFollowing_cons (by simp) (by simp; omega)]
  have hvalue : ((v / 4096 % 0x10 + 0xE0) % (64 >>> 2) * 64 + v / 64 % 0x40) * 64 + v % 0x40 = v := by
    simp only [Nat.shiftRight_eq_div_pow]
    omega
  rw [readFollowing, hvalue]

theorem readScalar_four {v : Nat} (h : 0xFFFF < v) (h' : v < 0x110000) (rest : List UInt8) :
    readScalar (UInt8.ofNat (v / 262144 % 0x08 + 0xF0))
      (UInt8.ofNat (v / 4096 % 0x40 + 0x80) :: UInt8.ofNat (v / 64 % 0x40 + 0x80) :: UInt8.ofNat (v % 0x40 + 0x80) ::
        rest) = (some (Char.ofNat v), rest) := by
  refine readScalar_of_lead (by omega) (by omega) (following?_of_four _ (by omega)) ?_
  rw [readFollowing_cons (by split <;> simp; omega) (by split <;> simp <;> omega),
    readFollowing_cons (by simp) (by simp; omega), readFollowing_cons (by simp) (by simp; omega)]
  have hvalue : (((v / 262144 % 0x08 + 0xF0) % (64 >>> 3) * 64 + v / 4096 % 0x40) * 64 + v / 64 % 0x40) * 64 +
      v % 0x40 = v := by
    simp only [Nat.shiftRight_eq_div_pow]
    omega
  rw [readFollowing, hvalue]

/-! ## All scalars -/

theorem scalars_cons {lead : UInt8} {rest after : List UInt8} {c : Option Char}
    (h : readScalar lead rest = (c, after)) : scalars (lead :: rest) = c :: scalars after := by
  have hread : scalarReader.read lead rest = (c, after) := h
  rw [scalars, scalarReader.readAll_cons, hread]
  rfl

/-- The bytes of a character are read as this character. -/
theorem scalars_utf8EncodeChar_append (c : Char) (rest : List UInt8) :
    scalars (String.utf8EncodeChar c ++ rest) = some c :: scalars rest := by
  have hvalid : c.val.toNat < 0xD800 ∨ 0xDFFF < c.val.toNat ∧ c.val.toNat < 0x110000 := c.valid
  have hchar : Char.ofNat c.val.toNat = c := Char.ofNat_toNat c
  unfold String.utf8EncodeChar
  generalize c.val.toNat = v at hvalid hchar
  obtain rfl := hchar
  dsimp only
  split
  next h1 => exact scalars_cons (readScalar_one h1 rest)
  next h1 =>
    split
    next h2 => exact scalars_cons (readScalar_two (by omega) h2 rest)
    next h2 =>
      split
      next h3 => exact scalars_cons (readScalar_three (by omega) h3 (by omega) rest)
      next h3 => exact scalars_cons (readScalar_four (by omega) (by omega) rest)

/-- The bytes of characters are read as these characters. -/
theorem scalars_flatMap_utf8EncodeChar : ∀ s : List Char,
    scalars (s.flatMap String.utf8EncodeChar) = s.map some
  | [] => scalarReader.readAll_nil
  | c :: s => by
    rw [List.flatMap_cons, scalars_utf8EncodeChar_append, scalars_flatMap_utf8EncodeChar s, List.map_cons]

/-! ## What is read of any bytes -/

/-- The bytes that follow hold the low bits of the value. -/
theorem readFollowing_div {v count n : Nat} {lo hi : UInt8} {rest after : List UInt8} (hlo : 0x80 ≤ lo.toNat)
    (hhi : hi.toNat ≤ 0xBF) (h : readFollowing lo hi count n rest = (some v, after)) : v / 64 ^ count = n := by
  induction count generalizing lo hi n rest with
  | zero =>
    rw [readFollowing] at h
    rw [Option.some.inj (Prod.mk.inj h).1, Nat.pow_zero, Nat.div_one]
  | succ count ih =>
    cases rest with
    | nil =>
      rw [readFollowing] at h
      cases (Prod.mk.inj h).1
    | cons b rest =>
      rw [readFollowing] at h
      split at h
      next hb =>
        have hrest := ih (Nat.le_refl _) (Nat.le_refl _) h
        have hlow := UInt8.le_iff_toNat_le.mp hb.1
        have hhigh := UInt8.le_iff_toNat_le.mp hb.2
        rw [Nat.pow_succ, ← Nat.div_div_eq_div_mul, hrest]
        omega
      next => cases (Prod.mk.inj h).1

/-- The first of the bytes that follow is within its bounds, and holds the bits above those of the others. -/
theorem readFollowing_succ_div {v count n : Nat} {lo hi : UInt8} {rest after : List UInt8}
    (h : readFollowing lo hi (count + 1) n rest = (some v, after)) :
    ∃ b : UInt8, lo.toNat ≤ b.toNat ∧ b.toNat ≤ hi.toNat ∧ v / 64 ^ count = n * 64 + (b.toNat - 0x80) := by
  cases rest with
  | nil =>
    rw [readFollowing] at h
    cases (Prod.mk.inj h).1
  | cons b rest =>
    rw [readFollowing] at h
    split at h
    next hb =>
      exact ⟨b, UInt8.le_iff_toNat_le.mp hb.1, UInt8.le_iff_toNat_le.mp hb.2,
        readFollowing_div (Nat.le_refl _) (Nat.le_refl _) h⟩
    next => cases (Prod.mk.inj h).1

/-- Several bytes are read as a scalar, and not as one of ASCII. -/
theorem toNat_ofNat_of_lead {lead lo hi : UInt8} {count v : Nat} {rest after : List UInt8}
    (hfollowing : following? lead = some (lo, hi, count))
    (h : readFollowing lo hi count (lead.toNat % (64 >>> count)) rest = (some v, after)) :
    0x80 ≤ (Char.ofNat v).toNat := by
  have hvalid : 0x80 ≤ v ∧ v.isValidChar := by
    have hbits : ∀ k, 64 >>> k = 64 / 2 ^ k := Nat.shiftRight_eq_div_pow 64
    rw [following?] at hfollowing
    have hlead := lead.toNat_lt
    simp only [UInt8.le_iff_toNat_le, ← UInt8.toNat_inj, UInt8.reduceToNat] at hfollowing
    -- a row of the table of lead bytes for each goal
    repeat' split at hfollowing
    all_goals simp only [Option.some.injEq, Prod.mk.injEq, reduceCtorEq] at hfollowing
    all_goals
      obtain ⟨rfl, rfl, rfl⟩ := hfollowing
      obtain ⟨b, hlow, hhigh, hv⟩ := readFollowing_succ_div h
      simp only [UInt8.reduceToNat, hbits] at hlow hhigh hv
      rw [Nat.isValidChar]
      omega
  rw [Char.ofNat, dif_pos hvalid.2]
  exact hvalid.1

theorem readFollowing_suffix : ∀ (count : Nat) (lo hi : UInt8) (n : Nat) (rest : List UInt8),
    (readFollowing lo hi count n rest).2 <:+ rest
  | 0, _, _, _, rest => List.suffix_refl rest
  | _ + 1, _, _, _, [] => List.suffix_refl []
  | count + 1, lo, hi, n, b :: rest => by
    rw [readFollowing]
    split
    · exact (readFollowing_suffix count _ _ _ rest).trans (List.suffix_cons b rest)
    · exact List.suffix_refl _

theorem readScalar_suffix (lead : UInt8) (rest : List UInt8) : (readScalar lead rest).2 <:+ rest := by
  unfold readScalar
  split
  · exact List.suffix_refl rest
  · split
    · exact List.suffix_refl rest
    · exact readFollowing_suffix ..

/-- What is read as a character of ASCII is its byte. -/
theorem toNat_of_readScalar {lead : UInt8} {rest : List UInt8} {c : Char}
    (h : (readScalar lead rest).1 = some c) (hc : c.toNat < 0x80) : lead.toNat = c.toNat := by
  unfold readScalar at h
  split at h
  next hlead =>
    have hsmall : lead.toNat.isValidChar := Or.inl (Nat.lt_trans lead.toNat_lt (by decide))
    rw [← Option.some.inj h, Char.ofNat, dif_pos hsmall]
    rfl
  next =>
    split at h
    next => cases h
    next lo hi count hfollowing =>
      obtain ⟨v, hv, rfl⟩ := Option.map_eq_some_iff.mp h
      exact absurd hc (Nat.not_lt.mpr (toNat_ofNat_of_lead hfollowing (Prod.ext hv rfl)))

/-- A character of ASCII that is read is one of the bytes. -/
theorem exists_byte_of_mem_scalars {c : Char} (hc : c.toNat < 0x80) (bytes : List UInt8)
    (h : some c ∈ scalars bytes) : ∃ b ∈ bytes, b.toNat = c.toNat := by
  induction hn : bytes.length using Nat.strongRecOn generalizing bytes with
  | ind n ih =>
    cases bytes with
    | nil =>
      rw [scalars, ItemReader.readAll_nil] at h
      cases h
    | cons lead rest =>
      rw [scalars, ItemReader.readAll_cons] at h
      rcases List.mem_cons.mp h with h | h
      · exact ⟨lead, List.mem_cons_self, toNat_of_readScalar h.symm hc⟩
      · have hrest := readScalar_suffix lead rest
        obtain ⟨b, hb, hbyte⟩ := ih _ (by rw [← hn]; exact Nat.lt_succ_of_le hrest.length_le) _ h rfl
        exact ⟨b, List.mem_cons_of_mem lead (hrest.mem hb), hbyte⟩

end Utf8

/-! ## Texts -/

/-- The bytes of a text are those of its characters. -/
theorem encode_eq_flatMap (s : String) : encode s = s.toList.flatMap String.utf8EncodeChar := by
  rw [encode, String.toUTF8_eq_toByteArray, ← String.utf8Encode_toList, List.utf8Encode, List.data_toByteArray]

theorem scalars_encode (s : String) : Utf8.scalars (encode s) = s.toList.map some := by
  rw [encode_eq_flatMap, Utf8.scalars_flatMap_utf8EncodeChar]

/-- The bytes of a text are valid and give the text back. -/
theorem decode?_encode (s : String) : decode? (encode s) = some s := by
  have hall : (s.toList.map some).all Option.isSome = true := by simp
  have hchars : (s.toList.map some).map (fun c : Option Char => c.getD replacement) = s.toList := by
    rw [List.map_map]
    exact List.map_id _
  unfold decode?
  rw [scalars_encode]
  dsimp only
  rw [if_pos hall, hchars, String.ofList_toList]

/-- The lossy reading of the bytes of a text loses nothing. -/
theorem decodeLossy_encode (s : String) : decodeLossy (encode s) = s := decodeLossy_of_decode? (decode?_encode s)

/-- Invalid bytes or not, a character of ASCII in the text is one of the bytes. -/
theorem exists_byte_of_mem_decodeLossy {bytes : List UInt8} {c : Char} (h : c ∈ (decodeLossy bytes).toList)
    (hc : c.toNat < 0x80) : ∃ b ∈ bytes, b.toNat = c.toNat := by
  rw [decodeLossy, String.toList_ofList] at h
  obtain ⟨scalar, hscalar, rfl⟩ := List.mem_map.mp h
  cases scalar with
  | none => exact absurd hc (by decide)
  | some c => exact Utf8.exists_byte_of_mem_scalars hc bytes hscalar

/-- Nothing is read only where there are no bytes. -/
theorem decodeLossy_eq_empty_iff {bytes : List UInt8} : decodeLossy bytes = "" ↔ bytes = [] := by
  rw [← String.toList_eq_nil_iff, decodeLossy, String.toList_ofList, List.map_eq_nil_iff, Utf8.scalars,
    ItemReader.readAll_eq_nil_iff]

/-- A byte of ASCII is a character of its own. -/
theorem toNat_of_mem_utf8EncodeChar {c : Char} {b : UInt8} (h : b ∈ String.utf8EncodeChar c) (hb : b.toNat < 0x80) :
    c.toNat = b.toNat := by
  have hvalid : c.val.toNat < 0xD800 ∨ 0xDFFF < c.val.toNat ∧ c.val.toNat < 0x110000 := c.valid
  have hchar : c.toNat = c.val.toNat := rfl
  -- all bytes of the longer forms are `0x80` and more
  have hhigh : ∀ n, 0x80 ≤ n → n < 0x100 → b ≠ UInt8.ofNat n := by
    rintro n hlow hlt rfl
    rw [Utf8.toNat_byte hlt] at hb
    omega
  unfold String.utf8EncodeChar at h
  dsimp only at h
  split at h
  next h1 => rw [List.mem_singleton.mp h, Utf8.toNat_byte (by omega), hchar]
  next h1 =>
    split at h
    next h2 =>
      simp only [List.mem_cons, List.not_mem_nil, or_false] at h
      rcases h with h | h <;> exact absurd h (hhigh _ (by omega) (by omega))
    next h2 =>
      split at h
      next h3 =>
        simp only [List.mem_cons, List.not_mem_nil, or_false] at h
        rcases h with h | h | h <;> exact absurd h (hhigh _ (by omega) (by omega))
      next h3 =>
        simp only [List.mem_cons, List.not_mem_nil, or_false] at h
        rcases h with h | h | h | h <;> exact absurd h (hhigh _ (by omega) (by omega))

/-- A byte of ASCII in the bytes of a text is one of its characters. -/
theorem exists_char_of_mem_encode {s : String} {b : UInt8} (h : b ∈ encode s) (hb : b.toNat < 0x80) :
    ∃ c ∈ s.toList, c.toNat = b.toNat := by
  rw [encode_eq_flatMap] at h
  obtain ⟨c, hc, hbyte⟩ := List.mem_flatMap.mp h
  exact ⟨c, hc, toNat_of_mem_utf8EncodeChar hbyte hb⟩

theorem encode_append (s t : String) : encode (s ++ t) = encode s ++ encode t := by
  simp only [encode_eq_flatMap, String.toList_append, List.flatMap_append]

end WikiGateway.Text
