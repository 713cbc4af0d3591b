import Mathlib.Data.List.TakeWhile
import Mathlib.Data.Option.Basic
import WikiGateway.Net.Network

/-!
# The characters of an address

The readers of addresses use up digits, dots and colons, and nothing else (`UsesUp`). So the text of an address has no
slash and no bracket in it, and no entry of a list of proxies can be read both as a network with a length and as an
address.

* `readIpv4_usesUp`, `readIpv6_usesUp`: what the readers of addresses leave of a text.
* `forall_isAddressChar_of_parse?`: the characters of an address.
* `colon_mem_of_parseIpv6?`: an address of version 6 has a colon.
* `exists_slash_of_ofRange?`: a network with a length has a slash behind an address.
* `Network.parse?_of_address`: an address is a network of one.
-/

namespace WikiGateway

/-- A character that may stand in an address. -/
def isAddressChar (c : Char) : Bool := Text.isHexDigit c || c == '.' || c == ':'

/-- No blank stands in an address. -/
theorem isSpace_of_isAddressChar {c : Char} (h : isAddressChar c = true) : Text.isSpace c = false := by
  have hrange : 46 ≤ c.toNat ∧ c.toNat ≤ 102 := by
    simp only [isAddressChar, Text.isHexDigit, Char.isDigit, Bool.or_eq_true, Bool.and_eq_true, beq_iff_eq,
      decide_eq_true_eq, ge_iff_le, UInt32.le_iff_toNat_le, Char.le_def, ← Char.toNat_inj, Char.toNat_val,
      Char.reduceToNat, UInt32.reduceToNat, Char.reduceVal] at h
    omega
  simp only [Text.isSpace, Bool.or_eq_false_iff, Bool.and_eq_false_iff, decide_eq_false_iff_not, beq_eq_false_iff_ne]
  omega
/-- A reader that leaves `rest` of the text `cs` has used up characters of addresses only. -/
def UsesUp (cs rest : List Char) : Prop := ∃ front, cs = front ++ rest ∧ ∀ c ∈ front, isAddressChar c = true

namespace UsesUp

variable {c : Char} {p : Char → Bool} {cs rest rest' : List Char}

theorem refl (cs : List Char) : UsesUp cs cs := ⟨[], rfl, by simp⟩

theorem trans (h : UsesUp cs rest) (h' : UsesUp rest rest') : UsesUp cs rest' := by
  obtain ⟨front, rfl, hfront⟩ := h
  obtain ⟨front', rfl, hfront'⟩ := h'
  refine ⟨front ++ front', (List.append_assoc front front' rest').symm, fun c hc => ?_⟩
  rcases List.mem_append.mp hc with hc | hc
  · exact hfront c hc
  · exact hfront' c hc

theorem cons (hc : isAddressChar c = true) (h : UsesUp cs rest) : UsesUp (c :: cs) rest :=
  trans ⟨[c], rfl, by simpa using hc⟩ h

/-- A run of characters of a class that belongs to addresses may be dropped. -/
theorem dropWhile (hp : ∀ c, p c = true → isAddressChar c = true) : UsesUp cs (cs.dropWhile p) :=
  ⟨cs.takeWhile p, List.takeWhile_append_dropWhile.symm, fun c hc => hp c (List.mem_takeWhile_imp hc)⟩

/-- What was there before and is not left is a character of addresses. -/
theorem isAddressChar_of_nil (h : UsesUp cs []) : ∀ c ∈ cs, isAddressChar c = true := by
  obtain ⟨front, rfl, hfront⟩ := h
  simpa using hfront

end UsesUp

/-! ## The readers -/

namespace AddressGrammar

variable {g : AddressGrammar} {cs rest : List Char}

theorem isAddressChar_of_isHexDigit {c : Char} (h : Text.isHexDigit c = true) : isAddressChar c = true := by
  simp [isAddressChar, h]

theorem isAddressChar_of_isDigit {c : Char} (h : c.isDigit = true) : isAddressChar c = true :=
  isAddressChar_of_isHexDigit (by simp [Text.isHexDigit, h])

theorem readDecimal_usesUp {maxDigits limit n : Nat} (h : readDecimal maxDigits limit cs = some (n, rest)) :
    UsesUp cs rest := by
  unfold readDecimal at h
  dsimp only at h
  split at h
  · cases h
  · cases h
    exact UsesUp.dropWhile fun c => isAddressChar_of_isDigit

theorem readGroup_usesUp {n : Nat} (h : readGroup cs = some (n, rest)) : UsesUp cs rest := by
  unfold readGroup at h
  dsimp only at h
  split at h
  · cases h
  · cases h
    exact UsesUp.dropWhile fun c => isAddressChar_of_isHexDigit

theorem readOctet_usesUp {n : Nat} (h : g.readOctet cs = some (n, rest)) : UsesUp cs rest := by
  unfold readOctet at h
  split at h
  · split at h
    · cases h
    · exact readDecimal_usesUp h
  · exact readDecimal_usesUp h

theorem readDottedOctets_usesUp {count : Nat} {octets : List Nat}
    (h : g.readDottedOctets count cs = some (octets, rest)) : UsesUp cs rest := by
  induction count generalizing cs octets with
  | zero =>
    cases h
    exact UsesUp.refl _
  | succ count ih =>
    unfold readDottedOctets at h
    split at h
    next => contradiction
    next behindDot heq =>
      cases heq
      split at h
      next => cases h
      next octet behind hoctet =>
        obtain ⟨⟨octets', rest'⟩, hoctets, heq⟩ := Option.map_eq_some_iff.mp h
        cases heq
        exact UsesUp.cons rfl ((readOctet_usesUp hoctet).trans (ih hoctets))
    next => cases h

/-- The reader of addresses of version 4 uses up characters of addresses. -/
theorem readIpv4_usesUp {a : Ipv4} (h : g.readIpv4 cs = some (a, rest)) : UsesUp cs rest := by
  unfold readIpv4 at h
  split at h
  next => cases h
  next octet behind hoctet =>
    obtain ⟨⟨octets, rest'⟩, hoctets, heq⟩ := Option.map_eq_some_iff.mp h
    cases heq
    exact (readOctet_usesUp hoctet).trans (readDottedOctets_usesUp hoctets)

theorem afterColon?_usesUp {isFirst : Bool} (h : afterColon? isFirst cs = some rest) : UsesUp cs rest := by
  unfold afterColon? at h
  split at h
  · cases h
    exact UsesUp.refl cs
  · split at h
    · cases h
      exact UsesUp.cons rfl (UsesUp.refl rest)
    · cases h

theorem readGroups_usesUp (isFirst : Bool) (count : Nat) (cs : List Char) :
    UsesUp cs (g.readGroups isFirst count cs).2.2 := by
  induction count generalizing isFirst cs with
  | zero => exact UsesUp.refl cs
  | succ count ih =>
    unfold readGroups
    split
    next => exact UsesUp.refl cs
    next body hbody =>
      split
      next ipv4 rest hipv4 =>
        split at hipv4
        · cases hipv4
        · exact (afterColon?_usesUp hbody).trans (readIpv4_usesUp hipv4)
      next =>
        split
        next => exact UsesUp.refl cs
        next group rest hgroup =>
          have hbehind := ih false rest
          exact (afterColon?_usesUp hbody).trans ((readGroup_usesUp hgroup).trans hbehind)

/-- The reader of addresses of version 6 uses up characters of addresses. -/
theorem readIpv6_usesUp {a : Ipv6} (h : g.readIpv6 cs = some (a, rest)) : UsesUp cs rest := by
  have hfront := readGroups_usesUp (g := g) true 8 cs
  unfold readIpv6 at h
  dsimp only at h
  split at h
  · cases h
    exact hfront
  · split at h
    · cases h
    · split at h
      next behind hbehind =>
        cases h
        rw [hbehind] at hfront
        exact hfront.trans (UsesUp.cons rfl (UsesUp.cons rfl (readGroups_usesUp true _ behind)))
      next => cases h

/-- Without colons there are two groups at most, those of an address of version 4. -/
theorem length_readGroups_le (h : ':' ∉ cs) (count : Nat) : (g.readGroups true count cs).1.length ≤ 2 := by
  cases count with
  | zero => exact Nat.zero_le 2
  | succ count =>
    have hfirst : afterColon? true cs = some cs := by
      unfold afterColon?
      exact if_pos rfl
    rw [readGroups, hfirst]
    dsimp only
    split
    next => exact Nat.le_refl 2
    next =>
      split
      next => exact Nat.zero_le 2
      next group rest hgroup =>
        obtain ⟨front, rfl, -⟩ := readGroup_usesUp hgroup
        have hnone : afterColon? false rest = none := by
          unfold afterColon?
          split
          · contradiction
          · split
            · simp at h
            · rfl
        have hempty : (g.readGroups false count rest).1 = [] := by
          cases count with
          | zero => rfl
          | succ count => rw [readGroups, hnone]
        show (group :: (g.readGroups false count rest).1).length ≤ 2
        rw [hempty]
        exact Nat.le_succ 1

/-- An address of version 6 has a colon. -/
theorem colon_mem_of_readIpv6 {a : Ipv6} (h : g.readIpv6 cs = some (a, rest)) : ':' ∈ cs := by
  by_contra hcolon
  have hlength := length_readGroups_le (g := g) hcolon 8
  obtain ⟨front, hfront, -⟩ := readGroups_usesUp (g := g) true 8 cs
  unfold readIpv6 at h
  dsimp only at h
  split at h
  next height => omega
  next =>
    split at h
    next => cases h
    next =>
      split at h
      next behind hbehind =>
        rw [hbehind] at hfront
        exact hcolon (by simp [hfront])
      next => cases h

end AddressGrammar

/-! ## Addresses and networks -/

/-- Only a value that was read to the end counts. -/
theorem whenComplete_eq_some_iff {α : Type} {r : Option (α × List Char)} {a : α} :
    whenComplete r = some a ↔ r = some (a, []) := by
  unfold whenComplete
  split <;> simp_all

theorem colon_mem_of_parseIpv6? {s : String} {a : Ipv6} (h : parseIpv6? s = some a) : ':' ∈ s.toList :=
  AddressGrammar.colon_mem_of_readIpv6 (whenComplete_eq_some_iff.mp h)

/-- The characters of an address of version 6. -/
theorem isAddressChar_of_parseIpv6? {s : String} {a : Ipv6} (h : parseIpv6? s = some a) :
    ∀ c ∈ s.toList, isAddressChar c = true :=
  (AddressGrammar.readIpv6_usesUp (whenComplete_eq_some_iff.mp h)).isAddressChar_of_nil

/-- The characters of an address. -/
theorem forall_isAddressChar_of_parse? {s : String} {a : IpAddress} (h : IpAddress.parse? s = some a) :
    ∀ c ∈ s.toList, isAddressChar c = true := by
  unfold IpAddress.parse? at h
  rcases (Option.orElse_eq_some _ _ _).mp h with h | ⟨-, h⟩
  · obtain ⟨bits, hbits, -⟩ := Option.map_eq_some_iff.mp h
    exact (AddressGrammar.readIpv4_usesUp (whenComplete_eq_some_iff.mp hbits)).isAddressChar_of_nil
  · obtain ⟨bits, hbits, -⟩ := Option.map_eq_some_iff.mp h
    exact isAddressChar_of_parseIpv6? hbits

/-- No address is written as nothing. -/
theorem ne_empty_of_parse? {s : String} {a : IpAddress} (h : IpAddress.parse? s = some a) : s ≠ "" := by
  rintro rfl
  unfold IpAddress.parse? at h
  cases h

namespace Network

/-- The length of a network starts with a slash. -/
theorem exists_slash_of_readLength {maxDigits width length : Nat} {cs : List Char}
    (h : readLength maxDigits width cs = some length) : ∃ digits, cs = '/' :: digits := by
  unfold readLength at h
  split at h
  next digits => exact ⟨digits, rfl⟩
  next => cases h

/-- A network with a length has a slash, with characters of an address in front of it. -/
theorem exists_slash_of_ofRange? {cs : List Char} {network : Network} (h : ofRange? cs = some network) :
    ∃ digits, UsesUp cs ('/' :: digits) := by
  unfold ofRange? at h
  rcases (Option.orElse_eq_some _ _ _).mp h with h | ⟨-, h⟩
  · obtain ⟨⟨bits, rest⟩, hbits, hlength⟩ := Option.bind_eq_some_iff.mp h
    obtain ⟨length, hlength, -⟩ := Option.map_eq_some_iff.mp hlength
    obtain ⟨digits, rfl⟩ := exists_slash_of_readLength hlength
    exact ⟨digits, AddressGrammar.readIpv4_usesUp hbits⟩
  · obtain ⟨⟨bits, rest⟩, hbits, hlength⟩ := Option.bind_eq_some_iff.mp h
    obtain ⟨length, hlength, -⟩ := Option.map_eq_some_iff.mp hlength
    obtain ⟨digits, rfl⟩ := exists_slash_of_readLength hlength
    exact ⟨digits, AddressGrammar.readIpv6_usesUp hbits⟩

/-- An address is read as the network of one. -/
theorem parse?_of_address {s : String} {a : IpAddress} (h : IpAddress.parse? s = some a) :
    Network.parse? s = some (single a) := by
  have hrange : ofRange? s.toList = none := by
    cases hnetwork : ofRange? s.toList with
    | none => rfl
    | some network =>
      obtain ⟨digits, front, htext, -⟩ := exists_slash_of_ofRange? hnetwork
      have hslash := forall_isAddressChar_of_parse? h '/' (by simp [htext])
      cases hslash
  simp [Network.parse?, hrange, h]

end Network

end WikiGateway
