import WikiGateway.Proofs.Net.AddressText
import WikiGateway.Proofs.Text.Digits
import WikiGateway.Proofs.Text.Runs

/-!
# Addresses are read back

What is written for an octet, a group or a run of groups is read back, whatever follows that does not go on with it. The
run of zeros that is left out between two colons is put back, since its length is known from the groups around it
(`longestZeroRun_spec`).

* `readIpv4_ipv4Text`: an address of version 4.
* `readGroups_groupsText`: groups up to the end, or up to the two colons.
* `readIpv6_ipv6GroupText`, `readIpv6_mapped`: an address of version 6 in groups, and one that maps an address of
  version 4 (`mapIpv4`).
* `IpAddress.parse?_toString`: every address.
-/

namespace WikiGateway

/-! ## Numbers in base sixteen -/

namespace Text

theorem isHexDigit_digitChar : ∀ d < 16, isHexDigit (Nat.digitChar d) = true := by decide

theorem hexValue?_digitChar : ∀ d < 16, hexValue? (Nat.digitChar d) = some d := by decide

theorem isHexDigit_of_mem_toDigits {n : Nat} {c : Char} (h : c ∈ Nat.toDigits 16 n) : isHexDigit c = true := by
  induction n using Nat.strongRecOn with
  | ind n ih =>
    rw [Nat.toDigits_eq_if (by decide)] at h
    split at h
    next hlt => exact List.mem_singleton.mp h ▸ isHexDigit_digitChar n hlt
    next hge =>
      rcases List.mem_append.mp h with h | h
      · exact ih (n / 16) (by omega) h
      · exact List.mem_singleton.mp h ▸ isHexDigit_digitChar (n % 16) (by omega)

end Text

namespace AddressGrammar

/-- The digits of a number have its value. -/
theorem hexNumber_toDigits (n : Nat) : hexNumber (Nat.toDigits 16 n) = n := by
  induction n using Nat.strongRecOn with
  | ind n ih =>
    rw [Nat.toDigits_eq_if (by decide)]
    split
    next hlt => simp [hexNumber, Text.hexValue?_digitChar n hlt]
    next hge =>
      have hfront := ih (n / 16) (by omega)
      rw [hexNumber] at hfront
      rw [hexNumber, List.foldl_append, hfront, List.foldl_cons, List.foldl_nil,
        Text.hexValue?_digitChar (n % 16) (by omega), Option.getD_some]
      omega

variable {g : AddressGrammar} {cs rest : List Char}

/-! ## Octets -/

/-- An octet is read back where no digit follows. -/
theorem readDecimal_repr {n : Nat} (hn : n < 256) (hend : ∀ c ∈ rest.head?, c.isDigit = false) :
    readDecimal 3 256 (n.repr.toList ++ rest) = some (n, rest) := by
  obtain ⟨hdigits, hbehind⟩ := takeWhile_append_of_head? (fun c => Text.isDigit_of_mem_repr (n := n) (c := c)) hend
  have hlength : (Nat.toDigits 10 n).length ≤ 3 :=
    (Nat.length_toDigits_le_iff (by decide) (by decide)).mpr (Nat.lt_trans hn (by decide))
  rw [readDecimal, hdigits, hbehind, Nat.toList_repr, Text.digitsValue_toDigits]
  simp only [List.isEmpty_eq_false_iff.mpr (Nat.toDigits_ne_nil), Bool.false_or]
  rw [if_neg]
  simp only [Bool.or_eq_true, decide_eq_true_eq]
  omega

/-- The second digit matters only behind a zero. -/
theorem readOctet_of_not_zero (h : ∀ d behind, cs = '0' :: d :: behind → d.isDigit = false) :
    g.readOctet cs = readDecimal 3 256 cs := by
  unfold readOctet
  split
  next d behind =>
    rw [h d behind rfl]
    rfl
  next => rfl

/-- No octet of several digits starts with a zero. -/
theorem head?_repr_ne_zero : ∀ n < 256, 10 ≤ n → (Nat.toDigits 10 n).head? ≠ some '0' := by decide +kernel

theorem readOctet_repr {n : Nat} (hn : n < 256) (hend : ∀ c ∈ rest.head?, c.isDigit = false) :
    g.readOctet (n.repr.toList ++ rest) = some (n, rest) := by
  rw [readOctet_of_not_zero, readDecimal_repr hn hend]
  intro d behind h
  rw [Nat.toList_repr] at h
  by_cases hone : n < 10
  · rw [Nat.toDigits_of_lt_base hone, List.singleton_append] at h
    exact hend d (by rw [(List.cons.inj h).2]; rfl)
  · have hhead := congrArg List.head? h
    rw [List.head?_append_of_ne_nil _ Nat.toDigits_ne_nil] at hhead
    exact absurd hhead (head?_repr_ne_zero n hn (by omega))

/-- What is left behind an octet is what is left behind its digits. -/
theorem rest_of_readOctet {n : Nat} (h : g.readOctet cs = some (n, rest)) : rest = cs.dropWhile Char.isDigit := by
  have hdecimal : readDecimal 3 256 cs = some (n, rest) := by
    unfold readOctet at h
    split at h
    · exact (Option.ite_none_left_eq_some.mp h).2
    · exact h
  rw [readDecimal] at hdecimal
  obtain ⟨-, hread⟩ := Option.ite_none_left_eq_some.mp hdecimal
  cases hread
  rfl

/-- An address of version 4 has a dot behind its first digits. -/
theorem readIpv4_eq_none (h : (cs.dropWhile Char.isDigit).head? ≠ some '.') : g.readIpv4 cs = none := by
  unfold readIpv4
  split
  next => rfl
  next octet behind hoctet =>
    rw [← rest_of_readOctet hoctet] at h
    unfold readDottedOctets
    split
    next hzero => cases hzero
    next => exact absurd rfl h
    next => rfl

/-! ## Addresses of version 4 -/

/-- Octets with a dot in front of each. -/
def behindDots (octets : List Nat) : List Char := octets.flatMap fun n => '.' :: n.repr.toList

theorem readDottedOctets_behindDots (hend : ∀ c ∈ rest.head?, c.isDigit = false) : ∀ {octets : List Nat},
    (∀ n ∈ octets, n < 256) → g.readDottedOctets octets.length (behindDots octets ++ rest) = some (octets, rest)
  | [], _ => rfl
  | n :: octets, h => by
    obtain ⟨hn, hoctets⟩ := List.forall_mem_cons.mp h
    have hbehind : ∀ c ∈ (behindDots octets ++ rest).head?, c.isDigit = false := by
      cases octets with
      | nil => exact hend
      | cons => rintro _ ⟨⟩; rfl
    have htext : behindDots (n :: octets) ++ rest = '.' :: (n.repr.toList ++ (behindDots octets ++ rest)) := by
      simp [behindDots]
    rw [htext, List.length_cons, readDottedOctets, readOctet_repr hn hbehind]
    dsimp only
    rw [readDottedOctets_behindDots hend hoctets, Option.map_some]

/-- The parts of a text between separators, the first one apart. -/
theorem intercalate_cons_eq_append_flatMap {α : Type} (separator text : List α) : ∀ texts : List (List α),
    separator.intercalate (text :: texts) = text ++ texts.flatMap (separator ++ ·)
  | [] => by simp
  | next :: texts => by
    rw [List.intercalate_cons_cons, intercalate_cons_eq_append_flatMap separator next texts, List.flatMap_cons,
      List.append_assoc, List.append_assoc]

theorem toList_ipv4Text (a : Ipv4) : (ipv4Text a).toList =
    (a.toNat / 16777216).repr.toList ++ behindDots [a.toNat / 65536 % 256, a.toNat / 256 % 256, a.toNat % 256] := by
  simp only [ipv4Text, ipv4Octets, String.toList_intercalate, List.map_cons, List.map_nil,
    intercalate_cons_eq_append_flatMap, behindDots]
  rfl

/-- An address of version 4 is read back where no digit follows. -/
theorem readIpv4_ipv4Text (a : Ipv4) (hend : ∀ c ∈ rest.head?, c.isDigit = false) :
    g.readIpv4 ((ipv4Text a).toList ++ rest) = some (a, rest) := by
  have hlt := a.isLt
  have hoctets : ∀ n ∈ [a.toNat / 65536 % 256, a.toNat / 256 % 256, a.toNat % 256], n < 256 := by
    simp only [List.forall_mem_cons, List.not_mem_nil, false_implies, implies_true, and_true]
    omega
  have hdots := readDottedOctets_behindDots (g := g) hend hoctets
  rw [toList_ipv4Text, List.append_assoc, readIpv4, readOctet_repr (by omega) (by rintro _ ⟨⟩; rfl)]
  dsimp only [List.length_cons, List.length_nil] at hdots ⊢
  rw [hdots, Option.map_some]
  refine congrArg (fun bits => some (bits, rest)) (BitVec.eq_of_toNat_eq ?_)
  simp only [List.foldl_cons, List.foldl_nil, BitVec.toNat_ofNat]
  omega

/-! ## Groups -/

/-- Groups with a colon in front of each. -/
def behindColons (groups : List Nat) : List Char := groups.flatMap fun n => ':' :: (Text.hexText n).toList

/-- What may follow a group: nothing, or a colon. -/
def EndsGroup (rest : List Char) : Prop := ∀ c ∈ rest.head?, c = ':'

theorem EndsGroup.colon (rest : List Char) : EndsGroup (':' :: rest) := by
  rintro _ ⟨⟩
  rfl

theorem EndsGroup.behindColons (hrest : EndsGroup rest) (groups : List Nat) :
    EndsGroup (behindColons groups ++ rest) := by
  cases groups with
  | nil => exact hrest
  | cons => exact EndsGroup.colon _

/-- A group is read back where another one may follow. -/
theorem readGroup_hexText {n : Nat} (hn : n < 65536) (hrest : EndsGroup rest) :
    readGroup ((Text.hexText n).toList ++ rest) = some (n, rest) := by
  have hend : ∀ c ∈ rest.head?, Text.isHexDigit c = false := fun c hc => hrest c hc ▸ rfl
  obtain ⟨hdigits, hbehind⟩ :=
    takeWhile_append_of_head? (fun c => Text.isHexDigit_of_mem_toDigits (n := n) (c := c)) hend
  have hlength : (Nat.toDigits 16 n).length ≤ 4 := (Nat.length_toDigits_le_iff (by decide) (by decide)).mpr hn
  rw [Text.hexText, String.toList_ofList, readGroup, hdigits, hbehind, hexNumber_toDigits]
  simp only [List.isEmpty_eq_false_iff.mpr Nat.toDigits_ne_nil, Bool.false_or, decide_eq_true_eq]
  rw [if_neg (by omega)]

/-- A group is no address of version 4: no dot follows its first digits. -/
theorem readIpv4_hexText (n : Nat) (hrest : EndsGroup rest) : g.readIpv4 ((Text.hexText n).toList ++ rest) = none := by
  refine readIpv4_eq_none fun hdot => ?_
  rw [List.dropWhile_append] at hdot
  split at hdot
  next =>
    obtain ⟨behind, hbehind⟩ := List.head?_eq_some_iff.mp hdot
    cases rest with
    | nil => cases hbehind
    | cons c rest =>
      obtain rfl := hrest c rfl
      cases hbehind
  next hsome =>
    rw [List.isEmpty_iff] at hsome
    rw [List.head?_append_of_ne_nil _ hsome] at hdot
    have hmem := List.dropWhile_subset _ (List.mem_of_mem_head? hdot)
    rw [Text.hexText, String.toList_ofList] at hmem
    exact absurd (Text.isHexDigit_of_mem_toDigits hmem) (by decide)

/-- Where a group is read, the ones behind it follow. -/
theorem readGroups_group {isFirst : Bool} {n : Nat} (hn : n < 65536) (hrest : EndsGroup rest) (count : Nat)
    (hbody : afterColon? isFirst cs = some ((Text.hexText n).toList ++ rest)) :
    g.readGroups isFirst (count + 1) cs =
      (n :: (g.readGroups false count rest).1, (g.readGroups false count rest).2) := by
  rw [readGroups, hbody]
  dsimp only
  rw [readIpv4_hexText n hrest, ite_self]
  dsimp only
  rw [readGroup_hexText hn hrest]

theorem takeWhile_of_endsGroup (h : EndsGroup cs) {p : Char → Bool} (hp : p ':' = false) : cs.takeWhile p = [] := by
  cases cs with
  | nil => rfl
  | cons c cs =>
    rw [h c rfl]
    exact List.takeWhile_cons_of_neg (by simp [hp])

theorem readIpv4_of_endsGroup (h : EndsGroup cs) : g.readIpv4 cs = none := by
  rw [readIpv4, readOctet_of_not_zero, readDecimal, takeWhile_of_endsGroup h (by decide)]
  · rfl
  · rintro d behind rfl
    cases h '0' rfl

/-- No group is read where there is none. -/
theorem readGroups_stop {isFirst : Bool} (h : ∀ body, afterColon? isFirst cs = some body → EndsGroup body)
    (count : Nat) : g.readGroups isFirst count cs = ([], false, cs) := by
  cases count with
  | zero => rfl
  | succ count =>
    rw [readGroups]
    cases hbody : afterColon? isFirst cs with
    | none => rfl
    | some body =>
      dsimp only
      rw [readIpv4_of_endsGroup (h body hbody), ite_self, readGroup, takeWhile_of_endsGroup (h body hbody) (by decide)]
      rfl

/-- Groups behind colons are read one after the other. -/
theorem readGroups_behindColons (hrest : EndsGroup rest) (count : Nat) : ∀ {groups : List Nat},
    (∀ n ∈ groups, n < 65536) → g.readGroups false (groups.length + count) (behindColons groups ++ rest) =
      (groups ++ (g.readGroups false count rest).1, (g.readGroups false count rest).2)
  | [], _ => by simp [behindColons]
  | n :: groups, h => by
    obtain ⟨hn, hgroups⟩ := List.forall_mem_cons.mp h
    have hbody : afterColon? false (behindColons (n :: groups) ++ rest) =
        some ((Text.hexText n).toList ++ (behindColons groups ++ rest)) := by
      simp [afterColon?, behindColons]
    rw [List.length_cons, Nat.add_right_comm, readGroups_group hn (hrest.behindColons groups) _ hbody,
      readGroups_behindColons hrest count hgroups]
    rfl

theorem toList_groupsText_cons (n : Nat) (groups : List Nat) :
    (groupsText (n :: groups)).toList = (Text.hexText n).toList ++ behindColons groups := by
  rw [groupsText, String.toList_intercalate, List.map_cons, List.map_cons, intercalate_cons_eq_append_flatMap,
    List.flatMap_map, List.flatMap_map]
  rfl

theorem readIpv4_groupsText (groups : List Nat) (hrest : EndsGroup rest) :
    g.readIpv4 ((groupsText groups).toList ++ rest) = none := by
  cases groups with
  | nil => exact readIpv4_of_endsGroup hrest
  | cons n groups =>
    rw [toList_groupsText_cons, List.append_assoc]
    exact readIpv4_hexText n (hrest.behindColons groups)

/-- Groups are read up to the end of the text, or up to two colons. -/
theorem readGroups_groupsText (hrest : rest = [] ∨ ∃ more, rest = ':' :: ':' :: more) {groups : List Nat}
    (hgroups : ∀ n ∈ groups, n < 65536) {count : Nat} (hcount : groups.length ≤ count) :
    g.readGroups true count ((groupsText groups).toList ++ rest) = (groups, false, rest) := by
  have hends : EndsGroup rest := by
    rcases hrest with rfl | ⟨more, rfl⟩
    · rintro _ ⟨⟩
    · exact .colon _
  have hstop : ∀ body, afterColon? false rest = some body → EndsGroup body := by
    rcases hrest with rfl | ⟨more, rfl⟩
    · rintro body ⟨⟩
    · rintro body ⟨⟩
      exact .colon _
  cases groups with
  | nil =>
    have hfirst : ∀ body, afterColon? true rest = some body → EndsGroup body := by
      rintro body ⟨⟩
      exact hends
    exact readGroups_stop hfirst count
  | cons n groups =>
    obtain ⟨hn, hgroups⟩ := List.forall_mem_cons.mp hgroups
    obtain ⟨more, rfl⟩ := Nat.exists_eq_add_of_le hcount
    have hbody : afterColon? true ((groupsText (n :: groups)).toList ++ rest) =
        some ((Text.hexText n).toList ++ (behindColons groups ++ rest)) := by
      rw [toList_groupsText_cons, List.append_assoc]
      rfl
    rw [List.length_cons, Nat.add_right_comm, readGroups_group hn (hends.behindColons groups) _ hbody,
      readGroups_behindColons hends more hgroups, readGroups_stop hstop, List.append_nil]

/-- Two colons stand for the groups that are missing. -/
theorem readIpv6_gap {front back : List Nat} {more : List Char} {endsInIpv4 : Bool} (hfront : ∀ n ∈ front, n < 65536)
    (hlength : front.length < 8)
    (hback : strict.readGroups true (8 - front.length - 1) more = (back, endsInIpv4, [])) :
    strict.readIpv6 ((groupsText front).toList ++ ':' :: ':' :: more) =
      some (ipv6OfGroups (front ++ List.replicate (8 - front.length - back.length) 0 ++ back), []) := by
  have hread := readGroups_groupsText (g := strict) (.inr ⟨more, rfl⟩) hfront hlength.le
  have hgap : (if strict.emptyGap then 0 else 1) = 1 := rfl
  rw [readIpv6, hread]
  simp only [if_neg hlength.ne, hgap, hback, Bool.false_eq_true, if_false]

end AddressGrammar

/-! ## The run of zeros -/

/-- The longest run of zeros stands where it is said to. -/
theorem longestZeroRun_spec : ∀ (groups : List Nat) (i : Nat), ∃ front back,
    groups = front ++ List.replicate (longestZeroRun i groups).2 0 ++ back ∧
      (longestZeroRun i groups).1 = i + front.length
  | [], i => ⟨[], [], rfl, rfl⟩
  | n :: groups, i => by
    obtain ⟨front, back, hgroups, hstart⟩ := longestZeroRun_spec groups (i + 1)
    rw [longestZeroRun]
    split
    next =>
      refine ⟨[], (n :: groups).dropWhile (· == 0), ?_, rfl⟩
      have hzeros : (n :: groups).takeWhile (· == 0) =
          List.replicate ((n :: groups).takeWhile (· == 0)).length 0 :=
        List.eq_replicate_of_mem fun x hx => beq_iff_eq.mp (List.mem_takeWhile_imp (p := (· == 0)) hx)
      rw [List.nil_append, ← hzeros, List.takeWhile_append_dropWhile]
    next =>
      refine ⟨n :: front, back, congrArg (n :: ·) hgroups, ?_⟩
      rw [hstart, List.length_cons]
      omega

/-! ## Addresses of version 6 -/

section
variable (a : Ipv6)

theorem length_ipv6Groups : (ipv6Groups a).length = 8 := rfl

theorem ipv6Groups_lt : ∀ n ∈ ipv6Groups a, n < 65536 := by
  intro n hn
  obtain ⟨i, -, rfl⟩ := List.mem_map.mp hn
  exact Nat.mod_lt _ (by decide)

/-- An address is that of its groups. -/
theorem ipv6OfGroups_ipv6Groups : AddressGrammar.ipv6OfGroups (ipv6Groups a) = a := by
  have hlt := a.isLt
  have hgroups : ipv6Groups a = [a.toNat / 2 ^ 112 % 65536, a.toNat / 2 ^ 96 % 65536, a.toNat / 2 ^ 80 % 65536,
      a.toNat / 2 ^ 64 % 65536, a.toNat / 2 ^ 48 % 65536, a.toNat / 2 ^ 32 % 65536, a.toNat / 2 ^ 16 % 65536,
      a.toNat / 2 ^ 0 % 65536] := by
    simp only [ipv6Groups, Nat.shiftRight_eq_div_pow]
    rfl
  refine BitVec.eq_of_toNat_eq ?_
  rw [hgroups, AddressGrammar.ipv6OfGroups]
  simp only [List.foldl_cons, List.foldl_nil, BitVec.toNat_ofNat]
  omega

/-- The groups of an address are read back, with the zeros that were left out. -/
theorem readIpv6_ipv6GroupText : AddressGrammar.strict.readIpv6 (ipv6GroupText a).toList = some (a, []) := by
  have hlt := ipv6Groups_lt a
  have hlength := length_ipv6Groups a
  have hvalue := ipv6OfGroups_ipv6Groups a
  obtain ⟨front, back, hgroups, hstart⟩ := longestZeroRun_spec (ipv6Groups a) 0
  unfold ipv6GroupText
  dsimp only
  split
  next hrun =>
    generalize longestZeroRun 0 (ipv6Groups a) = found at hgroups hstart hrun
    generalize ipv6Groups a = groups at hgroups hlt hlength hvalue
    obtain ⟨start, run⟩ := found
    obtain rfl : start = front.length := hstart.trans (Nat.zero_add _)
    dsimp only at hgroups hrun ⊢
    subst hgroups
    simp only [List.forall_mem_append] at hlt
    simp only [List.length_append, List.length_replicate] at hlength
    have hdrop : (front ++ List.replicate run 0 ++ back).drop (front.length + run) = back :=
      List.drop_left' (by simp)
    have hback := AddressGrammar.readGroups_groupsText (g := .strict) (.inl rfl) hlt.2
      (show back.length ≤ 8 - front.length - 1 by omega)
    have hread := AddressGrammar.readIpv6_gap hlt.1.1 (by omega) (List.append_nil _ ▸ hback)
    rw [show 8 - front.length - back.length = run by omega, hvalue] at hread
    rw [hdrop, List.append_assoc, List.take_left, String.toList_append, String.toList_append, List.append_assoc]
    exact hread
  next =>
    have hread := AddressGrammar.readGroups_groupsText (g := .strict) (.inl rfl) hlt hlength.le
    rw [List.append_nil] at hread
    rw [AddressGrammar.readIpv6, hread]
    dsimp only
    rw [if_pos hlength, hvalue]

/-- The address that maps an address of version 4: zeros, sixteen ones and the address. -/
def mapIpv4 (b : Ipv4) : Ipv6 := (0xFFFF : BitVec 96) ++ b

theorem toNat_mapIpv4 (b : Ipv4) : (mapIpv4 b).toNat = 0xFFFF * 2 ^ 32 + b.toNat := by
  rw [mapIpv4, BitVec.toNat_append, ← Nat.shiftLeft_add_eq_or_of_lt b.isLt, Nat.shiftLeft_eq]
  rfl

/-- The mapped addresses are those of the addresses of version 4. -/
theorem mappedIpv4?_eq_some_iff {a : Ipv6} {b : Ipv4} : mappedIpv4? a = some b ↔ a = mapIpv4 b := by
  have ha := a.isLt
  have hb := b.isLt
  have hones : (0xFFFF : Ipv6).toNat = 0xFFFF := rfl
  rw [mappedIpv4?, Option.ite_none_right_eq_some, Option.some.injEq, ← BitVec.toNat_inj, ← BitVec.toNat_inj,
    ← BitVec.toNat_inj, toNat_mapIpv4]
  simp only [BitVec.toNat_ushiftRight, Nat.shiftRight_eq_div_pow, BitVec.toNat_setWidth, hones]
  omega

/-- A mapped address is read back. -/
theorem readIpv6_mapped {a : Ipv6} {b : Ipv4} (h : mappedIpv4? a = some b) :
    AddressGrammar.strict.readIpv6 ("::ffff:" ++ ipv4Text b).toList = some (a, []) := by
  have hb := b.isLt
  have hipv4 : AddressGrammar.strict.readIpv4 (ipv4Text b).toList = some (b, []) := by
    rw [← List.append_nil (ipv4Text b).toList]
    exact AddressGrammar.readIpv4_ipv4Text b (by simp)
  have hlast : AddressGrammar.strict.readGroups false 6 (':' :: (ipv4Text b).toList) =
      ([b.toNat / 65536, b.toNat % 65536], true, []) := by
    have hbody : AddressGrammar.afterColon? false (':' :: (ipv4Text b).toList) = some (ipv4Text b).toList := rfl
    rw [AddressGrammar.readGroups, hbody]
    dsimp only
    rw [if_neg (by decide), hipv4]
  have hback : AddressGrammar.strict.readGroups true 7 ("ffff:".toList ++ (ipv4Text b).toList) =
      ([0xFFFF, b.toNat / 65536, b.toNat % 65536], true, []) :=
    (AddressGrammar.readGroups_group (n := 0xFFFF) (by decide) (.colon (ipv4Text b).toList) 6 rfl).trans (by rw [hlast])
  have hread : AddressGrammar.strict.readIpv6
      ((groupsText []).toList ++ ':' :: ':' :: ("ffff:".toList ++ (ipv4Text b).toList)) = _ :=
    AddressGrammar.readIpv6_gap (List.forall_mem_nil _) (by decide) hback
  rw [String.toList_append]
  refine hread.trans (congrArg (fun bits => some (bits, [])) (BitVec.eq_of_toNat_eq ?_))
  rw [mappedIpv4?_eq_some_iff.mp h, toNat_mapIpv4, AddressGrammar.ipv6OfGroups]
  simp only [List.length_cons, List.length_nil, List.nil_append, List.replicate, List.cons_append, List.foldl_cons,
    List.foldl_nil, BitVec.toNat_ofNat]
  omega

/-- **An address of version 6 is read back.** -/
theorem readIpv6_ipv6Text (a : Ipv6) : AddressGrammar.strict.readIpv6 (ipv6Text a).toList = some (a, []) := by
  unfold ipv6Text
  split
  next b hb => exact readIpv6_mapped hb
  next => exact readIpv6_ipv6GroupText a

end

theorem parseIpv4?_ipv4Text (a : Ipv4) : parseIpv4? (ipv4Text a) = some a := by
  rw [parseIpv4?, ← List.append_nil (ipv4Text a).toList, AddressGrammar.readIpv4_ipv4Text a (by simp)]
  rfl

theorem parseIpv6?_ipv6Text (a : Ipv6) : parseIpv6? (ipv6Text a) = some a := by
  rw [parseIpv6?, readIpv6_ipv6Text]
  rfl

/-- A text of version 6 is none of version 4. -/
theorem readIpv4_ipv6Text (g : AddressGrammar) (a : Ipv6) : g.readIpv4 (ipv6Text a).toList = none := by
  unfold ipv6Text
  split
  next =>
    rw [String.toList_append]
    exact AddressGrammar.readIpv4_of_endsGroup (.colon _)
  next =>
    unfold ipv6GroupText
    dsimp only
    split
    next =>
      rw [String.toList_append, String.toList_append, List.append_assoc]
      exact AddressGrammar.readIpv4_groupsText _ (.colon _)
    next =>
      rw [← List.append_nil (groupsText _).toList]
      exact AddressGrammar.readIpv4_groupsText _ (by rintro _ ⟨⟩)

/-- **Every address is read back.** -/
theorem IpAddress.parse?_toString (a : IpAddress) : IpAddress.parse? a.toString = some a := by
  unfold IpAddress.parse?
  cases a with
  | v4 bits => rw [IpAddress.toString, parseIpv4?_ipv4Text]; rfl
  | v6 bits =>
    rw [IpAddress.toString, parseIpv4?, readIpv4_ipv6Text, parseIpv6?_ipv6Text]
    rfl

end WikiGateway
