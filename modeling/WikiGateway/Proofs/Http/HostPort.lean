import WikiGateway.Http.Origin
import WikiGateway.Proofs.Net.AddressText
import WikiGateway.Proofs.Text.Digits

/-!
# Hosts with ports, split and joined

A host that is split off a text is an address of version 6, which has a colon and no bracket, or a name, which has no
colon and no bracket in front (`IsSplitHost`). So it is known from its text how it was written, and joined with a port
it is split again into both, whatever the test for names is. The test matters for the origin of a request, which is free
of the characters that end an authority only if every name is (`IsNameTest`).

* `parsePort?_repr`: a port is read back.
* `isSplitHost_of_splitHostPortWith?`, `IsSplitHost.split_join`: what is split off a text is split again.
* `IsSplitHost.inside`: it stands in an authority.
* `Transport.Chooses`: the host and the port of a request.
* `detectServerWith_splits`: the origin is made of them.
-/

namespace WikiGateway

/-! ## Ports -/

/-- A port is read back. -/
theorem parsePort?_repr {n : Nat} (h : n < 65536) : parsePort? n.repr.toList = some n := by
  have hport : isPort n.repr.toList = true := by
    have hall : n.repr.toList.all Char.isDigit = true := List.all_eq_true.mpr fun c => Text.isDigit_of_mem_repr
    rw [isPort, hall, Nat.toList_repr, Text.digitsValue_toDigits]
    simp [Nat.toDigits_ne_nil, h]
  rw [parsePort?, if_pos hport, Nat.toList_repr, Text.digitsValue_toDigits]

theorem lt_of_parsePort? {cs : List Char} {n : Nat} (h : parsePort? cs = some n) : n < 65536 := by
  rw [parsePort?, Option.ite_none_right_eq_some] at h
  obtain ⟨hport, hn⟩ := h
  rw [isPort, Bool.and_eq_true, decide_eq_true_eq, Option.some.inj hn] at hport
  exact hport.2

/-! ## Splitting -/

section
variable {isName : String → Bool} {s host : String} {port : Option Nat}

/-- A host that is split off a text: an address of version 6, or a name that is told from one. -/
inductive IsSplitHost (isName : String → Bool) (host : String) : Prop
  | address {a : Ipv6} : parseIpv6? host = some a → IsSplitHost isName host
  | name : host ≠ "" → isName host = true → ':' ∉ host.toList → host.toList.head? ≠ some '[' → IsSplitHost isName host

theorem splitHostPortWith?_bracket {cs : List Char} (h : s.toList = '[' :: cs) :
    splitHostPortWith? isName s = splitBracketed? cs := by
  rw [splitHostPortWith?, h]
  rfl

/-- A text without a bracket in front is an address or a name. -/
theorem splitHostPortWith?_of_head (h : s.toList.head? ≠ some '[') : splitHostPortWith? isName s =
    if 1 < s.toList.count ':' then (parseIpv6? s).map fun _ => (s, none) else splitNamed? isName s.toList := by
  unfold splitHostPortWith?
  split
  next hs => exact absurd (by rw [hs]; rfl) h
  next => rfl

theorem isSplitHost_of_splitBracketed? {cs : List Char} (h : splitBracketed? cs = some (host, port)) :
    IsSplitHost isName host ∧ ∀ p ∈ port, p < 65536 := by
  unfold splitBracketed? at h
  split at h
  next => cases h
  next address tail _ =>
    dsimp only at h
    split at h
    next => cases h
    next hsome =>
      have haddress : IsSplitHost isName (String.ofList address) := by
        rw [Bool.not_eq_true, Option.isNone_eq_false_iff] at hsome
        exact .address (Option.eq_some_of_isSome hsome)
      split at h
      next =>
        cases h
        exact ⟨haddress, nofun⟩
      next =>
        obtain ⟨p, hp, heq⟩ := Option.map_eq_some_iff.mp h
        cases heq
        refine ⟨haddress, ?_⟩
        rintro _ ⟨⟩
        exact lt_of_parsePort? hp
      next => cases h

theorem isSplitHost_of_check {name : List Char} {p : Option Nat} (hcolon : ':' ∉ name) (hhead : name.head? ≠ some '[')
    (h : splitNamed?.check isName name p = some (host, port)) : IsSplitHost isName host ∧ port = p := by
  unfold splitNamed?.check at h
  dsimp only at h
  rw [Option.ite_none_right_eq_some, Bool.and_eq_true, bne_iff_ne] at h
  obtain ⟨⟨hne, hname⟩, heq⟩ := h
  cases heq
  exact ⟨.name hne hname (by rwa [String.toList_ofList]) (by rwa [String.toList_ofList]), rfl⟩

theorem isSplitHost_of_splitNamed? {cs : List Char} (hhead : cs.head? ≠ some '[')
    (h : splitNamed? isName cs = some (host, port)) : IsSplitHost isName host ∧ ∀ p ∈ port, p < 65536 := by
  unfold splitNamed? at h
  split at h
  next hcut =>
    have hcolon : ':' ∉ cs := fun hmem => absurd ((Text.cut?_eq_none_iff _).mp hcut ':' hmem) (by decide)
    obtain ⟨hhost, rfl⟩ := isSplitHost_of_check hcolon hhead h
    exact ⟨hhost, nofun⟩
  next name digits hcut =>
    obtain ⟨p, hp, hcheck⟩ := Option.bind_eq_some_iff.mp h
    obtain ⟨hbefore, colon, -, rfl⟩ := Text.of_cut?_eq_some _ hcut
    have hcolon : ':' ∉ name := fun hmem => absurd (hbefore ':' hmem) (by decide)
    have hfront : name.head? ≠ some '[' := by
      intro hname
      rw [List.head?_append, hname] at hhead
      exact hhead rfl
    obtain ⟨hhost, rfl⟩ := isSplitHost_of_check hcolon hfront hcheck
    refine ⟨hhost, ?_⟩
    rintro _ ⟨⟩
    exact lt_of_parsePort? hp

/-- What is split off a text. -/
theorem isSplitHost_of_splitHostPortWith? (h : splitHostPortWith? isName s = some (host, port)) :
    IsSplitHost isName host ∧ ∀ p ∈ port, p < 65536 := by
  by_cases hhead : s.toList.head? = some '['
  · obtain ⟨cs, hs⟩ := List.head?_eq_some_iff.mp hhead
    rw [splitHostPortWith?_bracket hs] at h
    exact isSplitHost_of_splitBracketed? h
  · rw [splitHostPortWith?_of_head hhead] at h
    split at h
    next =>
      obtain ⟨a, ha, heq⟩ := Option.map_eq_some_iff.mp h
      cases heq
      exact ⟨.address ha, nofun⟩
    next => exact isSplitHost_of_splitNamed? hhead h

/-! ## Joining -/

/-- A host with a colon stands in brackets. -/
theorem joinHostPort_of_colon (h : ':' ∈ host.toList) (n d : Nat) :
    (joinHostPort host n d).toList = '[' :: (host.toList ++ ']' :: if n = d then [] else ':' :: n.repr.toList) := by
  have hcontains : host.toList.contains ':' = true := List.contains_iff_mem.mpr h
  simp only [joinHostPort, hcontains, if_true]
  split <;> simp

theorem joinHostPort_of_no_colon (h : ':' ∉ host.toList) (n d : Nat) :
    (joinHostPort host n d).toList = host.toList ++ if n = d then [] else ':' :: n.repr.toList := by
  have hcontains : ¬ host.toList.contains ':' = true := fun hmem => h (List.contains_iff_mem.mp hmem)
  simp only [joinHostPort, hcontains]
  split <;> simp

/-- An address in brackets is split from what is behind them. -/
theorem splitBracketed?_address {a : Ipv6} (h : parseIpv6? host = some a) :
    splitBracketed? (host.toList ++ [']']) = some (host, none) ∧
      ∀ digits, splitBracketed? (host.toList ++ ']' :: ':' :: digits) =
        (parsePort? digits).map fun port => (host, some port) := by
  have hbracket : ∀ c ∈ host.toList, (c == ']') = false := by
    intro c hc
    rw [beq_eq_false_iff_ne]
    rintro rfl
    exact absurd (isAddressChar_of_parseIpv6? h ']' hc) (by decide)
  have hcut : ∀ tail, Text.cut? (· == ']') (host.toList ++ ']' :: tail) = some (host.toList, tail) := fun tail =>
    Text.cut?_append_cons _ rfl tail hbracket
  refine ⟨?_, fun digits => ?_⟩ <;> simp [splitBracketed?, hcut, h]

/-- A name is split from what is behind it. -/
theorem splitNamed?_name (hne : host ≠ "") (hname : isName host = true) (hcolon : ':' ∉ host.toList) :
    splitNamed? isName host.toList = some (host, none) ∧
      ∀ digits, splitNamed? isName (host.toList ++ ':' :: digits) =
        (parsePort? digits).map fun port => (host, some port) := by
  have hfree : ∀ c ∈ host.toList, (c == ':') = false := fun c hc =>
    beq_eq_false_iff_ne.mpr (ne_of_mem_of_not_mem hc hcolon)
  have hcheck : ∀ p, splitNamed?.check isName host.toList p = some (host, p) := by
    intro p
    simp [splitNamed?.check, hne, hname]
  refine ⟨?_, fun digits => ?_⟩
  · rw [splitNamed?, (Text.cut?_eq_none_iff _).mpr hfree]
    exact hcheck none
  · rw [splitNamed?, Text.cut?_append_cons _ rfl _ hfree]
    dsimp only
    cases parsePort? digits with
    | none => rfl
    | some p => exact hcheck (some p)

/-- **A host and a port are split again**, without the port if it is the default one. -/
theorem IsSplitHost.split_join (h : IsSplitHost isName host) {n : Nat} (hn : n < 65536) (d : Nat) :
    splitHostPortWith? isName (joinHostPort host n d) = some (host, if n = d then none else some n) := by
  cases h with
  | address ha =>
    obtain ⟨halone, hwith⟩ := splitBracketed?_address ha
    rw [splitHostPortWith?_bracket (joinHostPort_of_colon (colon_mem_of_parseIpv6? ha) n d)]
    split
    · exact halone
    · rw [hwith, parsePort?_repr hn]
      rfl
  | name hne hname hcolon hhead =>
    obtain ⟨halone, hwith⟩ := splitNamed?_name hne hname hcolon
    have htext := joinHostPort_of_no_colon hcolon n d
    have hfront : (joinHostPort host n d).toList.head? ≠ some '[' := by
      rw [htext]
      cases hs : host.toList with
      | nil => exact absurd (String.toList_eq_nil_iff.mp hs) hne
      | cons c cs =>
        rw [hs] at hhead
        exact hhead
    have hcount : ¬ 1 < (joinHostPort host n d).toList.count ':' := by
      have hdigits : ':' ∉ n.repr.toList := fun hmem => absurd (Text.isDigit_of_mem_repr hmem) (by decide)
      rw [htext, List.count_append, List.count_eq_zero_of_not_mem hcolon]
      split
      · decide
      · rw [List.count_cons_self, List.count_eq_zero_of_not_mem hdigits]
        decide
    rw [splitHostPortWith?_of_head hfront, if_neg hcount, htext]
    split
    · rw [List.append_nil]
      exact halone
    · rw [hwith, parsePort?_repr hn]
      rfl

end

/-! ## Origins -/

/-- A character that does not stand in an authority. -/
def isOutsideAuthority (c : Char) : Bool := "/?#@ \t\n\x0C\r".toList.contains c

/-- A class of characters is inside if it has none of those outside. -/
theorem isOutsideAuthority_eq_false {p : Char → Bool} (h : ("/?#@ \t\n\x0C\r".toList.all fun c => !p c) = true)
    {c : Char} (hc : p c = true) : isOutsideAuthority c = false := by
  rw [isOutsideAuthority, ← Bool.not_eq_true, List.contains_iff_mem]
  intro hmem
  have hnot := List.all_eq_true.mp h c hmem
  rw [hc] at hnot
  cases hnot

/-- What is asked of a test for names: the local host is one, and all of them can stand in an authority. -/
structure IsNameTest (isName : String → Bool) : Prop where
  localhost : isName "localhost" = true
  inside : ∀ name, isName name = true → ∀ c ∈ name.toList, isOutsideAuthority c = false

/-- The port of an origin whose host has one or none in its source: the standard one if a proxy passed on the protocol
and standard ports are to be assumed, or else that of the source, or else that of the server, or else the standard
one. -/
inductive Transport.ChoosesPort (t : Transport) (assumeDefaultPorts : Bool) : Option Nat → Nat → Prop
  | assumed {port : Option Nat} : assumeDefaultPorts = true → t.header? "X-Forwarded-Proto" ≠ none →
      ChoosesPort t assumeDefaultPorts port (detectProtocol t).standardPort
  | source {port : Nat} : (assumeDefaultPorts = true → t.header? "X-Forwarded-Proto" = none) →
      ChoosesPort t assumeDefaultPorts (some port) port
  | server {port : Nat} : (assumeDefaultPorts = true → t.header? "X-Forwarded-Proto" = none) →
      t.serverPort = some port → ChoosesPort t assumeDefaultPorts none port
  | standard : (assumeDefaultPorts = true → t.header? "X-Forwarded-Proto" = none) → t.serverPort = none →
      ChoosesPort t assumeDefaultPorts none (detectProtocol t).standardPort

/-- The texts that may say the host of a request, in their order: the header field `Host`, and then the name, the host
name and the address of the server. -/
def Transport.hostTexts (t : Transport) : List String :=
  (t.header? "Host").toList ++ t.serverName.toList ++ t.hostname.toList ++ t.serverAddr.toList

theorem hostSources_eq_hostTexts (t : Transport) : hostSources t = t.hostTexts := by
  unfold hostSources Transport.hostTexts
  cases t.header? "Host" <;> cases t.serverName <;> cases t.hostname <;> cases t.serverAddr <;> rfl

/-- The host and the port of a request: those of the first text that is split into a host and a port, or the local host
and the standard port. -/
inductive Transport.Chooses (t : Transport) (isName : String → Bool) (assumeDefaultPorts : Bool) : String → Nat → Prop
  | source {before after : List String} {s host : String} {explicit : Option Nat} {port : Nat} :
      t.hostTexts = before ++ s :: after → (∀ s ∈ before, splitHostPortWith? isName s = none) →
      splitHostPortWith? isName s = some (host, explicit) → t.ChoosesPort assumeDefaultPorts explicit port →
      Chooses t isName assumeDefaultPorts host port
  | none : (∀ s ∈ t.hostTexts, splitHostPortWith? isName s = none) →
      Chooses t isName assumeDefaultPorts "localhost" (detectProtocol t).standardPort

section
variable {isName : String → Bool} {t : Transport} {assumeDefaultPorts : Bool} {host : String} {port : Nat}

theorem Protocol.standardPort_lt (p : Protocol) : p.standardPort < 65536 := by
  cases p <;> decide

theorem Transport.choosesPort (t : Transport) (assumeDefaultPorts : Bool) (explicit : Option Nat) :
    t.ChoosesPort assumeDefaultPorts explicit
      (if assumeDefaultPorts && (t.header? "X-Forwarded-Proto").isSome then (detectProtocol t).standardPort
        else (explicit <|> t.serverPort).getD (detectProtocol t).standardPort) := by
  split
  next h =>
    rw [Bool.and_eq_true, Option.isSome_iff_ne_none] at h
    exact .assumed h.1 h.2
  next h =>
    have hown : assumeDefaultPorts = true → t.header? "X-Forwarded-Proto" = none := by
      rintro rfl
      simpa using h
    cases explicit with
    | some port => exact .source hown
    | none =>
      cases hserver : t.serverPort with
      | some port => exact .server hown hserver
      | none => exact .standard hown hserver

/-- The origin is that of the host and the port that are chosen. -/
theorem exists_chooses (isName : String → Bool) (t : Transport) (assumeDefaultPorts : Bool) :
    ∃ host port, t.Chooses isName assumeDefaultPorts host port ∧ detectServerWith isName t assumeDefaultPorts =
      (detectProtocol t).scheme ++ "://" ++ joinHostPort host port (detectProtocol t).standardPort := by
  unfold detectServerWith
  rw [hostSources_eq_hostTexts]
  dsimp only
  cases hfound : t.hostTexts.findSome? (splitHostPortWith? isName) with
  | none => exact ⟨_, _, .none (List.findSome?_eq_none_iff.mp hfound), rfl⟩
  | some found =>
    obtain ⟨host, explicit⟩ := found
    obtain ⟨before, s, after, hsources, hs, hbefore⟩ := List.findSome?_eq_some_iff.mp hfound
    exact ⟨_, _, .source hsources hbefore hs (t.choosesPort assumeDefaultPorts explicit), rfl⟩

theorem Transport.ChoosesPort.lt {explicit : Option Nat} (h : t.ChoosesPort assumeDefaultPorts explicit port)
    (hexplicit : ∀ p ∈ explicit, p < 65536) (hserver : ∀ p ∈ t.serverPort, p < 65536) : port < 65536 := by
  cases h with
  | assumed | standard => exact Protocol.standardPort_lt _
  | source => exact hexplicit port rfl
  | server _ hport => exact hserver port hport

/-- The host and the port of a request can be joined. -/
theorem Transport.Chooses.isSplitHost (hlocal : isName "localhost" = true) (hserver : ∀ p ∈ t.serverPort, p < 65536)
    (h : t.Chooses isName assumeDefaultPorts host port) : IsSplitHost isName host ∧ port < 65536 := by
  cases h with
  | source _ _ hs hport =>
    obtain ⟨hhost, hexplicit⟩ := isSplitHost_of_splitHostPortWith? hs
    exact ⟨hhost, hport.lt hexplicit hserver⟩
  | none => exact ⟨.name (by decide) hlocal (by decide) (by decide), Protocol.standardPort_lt _⟩

/-- What an address is written with stands in an authority. -/
theorem isOutsideAuthority_of_isAddressChar {c : Char} (h : isAddressChar c = true) : isOutsideAuthority c = false :=
  isOutsideAuthority_eq_false (by decide) h

/-- So does what is behind the host. -/
theorem isOutsideAuthority_port {n d : Nat} {c : Char} (h : c ∈ if n = d then [] else ':' :: n.repr.toList) :
    isOutsideAuthority c = false := by
  split at h
  · cases h
  · rcases List.mem_cons.mp h with rfl | h
    · rfl
    · exact isOutsideAuthority_of_isAddressChar (AddressGrammar.isAddressChar_of_isDigit (Text.isDigit_of_mem_repr h))

/-- A host that is joined with a port stands in an authority. -/
theorem IsSplitHost.inside (hname : IsNameTest isName) (h : IsSplitHost isName host) (n d : Nat) :
    ∀ c ∈ (joinHostPort host n d).toList, isOutsideAuthority c = false := by
  intro c hc
  cases h with
  | address ha =>
    rw [joinHostPort_of_colon (colon_mem_of_parseIpv6? ha)] at hc
    rcases List.mem_cons.mp hc with rfl | hc
    · rfl
    · rcases List.mem_append.mp hc with hc | hc
      · exact isOutsideAuthority_of_isAddressChar (isAddressChar_of_parseIpv6? ha c hc)
      · rcases List.mem_cons.mp hc with rfl | hc
        · rfl
        · exact isOutsideAuthority_port hc
  | name _ his hcolon =>
    rw [joinHostPort_of_no_colon hcolon] at hc
    rcases List.mem_append.mp hc with hc | hc
    · exact hname.inside host his c hc
    · exact isOutsideAuthority_port hc

end

/-- **The origin of a request is split again.** Whatever test for names there is, a host that is split off a text and a
port are joined to a text that is split into both, without the port if it is the default one. If only plain texts are
names, the origin of every request is its scheme, and behind that the host and the port that it chooses: an authority
without characters that end one, which is split into them again, without the port if it is the standard one. -/
theorem detectServerWith_splits (isName : String → Bool) (hname : IsNameTest isName) :
    (∀ (t : Transport) (assumeDefaultPorts : Bool), (∀ p ∈ t.serverPort, p < 65536) →
      ∃ host port authority, t.Chooses isName assumeDefaultPorts host port ∧
        detectServerWith isName t assumeDefaultPorts = (detectProtocol t).scheme ++ "://" ++ authority ∧
        (∀ c ∈ authority.toList, c ∉ "/?#@ \t\n\x0C\r".toList) ∧
        splitHostPortWith? isName authority =
          some (host, if port = (detectProtocol t).standardPort then none else some port)) ∧
    ∀ (input host : String) (explicit : Option Nat) (n d : Nat),
      splitHostPortWith? isName input = some (host, explicit) → n < 65536 →
      splitHostPortWith? isName (joinHostPort host n d) = some (host, if n = d then none else some n) := by
  refine ⟨fun t assumeDefaultPorts hserver => ?_, fun input host explicit n d hinput hn => ?_⟩
  · obtain ⟨host, port, hchooses, horigin⟩ := exists_chooses isName t assumeDefaultPorts
    obtain ⟨hhost, hport⟩ := hchooses.isSplitHost hname.localhost hserver
    refine ⟨host, port, _, hchooses, horigin, fun c hc hmem => ?_, hhost.split_join hport _⟩
    have hinside := hhost.inside hname port _ c hc
    rw [isOutsideAuthority, List.contains_iff_mem.mpr hmem] at hinside
    cases hinside
  · exact (isSplitHost_of_splitHostPortWith? hinput).1.split_join hn d

/-- A test for names of letters and dots. -/
def isLetterName (name : String) : Bool := name.toList.all fun c => c.isLower || c == '.'

theorem isNameTest_isLetterName : IsNameTest isLetterName where
  localhost := by decide
  inside name h c hc := by
    have hletter : (c.isLower || c == '.') = true := List.all_eq_true.mp h c hc
    exact @isOutsideAuthority_eq_false (fun c => c.isLower || c == '.') (by decide) c hletter

/-- A request whose header field names no host, and whose server names one with a port. -/
theorem detectServerWith_splits_server :
    let t : Transport := {
      serverName := some "wiki.example.org:8080"
      serverPort := some 80
      headers := [("Host", "wiki.example.org/x")] }
    IsNameTest isLetterName ∧ (∀ p ∈ t.serverPort, p < 65536) ∧
      splitHostPortWith? isLetterName "wiki.example.org:8080" = some ("wiki.example.org", some 8080) ∧
      t.Chooses isLetterName true "wiki.example.org" 8080 ∧
      detectServerWith isLetterName t true = "http" ++ "://" ++ "wiki.example.org:8080" ∧
      (∀ c ∈ "wiki.example.org:8080".toList, c ∉ "/?#@ \t\n\x0C\r".toList) ∧
      splitHostPortWith? isLetterName (joinHostPort "wiki.example.org" 80 80) = some ("wiki.example.org", none) := by
  intro t
  have hserver : ∀ p ∈ t.serverPort, p < 65536 := by
    rintro _ ⟨⟩
    decide
  have hinput : splitHostPortWith? isLetterName "wiki.example.org:8080" = some ("wiki.example.org", some 8080) := by
    decide +kernel
  have horigin : detectServerWith isLetterName t true = "http" ++ "://" ++ "wiki.example.org:8080" := by
    unfold t
    decide +kernel
  obtain ⟨hdetect, hsplit⟩ := detectServerWith_splits isLetterName isNameTest_isLetterName
  obtain ⟨host, port, authority, hchooses, hfound, hinside, hread⟩ := hdetect t true hserver
  -- what follows the scheme is the authority, and it is split in one way
  obtain rfl : authority = "wiki.example.org:8080" := by
    have hscheme : (detectProtocol t).scheme = "http" := rfl
    rw [horigin, hscheme, String.append_right_inj] at hfound
    exact hfound.symm
  rw [hinput, Option.some.injEq, Prod.mk.injEq] at hread
  obtain ⟨rfl, hport⟩ := hread
  split at hport
  · cases hport
  · obtain rfl := Option.some.inj hport
    exact ⟨isNameTest_isLetterName, hserver, hinput, hchooses, horigin, hinside,
      hsplit "wiki.example.org:8080" "wiki.example.org" (some 8080) 80 80 hinput (by decide)⟩

/-- The origin is that of the server. -/
example : detectServerWith isLetterName { serverName := some "[::1]:8080", headers := [("Host", "a b")] } true =
    "http://[::1]:8080" := by decide +kernel

end WikiGateway
