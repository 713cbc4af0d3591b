import WikiGateway.Proofs.Net.ReadBack
import WikiGateway.Proofs.Net.Spoofing
import WikiGateway.Proofs.Text.Trim

/-!
# Proxies that are listed by their address

An address is read in two ways: as an entry of a list of proxies, where it stays as it is, and as a hop of a chain,
where a mapped address of version 4 is unwrapped and the loopback address of version 6 becomes that of version 4
(`IpAddress.asHop`). The two readings are compared when a listed proxy connects.

* `asHop_eq_self_iff`: which addresses stay as they are.
* `exists_address_of_parseProxy`: an entry that is read in both ways is an address.
* `clientOfChain_of_passes`, `clientOfChain_of_configured`: behind a configured hop, the next one takes its place.
* `resolveClient_of_address`: the client of a connection whose text is an address.
* `listed_proxy_recognized`: a listed proxy is recognized exactly if its address stays as it is. Then the forwarded
  header is followed, and else it is void.
-/

namespace WikiGateway

/-! ## Addresses of hops -/

namespace IpAddress

/-- The address by which a hop goes. -/
def asHop (a : IpAddress) : IpAddress := a.unmapped.foldLoopback

/-- Whether a hop goes by another address: that of loopback in version 6, and those that map version 4. -/
def isRenamed : IpAddress → Bool
  | v4 _ => false
  | v6 bits => bits == 1 || bits >>> 32 == 0xFFFF

/-- An address that is not renamed maps no address of version 4. -/
theorem unmapped_eq_self {a : IpAddress} (h : a.isRenamed = false) : a.unmapped = a := by
  cases a with
  | v4 bits => rfl
  | v6 bits => grind [isRenamed, unmapped, mappedIpv4?]

/-- Addresses that are not renamed stay as they are. -/
theorem asHop_eq_self_iff (a : IpAddress) : a.asHop = a ↔ a.isRenamed = false := by
  cases a with
  | v4 bits => simp [asHop, unmapped, foldLoopback, isRenamed]
  | v6 bits =>
    by_cases hmapped : bits >>> 32 = 0xFFFF
    · have hunmapped : (v6 bits).unmapped = v4 (bits.setWidth 32) := by
        simp only [unmapped, mappedIpv4?, if_pos hmapped]
      simp [asHop, hunmapped, foldLoopback, isRenamed, hmapped]
    · have hunmapped : (v6 bits).unmapped = v6 bits := by
        simp only [unmapped, mappedIpv4?, if_neg hmapped]
      have hrenamed : (v6 bits).isRenamed = (bits == 1) := by
        simp only [isRenamed, beq_eq_false_iff_ne.mpr hmapped, Bool.or_false]
      rw [asHop, hunmapped, hrenamed, foldLoopback]
      simp

end IpAddress

/-- Nothing is taken off a text without brackets. -/
theorem withoutBrackets_of_address {cs : List Char} (h : ∀ c ∈ cs, isAddressChar c = true) :
    withoutBrackets cs = cs := by
  unfold withoutBrackets
  split
  next rest =>
    have hbracket := h '[' List.mem_cons_self
    cases hbracket
  next => rfl

section
variable {entry : String} {a : IpAddress}

/-- An address as that of a client. -/
theorem clientAddress?_of_address (h : IpAddress.parse? (Text.trim entry) = some a) :
    clientAddress? entry = some a.unmapped := by
  have hchars := forall_isAddressChar_of_parse? h
  rw [Text.trim, String.toList_ofList] at hchars
  rw [clientAddress?, withoutBrackets_of_address hchars, ← Text.trim, h, Option.map_some]

/-- An address as that of a hop. -/
theorem hopAddress?_of_address (h : IpAddress.parse? (Text.trim entry) = some a) :
    hopAddress? entry = some a.asHop := by
  rw [hopAddress?, clientAddress?_of_address h, Option.map_some, IpAddress.asHop]

/-- An address as an entry of a list of proxies. -/
theorem parseProxy_of_address (h : IpAddress.parse? (Text.trim entry) = some a) :
    parseProxy entry = .ok (.single a) :=
  parseProxy_eq_ok_iff.mpr (Network.parse?_of_address h)

/-- An entry that is also a hop is an address: a network with a length is no hop, and brackets are for hops only. -/
theorem exists_address_of_parseProxy {network : Network} {hop : IpAddress} (hnetwork : parseProxy entry = .ok network)
    (hhop : hopAddress? entry = some hop) : ∃ a, IpAddress.parse? (Text.trim entry) = some a := by
  obtain ⟨own, hown, -⟩ := Option.map_eq_some_iff.mp hhop
  obtain ⟨a, ha, -⟩ := Option.map_eq_some_iff.mp hown
  have hinside := forall_isAddressChar_of_parse? ha
  rw [String.toList_ofList] at hinside
  rw [parseProxy_eq_ok_iff] at hnetwork
  cases haddress : IpAddress.parse? (Text.trim entry) with
  | some a => exact ⟨a, rfl⟩
  | none =>
    cases hrange : Network.ofRange? (Text.trim entry).toList with
    | none => simp [Network.parse?, hrange, haddress] at hnetwork
    | some range =>
      obtain ⟨digits, front, htext, hfront⟩ := Network.exists_slash_of_ofRange? hrange
      rw [Text.trim, String.toList_ofList] at htext
      -- without brackets around it the text is the address, which has no slash in it
      exfalso
      unfold withoutBrackets at hinside
      split at hinside
      next rest hopen =>
        rw [htext] at hopen
        obtain _ | ⟨c, front⟩ := front
        · cases hopen
        · cases hopen
          have hbracket := hfront '[' List.mem_cons_self
          cases hbracket
      next =>
        have hslash := hinside '/' (by simp [htext])
        cases hslash

end

/-! ## Texts of addresses -/

namespace IpAddress

/-- The text of an address is trimmed. -/
theorem trim_toString (a : IpAddress) : Text.trim a.toString = a.toString := by
  have hchars := forall_isAddressChar_of_parse? a.parse?_toString
  rw [Text.trim, Text.trimBoth_eq_self fun c hc => isSpace_of_isAddressChar (hchars c hc), String.ofList_toList]

/-- The text of an address, as that of a client. -/
theorem clientAddress?_toString (a : IpAddress) : clientAddress? a.toString = some a.unmapped :=
  clientAddress?_of_address (by rw [trim_toString, parse?_toString])

/-- The text of an address, as that of a hop. -/
theorem hopAddress?_toString (a : IpAddress) : hopAddress? a.toString = some a.asHop :=
  hopAddress?_of_address (by rw [trim_toString, parse?_toString])

/-- A mapped address is that of version 4. -/
theorem unmapped_mapIpv4 (b : Ipv4) : (v6 (mapIpv4 b)).unmapped = v4 b := by
  rw [unmapped, mappedIpv4?_eq_some_iff.mpr rfl]

/-- An address by which a hop goes is not renamed. -/
theorem isRenamed_asHop (a : IpAddress) : a.asHop.isRenamed = false := by
  have hloopback : ∀ b : Ipv4, (v4 b).foldLoopback = v4 b := fun b => if_neg nofun
  cases a with
  | v4 bits => rw [asHop, unmapped, hloopback]; rfl
  | v6 bits =>
    rw [asHop, unmapped]
    cases hmapped : mappedIpv4? bits with
    | some b => rw [hloopback]; rfl
    | none =>
      have hhigh : ¬ bits >>> 32 = 0xFFFF := fun h => by simp [mappedIpv4?, h] at hmapped
      show (foldLoopback (v6 bits)).isRenamed = false
      rw [foldLoopback]
      split
      next => rfl
      next hother =>
        have hone : bits ≠ 1 := fun h => hother (congrArg v6 h)
        rw [isRenamed, beq_eq_false_iff_ne.mpr hone, beq_eq_false_iff_ne.mpr hhigh]
        rfl

end IpAddress

/-- What a text spells as a hop is the address by which some hop goes. -/
theorem exists_asHop_of_hopAddress? {s : String} {ip : IpAddress} (h : hopAddress? s = some ip) :
    ∃ a : IpAddress, ip = a.asHop := by
  obtain ⟨own, hown, rfl⟩ := Option.map_eq_some_iff.mp h
  obtain ⟨a, -, rfl⟩ := Option.map_eq_some_iff.mp hown
  exact ⟨a, rfl⟩

/-! ## Connections of configured proxies -/

/-- The client that a forwarded header leads to from a configured proxy with the address `own`, the nearest hop of the
header first. -/
def reportedClient (proxies : ProxyLookup) (allowPrivate : Bool) (own : IpAddress) (header : String) :
    List String → Except ClientError IpAddress
  | [] => .ok own
  | nearest :: behind =>
    if nearest = "unknown" then .ok own
    else
      match hopAddress? nearest with
      | none => .error (.invalidHeader header)
      | some next => clientOfChain proxies allowPrivate next header (nearest :: behind)

section
variable {proxies : ProxyLookup} {allowPrivate : Bool} {own current : IpAddress} {header hop : String}

/-- Behind a configured hop that is passed, the next hop takes its place. -/
theorem clientOfChain_of_passes {nearest : String} {behind : List String}
    (hhop : hopAddress? hop = some current) (hconfigured : proxies.isConfigured current = true)
    (hpass : passes proxies allowPrivate (hop :: nearest :: behind) 0 = true) :
    clientOfChain proxies allowPrivate own header (hop :: nearest :: behind) =
      match hopAddress? nearest with
      | none => .error (.invalidHeader header)
      | some next => clientOfChain proxies allowPrivate next header (nearest :: behind) := by
  rw [clientOfChain, firstStop_cons hpass]
  cases hnext : hopAddress? nearest with
  | none =>
    rw [firstStop_eq_zero (passes_zero_of_none hnext)]
    simp [hopAt?, hnext, hhop, hconfigured]
  | some next =>
    dsimp only
    rw [clientOfChain]
    cases firstStop proxies allowPrivate (nearest :: behind) with
    | zero => simp [hopAt?, hnext]
    | succ k => rfl

/-- The header of a configured proxy is followed. -/
theorem clientOfChain_of_configured (hhop : hopAddress? hop = some current)
    (hconfigured : proxies.isConfigured current = true) (htrusted : proxies.isTrusted current = true)
    (hops : List String) :
    clientOfChain proxies allowPrivate own header (hop :: hops) =
      reportedClient proxies allowPrivate own header hops := by
  cases hops with
  | nil =>
    have hstop : passes proxies allowPrivate [hop] 0 = false := by simp [passes]
    rw [clientOfChain, firstStop_eq_zero hstop, reportedClient]
  | cons nearest behind =>
    have hpasses : passes proxies allowPrivate (hop :: nearest :: behind) 0 = (nearest != "unknown") := by
      rw [passes_zero_of_some hhop, hconfigured, htrusted, Bool.or_true, Bool.and_true, Bool.and_true]
    rw [reportedClient]
    by_cases hunknown : nearest = "unknown"
    · rw [if_pos hunknown, clientOfChain, firstStop_eq_zero (by rw [hpasses, hunknown]; rfl)]
    · rw [if_neg hunknown]
      exact clientOfChain_of_passes hhop hconfigured (by simp [hpasses, hunknown])

end

/-- The connection of a client whose text is an address. -/
theorem connection_of_address {entry : String} {a : IpAddress} (h : IpAddress.parse? (Text.trim entry) = some a) :
    connection (some entry) = .ok (Text.trim entry, a.unmapped) := by
  have hcomma : ',' ∉ (Text.trim entry).toList := by
    intro hcomma
    have hchar := forall_isAddressChar_of_parse? h ',' hcomma
    cases hchar
  simp only [connection, Option.getD_some, Option.bind_some, if_neg (ne_empty_of_parse? h), if_neg hcomma,
    clientAddress?_of_address h]

-- Opened by `delta` for the same reason as `parseProxy`: `unfold` tries to run the reader.
/-- The client of a connection whose text is an address. -/
theorem resolveClient_of_address {proxies : ProxyLookup} {allowPrivate : Bool} {entry : String} {a : IpAddress}
    (h : IpAddress.parse? (Text.trim entry) = some a) (header : Option String) :
    resolveClient proxies allowPrivate (some entry) header =
      match header with
      | none => .ok a.unmapped
      | some header =>
        clientOfChain proxies allowPrivate a.unmapped header (Text.trim entry :: forwardedHops header) := by
  rw [resolveClient_eq_specified]
  delta specifiedClient
  rw [connection_of_address h]
  cases header <;> rfl

/-! ## Listed proxies -/

/-- The network of one address configures this address alone. -/
theorem isConfigured_single (a b : IpAddress) (trusted : List Network) :
    (ProxyList.mk [.single a] trusted).isConfigured b = decide (a = b) := by
  simp [ProxyList.isConfigured, Network.contains_single]

/-- **Listed proxies.** An entry of the list that is also the text of a connection is an address `a`. The proxy is
recognized by it when it connects exactly if hops are not given another address in place of `a`: then the forwarded
header is followed from the proxy on, and else it is void, unless a trusted network has that other address. -/
theorem listed_proxy_recognized {entry : String} {network : Network} {hop : IpAddress}
    (hnetwork : parseProxy entry = .ok network) (hhop : hopAddress? entry = some hop) (trusted : List Network) :
    ∃ a, IpAddress.parse? (Text.trim entry) = some a ∧ network = .single a ∧ hop = a.asHop ∧
      (ProxyList.mk [network] trusted).isConfigured hop = !a.isRenamed ∧
      (a.isRenamed = false → ∀ allowPrivate header,
        resolveClient (ProxyList.mk [network] trusted).lookup allowPrivate (some entry) (some header) =
          reportedClient (ProxyList.mk [network] trusted).lookup allowPrivate a header (forwardedHops header)) ∧
      (a.isRenamed = true → trusted.any (·.contains hop) = false → ∀ allowPrivate header,
        resolveClient (ProxyList.mk [network] trusted).lookup allowPrivate (some entry) (some header) =
          .ok a.unmapped) := by
  obtain ⟨a, ha⟩ := exists_address_of_parseProxy hnetwork hhop
  have hsingle : network = .single a := by
    rw [parseProxy_of_address ha] at hnetwork
    exact (Except.ok.inj hnetwork).symm
  have hasHop : hop = a.asHop := by
    rw [hopAddress?_of_address ha] at hhop
    exact (Option.some.inj hhop).symm
  subst hsingle hasHop
  have hconfigured : (ProxyList.mk [.single a] trusted).isConfigured a.asHop = !a.isRenamed := by
    rw [isConfigured_single]
    simp [eq_comm (a := a), a.asHop_eq_self_iff]
  refine ⟨a, ha, rfl, rfl, hconfigured, fun hrenamed allowPrivate header => ?_,
    fun hrenamed huntrusted allowPrivate header => ?_⟩
  · rw [hrenamed] at hconfigured
    have htrusted := ProxyList.isTrusted_of_isConfigured hconfigured
    rw [resolveClient_of_address ha, IpAddress.unmapped_eq_self hrenamed]
    exact clientOfChain_of_configured ((hopAddress?_trim entry).trans hhop) hconfigured htrusted (forwardedHops header)
  · rw [hrenamed] at hconfigured
    have hremote : (some entry).bind hopAddress? = some a.asHop := hhop
    have huntrusted' : (ProxyList.mk [.single a] trusted).lookup.isTrusted a.asHop = false := by
      simp [ProxyList.lookup, ProxyList.isTrusted, hconfigured, huntrusted]
    rw [resolveClient_of_untrusted hremote huntrusted', resolveClient_of_address ha]

/-- A proxy that is listed by an address of version 6 and reports a client, and one on the same machine. -/
theorem listed_proxy_recognized_version_six :
    let proxy : IpAddress := .v6 0x20010DB8000000000000000000000001
    (parseProxy " 2001:DB8:0::1" = .ok (.single proxy) ∧ hopAddress? " 2001:DB8:0::1" = some proxy ∧
      (ProxyList.mk [.single proxy] []).isConfigured proxy = true ∧
      ∀ allowPrivate, resolveClient (ProxyList.mk [.single proxy] []).lookup allowPrivate (some " 2001:DB8:0::1")
        (some "192.0.2.1, 198.51.100.7") = .ok (.v4 0xC6336407)) ∧
    (parseProxy "::1" = .ok (.single (.v6 1)) ∧ hopAddress? "::1" = some (.v4 0x7F000001) ∧
      ∀ allowPrivate header, resolveClient (ProxyList.mk [.single (.v6 1)] []).lookup allowPrivate (some "::1")
        (some header) = .ok (.v6 1)) := by
  intro proxy
  have hnetwork : parseProxy " 2001:DB8:0::1" = .ok (.single proxy) := by decide +kernel
  have hhop : hopAddress? " 2001:DB8:0::1" = some proxy := by decide +kernel
  have hloopback : parseProxy "::1" = .ok (.single (.v6 1)) := by decide +kernel
  have hloopbackHop : hopAddress? "::1" = some (.v4 0x7F000001) := by decide +kernel
  refine ⟨⟨hnetwork, hhop, ?_⟩, hloopback, hloopbackHop, ?_⟩
  · obtain ⟨a, ha, -, -, hconfigured, hfollowed, -⟩ := listed_proxy_recognized hnetwork hhop []
    rw [show IpAddress.parse? (Text.trim " 2001:DB8:0::1") = some proxy by decide +kernel] at ha
    cases ha
    refine ⟨hconfigured, fun allowPrivate => ?_⟩
    rw [hfollowed (by decide)]
    revert allowPrivate
    decide +kernel
  · obtain ⟨a, ha, -, -, -, -, hvoid⟩ := listed_proxy_recognized hloopback hloopbackHop []
    rw [show IpAddress.parse? (Text.trim "::1") = some (.v6 1) by decide +kernel] at ha
    cases ha
    exact hvoid (by decide) rfl

/-- Proxies that are listed by the loopback address of version 6, or by an address that maps one of version 4: they are
not recognized when they connect, and the client that they report is not believed. -/
theorem listed_proxy_not_recognized :
    (parseProxy "::1" = .ok (.single (.v6 1)) ∧ hopAddress? "::1" = some (.v4 0x7F000001) ∧
      (ProxyList.mk [.single (.v6 1)] []).isConfigured (.v4 0x7F000001) = false ∧
      resolveClient (ProxyList.mk [.single (.v6 1)] []).lookup false (some "::1") (some "198.51.100.7") =
        .ok (.v6 1)) ∧
    (parseProxy "::ffff:192.0.2.1" = .ok (.single (.v6 0xFFFFC0000201)) ∧
      hopAddress? "::ffff:192.0.2.1" = some (.v4 0xC0000201) ∧
      (ProxyList.mk [.single (.v6 0xFFFFC0000201)] []).isConfigured (.v4 0xC0000201) = false ∧
      resolveClient (ProxyList.mk [.single (.v6 0xFFFFC0000201)] []).lookup false (some "::ffff:192.0.2.1")
        (some "198.51.100.7") = .ok (.v4 0xC0000201)) := by
  decide +kernel

end WikiGateway
