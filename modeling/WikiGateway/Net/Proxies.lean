import WikiGateway.Net.Network

/-!
# Proxies

The proxies that an installation runs, and those whose word it takes about the addresses of clients.

* `ProxyLookup`: the two roles of proxies, however they are looked up.
* `ProxyList.lookup`: the look-up in lists of networks; every configured proxy is trusted
  (`isTrusted_of_isConfigured`).
* `parseProxy`: the network of an entry of a list (`parseProxy_eq_ok_iff`, `parseProxy_eq_error_iff`).
-/

namespace WikiGateway

/-- The roles of proxies. -/
structure ProxyLookup where
  /-- Whether an address is one of the installation's own proxies. -/
  isConfigured (a : IpAddress) : Bool
  /-- Whether the word of an address is taken. -/
  isTrusted (a : IpAddress) : Bool

/-- The networks of proxies. -/
structure ProxyList where
  /-- The networks of the installation's own proxies. -/
  configured : List Network
  /-- Further networks whose word is taken. -/
  trusted : List Network
deriving DecidableEq, Repr, Inhabited

namespace ProxyList

/-- Whether an address is one of the installation's own proxies. -/
def isConfigured (proxies : ProxyList) (a : IpAddress) : Bool := proxies.configured.any (·.contains a)

/-- Whether the word of an address is taken. -/
def isTrusted (proxies : ProxyList) (a : IpAddress) : Bool :=
  proxies.isConfigured a || proxies.trusted.any (·.contains a)

/-- The roles by the networks of a list. -/
def lookup (proxies : ProxyList) : ProxyLookup := ⟨proxies.isConfigured, proxies.isTrusted⟩

instance : Coe ProxyList ProxyLookup := ⟨lookup⟩

/-- Every configured proxy is trusted. -/
theorem isTrusted_of_isConfigured {proxies : ProxyList} {a : IpAddress} (h : proxies.isConfigured a = true) :
    proxies.isTrusted a = true := by
  simp [isTrusted, h]

end ProxyList

/-- An entry of a list of proxies that spells no network. -/
structure InvalidProxy where
  /-- The entry without blanks around it. -/
  entry : String
deriving DecidableEq, Repr, Inhabited

/-- The text of the error. -/
def InvalidProxy.message (e : InvalidProxy) : String := "invalid proxy address or range '" ++ e.entry ++ "'"

/-- The network of an entry of a list of proxies. -/
def parseProxy (entry : String) : Except InvalidProxy Network :=
  let entry := Text.trim entry
  match Network.parse? entry with
  | some network => .ok network
  | none => .error ⟨entry⟩

section
variable {entry : String}

-- Here `parseProxy` is opened by `delta`, since `unfold` tries to run the reader on the entry.
/-- An entry is read as its trimmed text. -/
theorem parseProxy_eq_ok_iff {network : Network} :
    parseProxy entry = .ok network ↔ Network.parse? (Text.trim entry) = some network := by
  delta parseProxy
  dsimp only
  generalize Network.parse? (Text.trim entry) = found
  cases found <;> simp

/-- The error names the entry without blanks around it. -/
theorem parseProxy_eq_error_iff {e : InvalidProxy} :
    parseProxy entry = .error e ↔ Network.parse? (Text.trim entry) = none ∧ e = ⟨Text.trim entry⟩ := by
  delta parseProxy
  dsimp only
  generalize Network.parse? (Text.trim entry) = found
  cases found <;> simp [eq_comm]

end

end WikiGateway
