import Mathlib.Data.Nat.Find
import WikiGateway.Net.Forwarded
import WikiGateway.Proofs.Text.Trim

/-!
# The client's place in the chain

The chain of a request is its connection followed by the entries of the forwarded header from the last to the first.
The walk along it keeps the address found so far one hop ahead of the hop that it looks at. Here its answer is read
off one position instead: the first hop that is not passed (`firstStop`).

* `followChain_eq`: the walk ends with what stands at that position.
* `clientOfChain`, `specifiedClient`: the address of the client by that position.
* `resolveClient_eq_specified`: this is the address that is resolved; any other than the connection's own is an entry
  of the header that only trusted hops vouch for.
-/

namespace WikiGateway

/-! ## Positions of a chain -/

section
variable (proxies : ProxyLookup) (allowPrivate : Bool)

/-- The address of the hop at a position. -/
def hopAt? (chain : List String) (i : Nat) : Option IpAddress := (chain[i]?).bind hopAddress?

/-- Whether the walk passes the hop at a position: it is trusted, and there is a next hop, which is not called unknown
and is public, unless private addresses are allowed or the hop is configured. -/
def passes (chain : List String) (i : Nat) : Bool :=
  match hopAt? chain i, chain[i + 1]? with
  | some current, some next =>
    next != "unknown" && proxies.isTrusted current && (isPublic next || allowPrivate || proxies.isConfigured current)
  | _, _ => false

/-- Nothing passes the end of a chain. -/
theorem exists_not_passes (chain : List String) : ∃ i, passes proxies allowPrivate chain i = false :=
  ⟨chain.length, by simp [passes, hopAt?]⟩

/-- The position of the first hop that is not passed. -/
def firstStop (chain : List String) : Nat := Nat.find (exists_not_passes proxies allowPrivate chain)

/-- The address of the client, where `own` is that of the connection. -/
def clientOfChain (own : IpAddress) (header : String) (chain : List String) : Except ClientError IpAddress :=
  match firstStop proxies allowPrivate chain with
  | 0 => .ok own
  | k + 1 =>
    match hopAt? chain (k + 1) with
    | some a => .ok a
    | none => .error (if (hopAt? chain k).any proxies.isConfigured then .invalidHeader header else .unresolvable)

/-- An address that stands behind the connection in a chain, where all hops before it are trusted. -/
def Vouched (chain : List String) (a : IpAddress) : Prop :=
  ∃ k, hopAt? chain (k + 1) = some a ∧ ∀ i ≤ k, ∃ hop, hopAt? chain i = some hop ∧ proxies.isTrusted hop = true

/-- The trimmed text of a connection and its address. -/
def connection (remote : Option String) : Except ClientError (String × IpAddress) :=
  let text := Text.trim (remote.getD "")
  if text = "" then .error .missing
  else if ',' ∈ text.toList then .error (.severalAddresses text)
  else match remote.bind clientAddress? with
    | none => .error .missing
    | some own => .ok (text, own)

/-- The address of the client of a request. -/
def specifiedClient (remote header : Option String) : Except ClientError IpAddress :=
  match connection remote, header with
  | .error e, _ => .error e
  | .ok (_, own), none => .ok own
  | .ok (text, own), some header => clientOfChain proxies allowPrivate own header (text :: forwardedHops header)

end

/-! ## The first stop -/

section
variable {proxies : ProxyLookup} {allowPrivate : Bool} {chain : List String}

theorem passes_firstStop : passes proxies allowPrivate chain (firstStop proxies allowPrivate chain) = false :=
  Nat.find_spec (exists_not_passes proxies allowPrivate chain)

theorem passes_of_lt_firstStop {i : Nat} (h : i < firstStop proxies allowPrivate chain) :
    passes proxies allowPrivate chain i = true := by
  simpa using Nat.find_min (exists_not_passes proxies allowPrivate chain) h

/-- The first stop is the position that is not passed while all before it are. -/
theorem firstStop_eq_of {k : Nat} (hk : passes proxies allowPrivate chain k = false)
    (hlt : ∀ i < k, passes proxies allowPrivate chain i = true) : firstStop proxies allowPrivate chain = k :=
  (Nat.find_eq_iff _).mpr ⟨hk, fun i hi => by simp [hlt i hi]⟩

/-- A hop that is passed is trusted. -/
theorem exists_trusted_of_passes {i : Nat} (h : passes proxies allowPrivate chain i = true) :
    ∃ current, hopAt? chain i = some current ∧ proxies.isTrusted current = true := by
  unfold passes at h
  split at h
  next current next hc hn => exact ⟨current, hc, by simp_all⟩
  next => cases h

/-- Behind a hop that is passed there is another. -/
theorem succ_lt_length_of_passes {i : Nat} (h : passes proxies allowPrivate chain i = true) :
    i + 1 < chain.length := by
  unfold passes at h
  split at h
  next current next hc hn => exact (List.getElem?_eq_some_iff.mp hn).1
  next => cases h

theorem firstStop_lt_length (h : chain ≠ []) : firstStop proxies allowPrivate chain < chain.length := by
  cases hk : firstStop proxies allowPrivate chain with
  | zero => exact List.length_pos_iff.mpr h
  | succ k =>
    have hpass : passes proxies allowPrivate chain k = true := passes_of_lt_firstStop (by omega)
    exact succ_lt_length_of_passes hpass

/-- Before a chain that is passed at its first hop, the first stop moves by one. -/
theorem firstStop_cons {hop : String} (h : passes proxies allowPrivate (hop :: chain) 0 = true) :
    firstStop proxies allowPrivate (hop :: chain) = firstStop proxies allowPrivate chain + 1 :=
  Nat.find_comp_succ _ (exists_not_passes proxies allowPrivate chain) (by simp [h])

theorem firstStop_eq_zero (h : passes proxies allowPrivate chain 0 = false) :
    firstStop proxies allowPrivate chain = 0 := firstStop_eq_of h (by simp)

/-! ## The walk -/

/-- A hop without an address is not passed. -/
theorem passes_zero_of_none {hop : String} {behind : List String} (h : hopAddress? hop = none) :
    passes proxies allowPrivate (hop :: behind) 0 = false := by simp [passes, hopAt?, h]

/-- When a hop with an address is passed. -/
theorem passes_zero_of_some {hop next : String} {behind : List String} {current : IpAddress}
    (h : hopAddress? hop = some current) : passes proxies allowPrivate (hop :: next :: behind) 0 =
      (next != "unknown" && proxies.isTrusted current &&
        (isPublic next || allowPrivate || proxies.isConfigured current)) := by
  simp [passes, hopAt?, h]

/-- The walk stays at a hop that is not passed. -/
theorem followChain_of_not_passes {hop : String} {behind : List String} (header : String) (answer : Option IpAddress)
    (h : passes proxies allowPrivate (hop :: behind) 0 = false) :
    followChain proxies allowPrivate header answer hop behind = .ok answer := by
  cases behind with
  | nil => rfl
  | cons next behind =>
    rw [followChain]
    cases hcurrent : hopAddress? hop with
    | none => rfl
    | some current =>
      rw [passes_zero_of_some hcurrent] at h
      grind

/-- A hop that is passed hands the walk to the next one, which may only be without an address if the hop is not
configured. -/
theorem followChain_of_passes {hop next : String} {behind : List String} (header : String) (answer : Option IpAddress)
    (h : passes proxies allowPrivate (hop :: next :: behind) 0 = true) :
    followChain proxies allowPrivate header answer hop (next :: behind) =
      match hopAddress? next with
      | some a => followChain proxies allowPrivate header (some a) next behind
      | none => if (hopAddress? hop).any proxies.isConfigured then .error (.invalidHeader header) else .ok none := by
  rw [followChain]
  cases hcurrent : hopAddress? hop with
  | none =>
    rw [passes_zero_of_none hcurrent] at h
    cases h
  | some current =>
    rw [passes_zero_of_some hcurrent] at h
    have hname : (next == "unknown" || !proxies.isTrusted current) = false := by grind
    have hpublic : (!(isPublic next || allowPrivate || proxies.isConfigured current)) = false := by grind
    simp only [hname, hpublic, Option.any_some]
    cases hnext : hopAddress? next with
    | some a => rfl
    | none =>
      rw [followChain_of_not_passes header none (passes_zero_of_none hnext)]
      rfl

/-- What stands at the first stop decides about the walk; only there can a hop be without an address. -/
theorem followChain_eq (header : String) : ∀ (behind : List String) (answer : Option IpAddress) (hop : String),
    followChain proxies allowPrivate header answer hop behind =
      match firstStop proxies allowPrivate (hop :: behind) with
      | 0 => .ok answer
      | k + 1 =>
        match hopAt? (hop :: behind) (k + 1) with
        | some a => .ok (some a)
        | none =>
          if (hopAt? (hop :: behind) k).any proxies.isConfigured then .error (.invalidHeader header) else .ok none
  | [], answer, hop => by
    have hstop : passes proxies allowPrivate [hop] 0 = false := by simp [passes]
    rw [firstStop_eq_zero hstop]
    rfl
  | next :: behind, answer, hop => by
    cases hpass : passes proxies allowPrivate (hop :: next :: behind) 0 with
    | false => rw [followChain_of_not_passes header answer hpass, firstStop_eq_zero hpass]
    | true =>
      rw [followChain_of_passes header answer hpass, firstStop_cons hpass]
      cases hnext : hopAddress? next with
      | none =>
        rw [firstStop_eq_zero (passes_zero_of_none hnext)]
        simp [hopAt?, hnext]
      | some a =>
        show followChain proxies allowPrivate header (some a) next behind = _
        rw [followChain_eq header behind (some a) next]
        cases firstStop proxies allowPrivate (next :: behind) with
        | zero => simp [hopAt?, hnext]
        | succ k => rfl

/-! ## The client -/

/-- Blanks around a text do not change its address. -/
@[simp] theorem clientAddress?_trim (s : String) : clientAddress? (Text.trim s) = clientAddress? s := by
  simp only [clientAddress?, Text.trim, String.toList_ofList, Text.trimBoth_trimBoth]

/-- Nor the address that it has in a chain. -/
@[simp] theorem hopAddress?_trim (s : String) : hopAddress? (Text.trim s) = hopAddress? s := by
  simp only [hopAddress?, clientAddress?_trim]

/-- A walk without an address at its end is without a client. -/
theorem clientOfChain_eq (own : IpAddress) (header hop : String) (behind : List String) :
    clientOfChain proxies allowPrivate own header (hop :: behind) =
      match followChain proxies allowPrivate header (some own) hop behind with
      | .error e => .error e
      | .ok none => .error .unresolvable
      | .ok (some a) => .ok a := by
  rw [followChain_eq, clientOfChain]
  cases firstStop proxies allowPrivate (hop :: behind) with
  | zero => rfl
  | succ k =>
    dsimp only
    cases hopAt? (hop :: behind) (k + 1) with
    | some a => rfl
    | none => cases (hopAt? (hop :: behind) k).any proxies.isConfigured <;> rfl

/-- The address that is resolved is the one at the first stop. -/
theorem resolveClient_eq_specified (remote header : Option String) :
    resolveClient proxies allowPrivate remote header = specifiedClient proxies allowPrivate remote header := by
  cases remote with
  | none => rfl
  | some r =>
    simp only [resolveClient, specifiedClient, connection, Option.map_some, Option.getD_some, Option.bind_some]
    by_cases hblank : Text.trim r = ""
    · rw [hblank]
      rfl
    have hfilter : Option.filter (· != "") (some (Text.trim r)) = some (Text.trim r) := by
      simp [Option.filter, hblank]
    rw [hfilter, if_neg hblank]
    by_cases hcomma : ',' ∈ (Text.trim r).toList
    · simp [hcomma]
    cases hown : clientAddress? r with
    | none => simp [hcomma, hown]
    | some own =>
      cases header with
      | none => simp [hcomma, hown]
      | some header =>
        simp only [hcomma, hown, clientAddress?_trim, List.contains_eq_mem, decide_false, Bool.false_eq_true, if_false]
        exact (clientOfChain_eq own header (Text.trim r) (forwardedHops header)).symm

/-- What is known of a connection with one address. -/
theorem of_connection_eq_ok {remote : Option String} {text : String} {own : IpAddress}
    (h : connection remote = .ok (text, own)) :
    text = Text.trim (remote.getD "") ∧ remote.bind clientAddress? = some own := by
  simp only [connection] at h
  split at h
  · cases h
  split at h
  · cases h
  split at h
  next => cases h
  next own' hown =>
    cases h
    exact ⟨rfl, hown⟩

/-- An address other than the connection's own is vouched for. -/
theorem vouched_of_clientOfChain {own a : IpAddress} {header : String} {chain : List String}
    (h : clientOfChain proxies allowPrivate own header chain = .ok a) (hne : a ≠ own) : Vouched proxies chain a := by
  unfold clientOfChain at h
  split at h
  next => cases h; exact absurd rfl hne
  next k hk =>
    split at h
    next b hb =>
      cases h
      refine ⟨k, hb, fun i hi => ?_⟩
      have hpass : passes proxies allowPrivate chain i = true := passes_of_lt_firstStop (by omega)
      exact exists_trusted_of_passes hpass
    next => cases h

end

/-- **The client of a chain.** The address of the client is the one at the first stop, and any other than the
connection's own is vouched for by trusted hops alone. -/
theorem resolveClient_firstStop (proxies : ProxyLookup) (allowPrivate : Bool) (remote header : Option String) :
    resolveClient proxies allowPrivate remote header = specifiedClient proxies allowPrivate remote header ∧
      ∀ a, resolveClient proxies allowPrivate remote header = .ok a → remote.bind clientAddress? ≠ some a →
        ∃ value, header = some value ∧
          Vouched proxies (Text.trim (remote.getD "") :: forwardedHops value) a := by
  refine ⟨resolveClient_eq_specified remote header, fun a ha hne => ?_⟩
  rw [resolveClient_eq_specified] at ha
  unfold specifiedClient at ha
  split at ha
  next => cases ha
  next text own hconnection =>
    cases ha
    exact absurd (of_connection_eq_ok hconnection).2 hne
  next text own value hconnection =>
    obtain ⟨htext, hown⟩ := of_connection_eq_ok hconnection
    refine ⟨value, rfl, ?_⟩
    rw [← htext]
    exact vouched_of_clientOfChain ha fun hsame => hne (hsame ▸ hown)

/-- Through two trusted proxies, what the client itself wrote in front of its own address is not reached. -/
theorem resolveClient_firstStop_two_proxies :
    resolveClient (ProxyList.lookup ⟨[], [.v4 0xCB007100 24]⟩) false (some "203.0.113.1")
        (some "192.0.2.1, 198.51.100.7, 203.0.113.2") = .ok (.v4 0xC6336407) ∧
      (some "203.0.113.1").bind clientAddress? ≠ some (.v4 0xC6336407) ∧
      ∃ value, some "192.0.2.1, 198.51.100.7, 203.0.113.2" = some value ∧
        Vouched (ProxyList.lookup ⟨[], [.v4 0xCB007100 24]⟩)
          (Text.trim ((some "203.0.113.1").getD "") :: forwardedHops value) (.v4 0xC6336407) := by
  have hclient : resolveClient (ProxyList.lookup ⟨[], [.v4 0xCB007100 24]⟩) false (some "203.0.113.1")
      (some "192.0.2.1, 198.51.100.7, 203.0.113.2") = .ok (.v4 0xC6336407) := by decide +kernel
  have hother : (some "203.0.113.1").bind clientAddress? ≠ some (.v4 0xC6336407) := by decide +kernel
  exact ⟨hclient, hother, (resolveClient_firstStop _ false _ _).2 _ hclient hother⟩

end WikiGateway
