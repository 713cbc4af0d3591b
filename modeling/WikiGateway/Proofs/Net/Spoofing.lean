import WikiGateway.Proofs.Net.Chain

/-!
# Forged entries of the forwarded header

Whoever connects through a proxy may send a forwarded header of their own, to which the proxies add. So what a client
forges stands in front of what the proxies wrote, and in the chain behind it.

* `firstStop_append`: entries behind a chain whose client is not trusted do not move its first stop.
* `forged_entries_ignored`: entries put in front of a header neither change a client that is not trusted nor turn an
  error into an address, and a connection that is not trusted is the client whatever the header says.
-/

namespace WikiGateway

/-! ## Kinds of errors -/

/-- The error with another header in it. -/
def ClientError.withHeader (header : String) : ClientError → ClientError
  | invalidHeader _ => invalidHeader header
  | e => e

/-- The header has no part in the kind of an error. -/
@[simp] theorem ClientError.kind_withHeader (header : String) (e : ClientError) :
    (e.withHeader header).kind = e.kind := by
  cases e <;> rfl

/-- What is wrong with a connection is so without any header. -/
theorem withHeader_of_connection_eq_error {remote : Option String} {e : ClientError} (h : connection remote = .error e)
    (header : String) : e.withHeader header = e := by
  simp only [connection] at h
  split at h
  · cases h; rfl
  split at h
  · cases h; rfl
  split at h <;> cases h
  rfl

/-! ## Longer chains -/

/-- Entries in front of a header come behind its own in the chain. -/
theorem forwardedHops_append (p s : String) : forwardedHops (p ++ "," ++ s) = forwardedHops s ++ forwardedHops p := by
  have hsplit : (p ++ "," ++ s).toList.splitOn ',' = p.toList.splitOn ',' ++ s.toList.splitOn ',' := by
    simp only [String.toList_append, List.append_assoc]
    exact List.splitOn_append_cons_self p.toList s.toList
  simp only [forwardedHops, Text.splitOn_eq, hsplit, List.map_append, List.reverse_append]

/-- A header has at least one entry. -/
theorem forwardedHops_ne_nil (header : String) : forwardedHops header ≠ [] := by
  simp [forwardedHops, Text.splitOn_ne_nil]

section
variable {proxies : ProxyLookup} {allowPrivate : Bool} {chain : List String}

/-- Longer chains have the same hops where the shorter one has some. -/
theorem hopAt?_append {i : Nat} (h : i < chain.length) (extra : List String) :
    hopAt? (chain ++ extra) i = hopAt? chain i := by
  simp only [hopAt?, List.getElem?_append_left h]

/-- What is passed depends on two neighbouring hops only. -/
theorem passes_append {i : Nat} (h : i + 1 < chain.length) (extra : List String) :
    passes proxies allowPrivate (chain ++ extra) i = passes proxies allowPrivate chain i := by
  simp only [passes, hopAt?_append (Nat.lt_of_succ_lt h), List.getElem?_append_left h]

/-- A hop that is not trusted is not passed, whatever comes behind it. -/
theorem passes_eq_false_of_untrusted {i : Nat}
    (h : ∀ a, hopAt? chain i = some a → proxies.isTrusted a = false) : passes proxies allowPrivate chain i = false := by
  rw [Bool.eq_false_iff]
  intro hpass
  obtain ⟨a, ha, htrusted⟩ := exists_trusted_of_passes hpass
  rw [h a ha] at htrusted
  cases htrusted

/-- Entries behind a chain whose client is not trusted, or who is not found, do not move its first stop. -/
theorem firstStop_append {own : IpAddress} {header : String} (hlength : 1 < chain.length)
    (h : ∀ a, clientOfChain proxies allowPrivate own header chain = .ok a → proxies.isTrusted a = false)
    (extra : List String) :
    firstStop proxies allowPrivate (chain ++ extra) = firstStop proxies allowPrivate chain := by
  have hlt : firstStop proxies allowPrivate chain < chain.length := firstStop_lt_length (by rintro rfl; simp at hlength)
  apply firstStop_eq_of
  · by_cases hend : firstStop proxies allowPrivate chain + 1 < chain.length
    · rw [passes_append hend, passes_firstStop]
    · -- the walk has used up the chain, so its client is the last hop, which now has others behind it
      apply passes_eq_false_of_untrusted
      intro a ha
      rw [hopAt?_append hlt] at ha
      apply h a
      unfold clientOfChain
      split
      next hk => omega
      next k hk =>
        rw [hk] at ha
        simp only [ha]
  · intro i hi
    rw [passes_append (by omega)]
    exact passes_of_lt_firstStop hi

/-- The client of a longer chain with the same first stop, up to the header in an error. -/
theorem clientOfChain_append (own : IpAddress) (header header' : String) {extra : List String} (hne : chain ≠ [])
    (h : firstStop proxies allowPrivate (chain ++ extra) = firstStop proxies allowPrivate chain) :
    clientOfChain proxies allowPrivate own header' (chain ++ extra) =
      (clientOfChain proxies allowPrivate own header chain).mapError (ClientError.withHeader header') := by
  have hlt : firstStop proxies allowPrivate chain < chain.length := firstStop_lt_length hne
  rw [clientOfChain, clientOfChain, h]
  cases hk : firstStop proxies allowPrivate chain with
  | zero => rfl
  | succ k =>
    rw [hk] at hlt
    simp only [hopAt?_append hlt, hopAt?_append (Nat.lt_of_succ_lt hlt)]
    cases hopAt? chain (k + 1) with
    | some a => rfl
    | none => cases (hopAt? chain k).any proxies.isConfigured <;> rfl

end

/-! ## Forged entries -/

section
variable {proxies : ProxyLookup} {allowPrivate : Bool}

/-- Entries in front of a header that leads to no trusted client leave the answer as it is, up to the header in an
error. -/
theorem resolveClient_append (remote : Option String) (s p : String)
    (h : ∀ a, resolveClient proxies allowPrivate remote (some s) = .ok a → proxies.isTrusted a = false) :
    resolveClient proxies allowPrivate remote (some (p ++ "," ++ s)) =
        (resolveClient proxies allowPrivate remote (some s)).mapError (ClientError.withHeader (p ++ "," ++ s)) := by
  simp only [resolveClient_eq_specified, specifiedClient] at h ⊢
  cases hconnection : connection remote with
  | error e =>
    show Except.error e = Except.error (e.withHeader (p ++ "," ++ s))
    rw [withHeader_of_connection_eq_error hconnection]
  | ok known =>
    obtain ⟨text, own⟩ := known
    simp only [hconnection] at h
    have hlength : 1 < (text :: forwardedHops s).length := by
      simpa using List.length_pos_iff.mpr (forwardedHops_ne_nil s)
    have hstop := firstStop_append hlength h (forwardedHops p)
    have hchain : text :: forwardedHops (p ++ "," ++ s) = (text :: forwardedHops s) ++ forwardedHops p := by
      rw [forwardedHops_append, List.cons_append]
    show clientOfChain proxies allowPrivate own (p ++ "," ++ s) (text :: forwardedHops (p ++ "," ++ s)) = _
    rw [hchain, clientOfChain_append own s (p ++ "," ++ s) (by simp) hstop]

/-- The header of a connection that is not trusted is not looked at. -/
theorem resolveClient_of_untrusted {remote : Option String} {a : IpAddress} (ha : remote.bind hopAddress? = some a)
    (huntrusted : proxies.isTrusted a = false) (header : String) :
    resolveClient proxies allowPrivate remote (some header) = resolveClient proxies allowPrivate remote none := by
  simp only [resolveClient_eq_specified, specifiedClient]
  cases hconnection : connection remote with
  | error e => rfl
  | ok known =>
    obtain ⟨text, own⟩ := known
    have hfirst : hopAt? (text :: forwardedHops header) 0 = some a := by
      obtain ⟨r, rfl, hr⟩ := Option.bind_eq_some_iff.mp ha
      rw [(of_connection_eq_ok hconnection).1]
      simpa [hopAt?] using hr
    have hstop : firstStop proxies allowPrivate (text :: forwardedHops header) = 0 := by
      apply firstStop_eq_zero
      apply passes_eq_false_of_untrusted
      intro b hb
      rw [hfirst] at hb
      cases hb
      exact huntrusted
    show clientOfChain proxies allowPrivate own header (text :: forwardedHops header) = .ok own
    rw [clientOfChain, hstop]

end

/-- **Forged entries are ignored.** Whatever is put in front of a forwarded header, a client that is not trusted stays
the client, and an error stays an error of its kind; and a connection that is not trusted makes the header void. -/
theorem forged_entries_ignored (proxies : ProxyLookup) (allowPrivate : Bool) (remote : Option String) (s p : String) :
    (∀ a, resolveClient proxies allowPrivate remote (some s) = .ok a → proxies.isTrusted a = false →
      resolveClient proxies allowPrivate remote (some (p ++ "," ++ s)) = .ok a) ∧
    (∀ e, resolveClient proxies allowPrivate remote (some s) = .error e →
      ∃ e', resolveClient proxies allowPrivate remote (some (p ++ "," ++ s)) = .error e' ∧ e'.kind = e.kind) ∧
    ∀ a, remote.bind hopAddress? = some a → proxies.isTrusted a = false → ∀ header,
      resolveClient proxies allowPrivate remote (some header) = resolveClient proxies allowPrivate remote none := by
  refine ⟨fun a ha huntrusted => ?_, fun e he => ?_, fun a ha huntrusted => resolveClient_of_untrusted ha huntrusted⟩
  · rw [resolveClient_append remote s p fun b hb => ?_, ha]
    · rfl
    · rw [ha] at hb
      cases hb
      exact huntrusted
  · refine ⟨e.withHeader (p ++ "," ++ s), ?_, e.kind_withHeader _⟩
    rw [resolveClient_append remote s p fun b hb => ?_, he]
    · rfl
    · rw [he] at hb
      cases hb

/-- A proxy on the same machine that passes on what a trusted network reports: forged entries, a report that is no
address, and a connection from elsewhere. -/
theorem forged_entries_ignored_behind_loopback :
    let proxies : ProxyLookup := ProxyList.lookup ⟨[.v4 0x7F000000 8], [.v4 0xCB007100 24]⟩
    let client : IpAddress := .v4 0xC6336407
    (resolveClient proxies false (some "::1") (some "198.51.100.7, 203.0.113.2") = .ok client ∧
      proxies.isTrusted client = false ∧
      resolveClient proxies false (some "::1") (some ("127.0.0.1,forged" ++ "," ++ "198.51.100.7, 203.0.113.2")) =
        .ok client) ∧
    (resolveClient proxies false (some "::1") (some "nobody") = .error (.invalidHeader "nobody") ∧
      ∃ e', resolveClient proxies false (some "::1") (some ("198.51.100.7" ++ "," ++ "nobody")) = .error e' ∧
        e'.kind = (ClientError.invalidHeader "nobody").kind) ∧
    (some "198.51.100.7").bind hopAddress? = some client ∧
      resolveClient proxies false (some "198.51.100.7") (some "127.0.0.1") =
        resolveClient proxies false (some "198.51.100.7") none := by
  intro proxies client
  have hclient : resolveClient proxies false (some "::1") (some "198.51.100.7, 203.0.113.2") = .ok client := by
    unfold proxies client
    decide +kernel
  have huntrusted : proxies.isTrusted client = false := by
    unfold proxies client
    decide +kernel
  have herror : resolveClient proxies false (some "::1") (some "nobody") = .error (.invalidHeader "nobody") := by
    unfold proxies
    decide +kernel
  have hdirect : (some "198.51.100.7").bind hopAddress? = some client := by
    unfold client
    decide +kernel
  refine ⟨⟨hclient, huntrusted, ?_⟩, ⟨herror, ?_⟩, hdirect, ?_⟩
  · exact (forged_entries_ignored proxies false _ _ "127.0.0.1,forged").1 client hclient huntrusted
  · exact (forged_entries_ignored proxies false _ _ "198.51.100.7").2.1 _ herror
  · exact (forged_entries_ignored proxies false _ "" "").2.2 client hdirect huntrusted "127.0.0.1"

end WikiGateway
