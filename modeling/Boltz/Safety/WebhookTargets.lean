import Boltz.Sidecar.WebhookGuard

/-!
# The targets of webhooks

Literal addresses are checked before the first request and by the redirect policy, names by the
resolver at each connection, so no hop is left out. What counts as a blocked address is another
matter: of the IPv6 encodings of an IPv4 address only the mapped one is decoded.
-/

namespace Boltz.WebhookGuard

/-! ## Every hop is guarded -/

/-- What holds of the requests of a call: of each, and of each but the first. -/
structure Guarded (call : WebhookCall) : Prop where
  addresses : ∀ request ∈ call.requests, ∀ addr ∈ request.addrs, isBlockedIp addr = false
  redirects : ∀ request ∈ call.requests.tail,
    request.url.scheme = "https" ∧ call.matchesBlockList request.url = false
  hops : call.requests.length ≤ maxRedirects + 1

section guard

variable {call : WebhookCall} {previous lookup : Nat} {url next : Url} {redirects : List Url}

/-- A literal address of the URL is not blocked. -/
def LiteralAllowed (url : Url) : Prop :=
  ∀ ip, url.host.bind Host.ip = some ip → isBlockedIp ip = false

theorem connect_allowed (hsecure : call.allowInsecure = false) (hliteral : LiteralAllowed url)
    {addrs : List IpAddr} (h : call.connect lookup url = some addrs) :
    ∀ addr ∈ addrs, isBlockedIp addr = false := by
  unfold WebhookCall.connect at h
  cases hhost : url.host with
  | none =>
    rw [hhost] at h
    cases h
  | some host =>
    simp only [hhost] at h
    cases hip : host.ip with
    | some ip =>
      rw [hip] at h
      obtain rfl := Option.some.inj h
      intro addr haddr
      obtain rfl := List.mem_singleton.mp haddr
      exact hliteral _ (by rw [hhost, Option.bind_some, hip])
    | none =>
      simp only [hip, WebhookCall.resolve] at h
      cases hlookup : call.lookups lookup host.text with
      | none =>
        rw [hlookup] at h
        cases h
      | some ips =>
        simp only [hlookup, hsecure, Bool.not_false, Bool.true_and] at h
        split at h
        · cases h
        · rename_i hany
          obtain rfl := Option.some.inj h
          simpa using hany

theorem checkIp_literal (hsecure : call.allowInsecure = false) (h : call.checkIp url = true) :
    LiteralAllowed url := by
  intro ip hip
  obtain ⟨host, hhost, hip⟩ := Option.bind_eq_some_iff.mp hip
  simpa [WebhookCall.checkIp, hsecure, hhost, hip] using h

/-- What the redirect policy lets through. -/
theorem follows_iff (hsecure : call.allowInsecure = false) : call.follows previous next = true ↔
    call.matchesBlockList next = false ∧ next.scheme = "https" ∧ LiteralAllowed next ∧
      previous ≤ maxRedirects := by
  unfold WebhookCall.follows WebhookCall.isBlockedRedirect LiteralAllowed
  simp only [hsecure]
  cases next.host.bind Host.ip <;> simp [and_assoc]

theorem send_next {addrs : List IpAddr} {rest : List Url}
    (hconnect : call.connect lookup url = some addrs)
    (hfollows : call.follows (previous + 1) next = true) :
    call.send previous lookup url (next :: rest) =
      ⟨url, addrs⟩ :: call.send (previous + 1) (lookup + 1) next rest := by
  rw [WebhookCall.send, hconnect]
  simp only [if_pos hfollows]

/-- One hop, and the rest of the chain behind it. -/
theorem send_cases (call : WebhookCall) (previous lookup : Nat) (url : Url)
    (redirects : List Url) :
    call.send previous lookup url redirects = [] ∨
      ∃ addrs, call.connect lookup url = some addrs ∧
        (call.send previous lookup url redirects = [⟨url, addrs⟩] ∨
          ∃ next rest, redirects = next :: rest ∧ call.follows (previous + 1) next = true ∧
            call.send previous lookup url redirects =
              ⟨url, addrs⟩ :: call.send (previous + 1) (lookup + 1) next rest) := by
  cases hconnect : call.connect lookup url with
  | none => exact .inl (by rw [WebhookCall.send.eq_def, hconnect])
  | some addrs =>
    refine .inr ⟨addrs, rfl, ?_⟩
    cases redirects with
    | nil => exact .inl (by simp only [WebhookCall.send, hconnect])
    | cons next rest =>
      by_cases hfollows : call.follows (previous + 1) next = true
      · exact .inr ⟨next, rest, rfl, hfollows, send_next hconnect hfollows⟩
      · refine .inl ?_
        rw [WebhookCall.send, hconnect]
        simp only [if_neg hfollows]

theorem send_addresses (hsecure : call.allowInsecure = false) (hliteral : LiteralAllowed url) :
    ∀ request ∈ call.send previous lookup url redirects,
      ∀ addr ∈ request.addrs, isBlockedIp addr = false := by
  induction redirects generalizing previous lookup url with
  | nil =>
    rcases send_cases call previous lookup url [] with h | ⟨addrs, hconnect, h | h⟩
    · simp [h]
    · rw [h]
      exact List.forall_mem_singleton.mpr (connect_allowed hsecure hliteral hconnect)
    · obtain ⟨_, _, hnil, -⟩ := h
      cases hnil
  | cons next rest ih =>
    rcases send_cases call previous lookup url (next :: rest) with h | ⟨addrs, hconnect, h | h⟩
    · simp [h]
    · rw [h]
      exact List.forall_mem_singleton.mpr (connect_allowed hsecure hliteral hconnect)
    · obtain ⟨_, _, ⟨⟩, hfollows, h⟩ := h
      rw [h, List.forall_mem_cons]
      exact ⟨connect_allowed hsecure hliteral hconnect,
        ih ((follows_iff hsecure).mp hfollows).2.2.1⟩

/-- Everything that is requested after the first hop went through the redirect policy. -/
theorem send_redirects (hsecure : call.allowInsecure = false) :
    ∀ request ∈ (call.send previous lookup url redirects).tail,
      request.url.scheme = "https" ∧ call.matchesBlockList request.url = false := by
  induction redirects generalizing previous lookup url with
  | nil =>
    rcases send_cases call previous lookup url [] with h | ⟨addrs, -, h | h⟩
    · simp [h]
    · simp [h]
    · obtain ⟨_, _, hnil, -⟩ := h
      cases hnil
  | cons next rest ih =>
    rcases send_cases call previous lookup url (next :: rest) with h | ⟨addrs, -, h | h⟩
    · simp [h]
    · simp [h]
    · obtain ⟨_, _, ⟨⟩, hfollows, h⟩ := h
      obtain ⟨hblock, hscheme, -⟩ := (follows_iff hsecure).mp hfollows
      rw [h, List.tail_cons]
      intro request hrequest
      rcases send_cases call (previous + 1) (lookup + 1) next rest with hs | ⟨addrs', -, hs⟩
      · rw [hs] at hrequest
        exact absurd hrequest List.not_mem_nil
      · have hfirst : ∃ tail, call.send (previous + 1) (lookup + 1) next rest =
            ⟨next, addrs'⟩ :: tail := by
          rcases hs with hs | ⟨_, _, -, -, hs⟩
          · exact ⟨[], hs⟩
          · exact ⟨_, hs⟩
        obtain ⟨tail, hs⟩ := hfirst
        have htail := @ih (previous + 1) (lookup + 1) next
        rw [hs, List.tail_cons] at htail
        rw [hs] at hrequest
        rcases List.mem_cons.mp hrequest with rfl | hrequest
        · exact ⟨hscheme, hblock⟩
        · exact htail request hrequest

theorem send_length (hsecure : call.allowInsecure = false) (hprevious : previous ≤ maxRedirects) :
    (call.send previous lookup url redirects).length + previous ≤ maxRedirects + 1 := by
  induction redirects generalizing previous lookup url with
  | nil =>
    rcases send_cases call previous lookup url [] with h | ⟨addrs, -, h | h⟩
    · rw [h, List.length_nil]
      omega
    · rw [h, List.length_singleton]
      omega
    · obtain ⟨_, _, hnil, -⟩ := h
      cases hnil
  | cons next rest ih =>
    rcases send_cases call previous lookup url (next :: rest) with h | ⟨addrs, -, h | h⟩
    · rw [h, List.length_nil]
      omega
    · rw [h, List.length_singleton]
      omega
    · obtain ⟨_, _, ⟨⟩, hfollows, h⟩ := h
      have hrest := @ih (previous + 1) (lookup + 1) next
        ((follows_iff hsecure).mp hfollows).2.2.2
      rw [h, List.length_cons]
      omega

theorem guarded (hsecure : call.allowInsecure = false) : Guarded call := by
  have hempty : call.requests = [] ∨ ∃ url, call.url = some url ∧ call.checkIp url = true ∧
      call.requests = call.send 0 1 url call.redirects := by
    unfold WebhookCall.requests
    cases call.url with
    | none => exact .inl rfl
    | some url =>
      by_cases hskipped : (call.skipped || !call.checkIp url) = true
      · exact .inl (by simp only [if_pos hskipped])
      · refine .inr ⟨url, rfl, by simp_all, by simp only [if_neg hskipped]⟩
  rcases hempty with hnone | ⟨url, -, hcheck, hrequests⟩
  · exact ⟨by simp [hnone], by simp [hnone], by simp [hnone]⟩
  · have hliteral := checkIp_literal hsecure hcheck
    have hlength := @send_length call 0 1 url call.redirects hsecure (Nat.zero_le _)
    exact ⟨hrequests ▸ send_addresses hsecure hliteral, hrequests ▸ send_redirects hsecure,
      hrequests ▸ hlength⟩

end guard

/-! ## IPv4 addresses inside IPv6 ones -/

inductive Encoding where
  | mapped | compatible | nat64 | sixToFour
  deriving DecidableEq, Repr

/-- The address carries the IPv4 address in the encoding. -/
def Embeds (ip : Ipv6Addr) (v4 : Ipv4Addr) : Encoding → Prop
  | .mapped => ip = ⟨0, 0, 0, 0, 0, 0xffff, v4.a ++ v4.b, v4.c ++ v4.d⟩
  | .compatible => ip = ⟨0, 0, 0, 0, 0, 0, v4.a ++ v4.b, v4.c ++ v4.d⟩
  | .nat64 => ip = ⟨0x64, 0xff9b, 0, 0, 0, 0, v4.a ++ v4.b, v4.c ++ v4.d⟩
  | .sixToFour => ip.s0 = 0x2002 ∧ ip.s1 = v4.a ++ v4.b ∧ ip.s2 = v4.c ++ v4.d

/-- No blocked IPv4 address gets through inside the address. -/
def RejectsEmbedded (ip : Ipv6Addr) : Prop :=
  ∀ encoding v4, Embeds ip v4 encoding → v4.isBlocked = true → isBlockedIp (.v6 ip) = true

/-- It is mapped, or unspecified. -/
def EncodingCovered (ip : Ipv6Addr) : Prop :=
  ∀ encoding v4, Embeds ip v4 encoding → v4.isBlocked = true →
    encoding = .mapped ∨ ip.isUnspecified = true

section embedded

variable {ip : Ipv6Addr} {v4 : Ipv4Addr}

theorem extract_high (a b : BitVec 8) : (a ++ b).extractLsb' 8 8 = a := by
  ext i hi
  rw [BitVec.getElem_extractLsb', BitVec.getLsbD_append, if_neg (by omega),
    Nat.add_sub_cancel_left, BitVec.getLsbD_eq_getElem]

theorem extract_low (a b : BitVec 8) : (a ++ b).extractLsb' 0 8 = b := by
  ext i hi
  rw [BitVec.getElem_extractLsb', BitVec.getLsbD_append, if_pos (by omega), Nat.zero_add,
    BitVec.getLsbD_eq_getElem]

theorem isBlocked_mapped (h : Embeds ip v4 .mapped) : ip.isBlocked = v4.isBlocked := by
  simp only [Embeds] at h
  subst h
  simp [Ipv6Addr.isBlocked, Ipv6Addr.toIpv4Mapped, Ipv6Addr.lastIpv4, extract_high, extract_low]

/-- Of an address without the marker of a mapped one, the checks for IPv6 decide. -/
theorem isBlocked_of_not_mapped (h : ip.s5 ≠ 0xffff ∨ ip.s0 ≠ 0) :
    ip.isBlocked = (ip.isLoopback || ip.isMulticast || ip.isUnicastLinkLocal ||
      ip.isUniqueLocal || ip.isUnspecified) := by
  have hnone : ip.toIpv4Mapped = none := by
    unfold Ipv6Addr.toIpv4Mapped
    rw [if_neg]
    rintro ⟨h0, -, -, -, -, h5⟩
    rcases h with h | h
    · exact h h5
    · exact h h0
  unfold Ipv6Addr.isBlocked
  rw [hnone]

theorem not_isBlocked_of_global {s0 : BitVec 16} (hs0 : ip.s0 = s0) (hne : s0 ≠ 0)
    (h : (s0 &&& 0xff00 = 0xff00 || s0 &&& 0xffc0 = 0xfe80 || s0 &&& 0xfe00 = 0xfc00) = false) :
    ip.isBlocked = false := by
  rw [isBlocked_of_not_mapped (.inr (hs0 ▸ hne))]
  have hloopback : ip.isLoopback = false := by
    simp only [Ipv6Addr.isLoopback, decide_eq_false_iff_not]
    rintro rfl
    exact hne hs0.symm
  have hunspecified : ip.isUnspecified = false := by
    simp only [Ipv6Addr.isUnspecified, decide_eq_false_iff_not]
    rintro rfl
    exact hne hs0.symm
  rw [hloopback, hunspecified, Ipv6Addr.isMulticast, Ipv6Addr.isUnicastLinkLocal,
    Ipv6Addr.isUniqueLocal, hs0, Bool.false_or, Bool.or_false]
  exact h

theorem isBlocked_compatible (h : Embeds ip v4 .compatible) :
    ip.isBlocked = (ip.isLoopback || ip.isUnspecified) := by
  simp only [Embeds] at h
  subst h
  rw [isBlocked_of_not_mapped (.inl (show (0 : BitVec 16) ≠ 0xffff by decide))]
  simp [Ipv6Addr.isMulticast, Ipv6Addr.isUnicastLinkLocal, Ipv6Addr.isUniqueLocal]

theorem isBlocked_nat64 (h : Embeds ip v4 .nat64) : ip.isBlocked = false := by
  simp only [Embeds] at h
  have hs0 : ip.s0 = 0x64 := congrArg Ipv6Addr.s0 h
  exact not_isBlocked_of_global hs0 (by decide) (by decide)

theorem isBlocked_sixToFour (h : Embeds ip v4 .sixToFour) : ip.isBlocked = false :=
  not_isBlocked_of_global h.1 (by decide) (by decide)

/-- The loopback address of IPv6 carries none of the blocked IPv4 addresses. -/
theorem not_blocked_of_loopback (h : Embeds ip v4 .compatible) (hloopback : ip.isLoopback = true) :
    v4.isBlocked = false := by
  simp only [Embeds] at h
  simp only [Ipv6Addr.isLoopback, decide_eq_true_eq] at hloopback
  rw [h] at hloopback
  injection hloopback with _ _ _ _ _ _ hab hcd
  have ha : v4.a = 0 := by rw [← extract_high v4.a v4.b, hab]; rfl
  have hb : v4.b = 0 := by rw [← extract_low v4.a v4.b, hab]; rfl
  have hc : v4.c = 0 := by rw [← extract_high v4.c v4.d, hcd]; rfl
  have hd : v4.d = 1 := by rw [← extract_low v4.c v4.d, hcd]; rfl
  obtain ⟨a, b, c, d⟩ := v4
  simp only at ha hb hc hd
  subst ha hb hc hd
  decide

theorem rejects_of_encoding {encoding : Encoding} (h : Embeds ip v4 encoding)
    (hblocked : v4.isBlocked = true) :
    isBlockedIp (.v6 ip) = true ↔ encoding = .mapped ∨ ip.isUnspecified = true := by
  have hunspecified : ∀ {s0 : BitVec 16}, ip.s0 = s0 → s0 ≠ 0 → ip.isUnspecified = false := by
    intro s0 hs0 hne
    simp only [Ipv6Addr.isUnspecified, decide_eq_false_iff_not]
    rintro rfl
    exact hne hs0.symm
  simp only [isBlockedIp]
  cases encoding with
  | mapped => simp [isBlocked_mapped h, hblocked]
  | compatible =>
    have hloopback : ip.isLoopback = false := by
      by_contra hloopback
      rw [Bool.not_eq_false] at hloopback
      rw [not_blocked_of_loopback h hloopback] at hblocked
      cases hblocked
    simp [isBlocked_compatible h, hloopback]
  | nat64 =>
    have hs0 : ip.s0 = 0x64 := congrArg Ipv6Addr.s0 h
    simp [isBlocked_nat64 h, hunspecified hs0 (by decide)]
  | sixToFour => simp [isBlocked_sixToFour h, hunspecified h.1 (by decide)]

theorem rejectsEmbedded_iff (ip : Ipv6Addr) : RejectsEmbedded ip ↔ EncodingCovered ip := by
  constructor
  · intro h encoding v4 hembeds hblocked
    exact (rejects_of_encoding hembeds hblocked).mp (h encoding v4 hembeds hblocked)
  · intro h encoding v4 hembeds hblocked
    exact (rejects_of_encoding hembeds hblocked).mpr (h encoding v4 hembeds hblocked)

end embedded

/-! ## The guard as a whole -/

theorem webhook_guard_iff (call : WebhookCall) (hsecure : call.allowInsecure = false)
    (ip : Ipv6Addr) : (Guarded call ∧ RejectsEmbedded ip) ↔ EncodingCovered ip := by
  rw [rejectsEmbedded_iff]
  exact ⟨And.right, fun h => ⟨guarded hsecure, h⟩⟩

def loopback : Ipv4Addr := ⟨127, 0, 0, 1⟩

def mappedLoopback : Ipv6Addr := ⟨0, 0, 0, 0, 0, 0xffff, 0x7f00, 1⟩

def nat64Loopback : Ipv6Addr := ⟨0x64, 0xff9b, 0, 0, 0, 0, 0x7f00, 1⟩

/-- A webhook that redirects to a literal address. -/
def redirectedCall (text : String) (ip : Ipv6Addr) : WebhookCall where
  allowInsecure := false
  blockList := ["boltz.exchange"]
  url := some ⟨"https", some ⟨"example.com", none⟩⟩
  lookups := fun _ _ => some [.v4 ⟨93, 184, 215, 14⟩]
  redirects := [⟨"https", some ⟨text, some (.v6 ip)⟩⟩]

theorem mapped_guarded :
    (redirectedCall "[::ffff:7f00:1]" mappedLoopback).allowInsecure = false ∧
      Guarded (redirectedCall "[::ffff:7f00:1]" mappedLoopback) ∧
      RejectsEmbedded mappedLoopback := by
  refine ⟨rfl, (webhook_guard_iff (redirectedCall "[::ffff:7f00:1]" mappedLoopback) rfl
    mappedLoopback).mpr ?_⟩
  have hmarker : (0xffff : BitVec 16) ≠ 0 := by decide
  have hfirst : (0 : BitVec 16) ≠ 0x64 := by decide
  intro encoding v4 hembeds _
  cases encoding with
  | mapped => exact .inl rfl
  | compatible => exact absurd (congrArg Ipv6Addr.s5 hembeds) hmarker
  | nat64 => exact absurd (congrArg Ipv6Addr.s0 hembeds) hfirst
  | sixToFour => exact absurd hembeds.1 (by decide)

/-- The request goes to the loopback address behind a NAT64. -/
theorem nat64_loopback_requested :
    Embeds nat64Loopback loopback .nat64 ∧ loopback.isBlocked = true ∧
      isBlockedIp (.v6 nat64Loopback) = false ∧
      isBlockedIp (.v6 ⟨0, 0, 0, 0, 0, 0, 0x7f00, 1⟩) = false ∧
      isBlockedIp (.v6 ⟨0x2002, 0x7f00, 1, 0, 0, 0, 0, 0⟩) = false ∧
      (redirectedCall "[64:ff9b::7f00:1]" nat64Loopback).requests.map (·.addrs) =
        [[.v4 ⟨93, 184, 215, 14⟩], [.v6 nat64Loopback]] ∧ ¬RejectsEmbedded nat64Loopback := by
  have hembeds : Embeds nat64Loopback loopback .nat64 := rfl
  refine ⟨hembeds, by decide, by decide, by decide, by decide, by decide +kernel, fun h => ?_⟩
  exact absurd (h .nat64 loopback hembeds (by decide)) (by decide)

end Boltz.WebhookGuard
