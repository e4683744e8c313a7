import Mathlib.Data.List.Infix

/-!
# Where a webhook may go (`boltzr/src/webhook/resolver.rs`, `caller.rs`)

The requests of one `call_webhook`. URLs are parsed, the answers of every DNS lookup and the
redirects of the servers are given. For each host name the HTTP client asks the resolver and for
each redirect the policy; it connects to literal addresses directly, and may try every address it
has.
-/

namespace Boltz.WebhookGuard

/-! ## Addresses -/

structure Ipv4Addr where
  a : BitVec 8
  b : BitVec 8
  c : BitVec 8
  d : BitVec 8
  deriving DecidableEq, Repr

/-- The segments of an address. -/
structure Ipv6Addr where
  s0 : BitVec 16
  s1 : BitVec 16
  s2 : BitVec 16
  s3 : BitVec 16
  s4 : BitVec 16
  s5 : BitVec 16
  s6 : BitVec 16
  s7 : BitVec 16
  deriving DecidableEq, Repr

inductive IpAddr where
  | v4 (ip : Ipv4Addr)
  | v6 (ip : Ipv6Addr)
  deriving DecidableEq, Repr

namespace Ipv4Addr

variable (ip : Ipv4Addr)

def isLoopback : Bool := ip.a = 127
def isLinkLocal : Bool := ip.a = 169 && ip.b = 254
def isMulticast : Bool := 224 ≤ ip.a && ip.a ≤ 239
def isBroadcast : Bool := ip = ⟨255, 255, 255, 255⟩

def isPrivate : Bool :=
  ip.a = 10 || (ip.a = 172 && 16 ≤ ip.b && ip.b ≤ 31) || (ip.a = 192 && ip.b = 168)

def isUnspecified : Bool := ip = ⟨0, 0, 0, 0⟩
def isShared : Bool := ip.a = 100 && ip.b &&& 0b11000000 = 0b01000000
def isReserved : Bool := ip.a &&& 0b11110000 = 0b11110000

def isBlocked : Bool :=
  ip.isLoopback || ip.isLinkLocal || ip.isMulticast || ip.isBroadcast || ip.isPrivate ||
    ip.isUnspecified || ip.isShared || ip.isReserved

end Ipv4Addr

namespace Ipv6Addr

variable (ip : Ipv6Addr)

def isLoopback : Bool := ip = ⟨0, 0, 0, 0, 0, 0, 0, 1⟩
def isMulticast : Bool := ip.s0 &&& 0xff00 = 0xff00
def isUnicastLinkLocal : Bool := ip.s0 &&& 0xffc0 = 0xfe80
def isUniqueLocal : Bool := ip.s0 &&& 0xfe00 = 0xfc00
def isUnspecified : Bool := ip = ⟨0, 0, 0, 0, 0, 0, 0, 0⟩

/-- The address in the last two segments. -/
def lastIpv4 : Ipv4Addr :=
  ⟨ip.s6.extractLsb' 8 8, ip.s6.extractLsb' 0 8, ip.s7.extractLsb' 8 8, ip.s7.extractLsb' 0 8⟩

def toIpv4Mapped : Option Ipv4Addr :=
  if ip.s0 = 0 ∧ ip.s1 = 0 ∧ ip.s2 = 0 ∧ ip.s3 = 0 ∧ ip.s4 = 0 ∧ ip.s5 = 0xffff then
    some ip.lastIpv4
  else none

def isBlocked : Bool :=
  match ip.toIpv4Mapped with
  | some mapped => mapped.isBlocked
  | none =>
    ip.isLoopback || ip.isMulticast || ip.isUnicastLinkLocal || ip.isUniqueLocal ||
      ip.isUnspecified

end Ipv6Addr

def isBlockedIp : IpAddr → Bool
  | .v4 ip => ip.isBlocked
  | .v6 ip => ip.isBlocked

/-! ## Requests -/

/-- `text` is `host_str`, `ip` what it is parsed to without brackets. -/
structure Host where
  text : String
  ip : Option IpAddr := none
  deriving DecidableEq, Repr

structure Url where
  scheme : String
  host : Option Host
  deriving DecidableEq, Repr

/-- A request of the HTTP client, with the addresses it may be sent to. -/
structure Request where
  url : Url
  addrs : List IpAddr
  deriving DecidableEq, Repr

def maxRedirects : Nat := 10

/-- What decides about one call. -/
structure WebhookCall where
  allowInsecure : Bool
  blockList : List String
  /-- `should_be_skipped` of the hook -/
  skipped : Bool := false
  /-- of the hook, when it can be parsed -/
  url : Option Url
  /-- The answers of the lookups by their number; a lookup may fail. -/
  lookups : Nat → String → Option (List IpAddr)
  /-- `Location` of the answers, one after the other. -/
  redirects : List Url

def contains (text part : String) : Bool := decide (part.toList <:+: text.toList)

namespace WebhookCall

variable (call : WebhookCall)

/-- `check_ip`, which takes the first lookup. -/
def checkIp (url : Url) : Bool :=
  call.allowInsecure ||
    match url.host with
    | none => false
    | some host =>
      match host.ip with
      | some ip => !isBlockedIp ip
      | none =>
        match call.lookups 0 host.text with
        | none => false
        | some ips => !ips.any isBlockedIp

/-- `SsrfGuardResolver` -/
def resolve (lookup : Nat) (name : String) : Option (List IpAddr) :=
  match call.lookups lookup name with
  | none => none
  | some addrs => if !call.allowInsecure && addrs.any isBlockedIp then none else some addrs

/-- The addresses of a host: those of a name come from the resolver. -/
def connect (lookup : Nat) (url : Url) : Option (List IpAddr) :=
  match url.host with
  | none => none
  | some host =>
    match host.ip with
    | some ip => some [ip]
    | none => call.resolve lookup host.text

def matchesBlockList (url : Url) : Bool :=
  url.host.any fun host => call.blockList.any fun blocked => contains host.text blocked

def isBlockedRedirect (url : Url) : Bool :=
  call.matchesBlockList url ||
    (!call.allowInsecure &&
      (url.scheme != "https" || (url.host.bind Host.ip).any isBlockedIp))

/-- The redirect policy, with the number of URLs that were requested before. -/
def follows (previous : Nat) (url : Url) : Bool :=
  !call.isBlockedRedirect url && !(maxRedirects < previous)

def send (previous lookup : Nat) (url : Url) (redirects : List Url) : List Request :=
  match call.connect lookup url with
  | none => []
  | some addrs =>
    ⟨url, addrs⟩ ::
      match redirects with
      | [] => []
      | next :: redirects =>
        if call.follows (previous + 1) next then
          send (previous + 1) (lookup + 1) next redirects
        else []

/-- The requests of `call_webhook`. -/
def requests : List Request :=
  match call.url with
  | none => []
  | some url =>
    if call.skipped || !call.checkIp url then []
    else call.send 0 1 url call.redirects

end WebhookCall

end Boltz.WebhookGuard
