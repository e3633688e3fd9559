import BanchoPrism.Library.Text
import BanchoPrism.Library.Memo
import Mathlib.Algebra.Order.Ring.Nat

namespace BanchoPrism.Requests

open Library

inductive IPAddress
  | v4 (ip : BitVec 32)
  | v6 (ip : BitVec 128) (scopeId : Option (List Char))
  deriving DecidableEq

-- ipaddress.ip_network: the address and the mask.
inductive IPNetwork
  | v4 (networkAddress netmask : BitVec 32)
  | v6 (networkAddress netmask : BitVec 128)
  deriving DecidableEq

def IPAddress.version : IPAddress → ℕ
  | v4 _ => 4
  | v6 _ _ => 6

def IPNetwork.version : IPNetwork → ℕ
  | v4 _ _ => 4
  | v6 _ _ => 6

-- addr in network
def IPNetwork.contains : IPNetwork → IPAddress → Bool
  | v4 networkAddress netmask, .v4 ip => ip &&& netmask == networkAddress
  | v6 networkAddress netmask, .v6 ip _ => ip &&& netmask == networkAddress
  | _, _ => false

def digitsValue (base : ℕ) (digits : List ℕ) : ℕ :=
  digits.foldl (fun value digit => value * base + digit) 0

def hexDigit (c : Char) : Option ℕ :=
  if '0' ≤ c ∧ c ≤ '9' then some (c.toNat - '0'.toNat)
  else if 'a' ≤ c ∧ c ≤ 'f' then some (c.toNat - 'a'.toNat + 10)
  else if 'A' ≤ c ∧ c ≤ 'F' then some (c.toNat - 'A'.toNat + 10)
  else none

def decimalDigit (c : Char) : Option ℕ :=
  if '0' ≤ c ∧ c ≤ '9' then some (c.toNat - '0'.toNat) else none

-- _parse_octet: decimal digits without leading zeros.
def parseOctet (text : List Char) : Option ℕ := do
  let digits ← text.mapM decimalDigit
  guard (digits ≠ [] ∧ digits.length ≤ 3)
  guard (digits = [0] ∨ digits.head? ≠ some 0)
  let octet := digitsValue 10 digits
  guard (octet ≤ 255)
  return octet

-- IPv4Address._ip_int_from_string
def ipv4OfString (text : List Char) : Option ℕ := do
  let octets := text.splitOn '.'
  guard (octets.length = 4)
  return digitsValue 256 (← octets.mapM parseOctet)

-- _parse_hextet
def parseHextet (text : List Char) : Option ℕ := do
  let digits ← text.mapM hexDigit
  guard (digits ≠ [] ∧ digits.length ≤ 4)
  return digitsValue 16 digits

-- The IPv4 address that may stand for the last two hextets.
def expandLast (parts : List (List Char)) : Option (List (List Char)) :=
  let last := parts.getLastD []
  if '.' ∈ last then do
    let ip ← ipv4OfString last
    return parts.dropLast ++ [Nat.toDigits 16 (ip / 2 ^ 16), Nat.toDigits 16 (ip % 2 ^ 16)]
  else some parts

-- Where a "::" is: the empty parts that are neither the first nor the last one.
def skips (parts : List (List Char)) : List ℕ :=
  (List.range parts.length).filter fun i =>
    0 < i && i + 1 < parts.length && parts.getD i [] == []

-- The parts on one side of a "::" that stands at an end of the text come as a single empty one.
def sideOf (parts : List (List Char)) (outer : List Char) : Option (List (List Char)) :=
  if outer.isEmpty then
    if parts.length = 1 then some [] else none
  else some parts

-- IPv6Address._ip_int_from_string
def ipv6OfString (text : List Char) : Option ℕ := do
  let parts := text.splitOn ':'
  guard (3 ≤ parts.length)
  let parts ← expandLast parts
  guard (parts.length ≤ 9)
  match skips parts with
  | [] =>
    guard (parts.length = 8)
    return digitsValue (2 ^ 16) (← parts.mapM parseHextet)
  | [skip] =>
    let hi ← sideOf (parts.take skip) (parts.headD [])
    let lo ← sideOf (parts.drop (skip + 1)) (parts.getLastD [])
    guard (hi.length + lo.length < 8)
    let skipped := List.replicate (8 - (hi.length + lo.length)) 0
    return digitsValue (2 ^ 16) ((← hi.mapM parseHextet) ++ skipped ++ (← lo.mapM parseHextet))
  | _ => none

-- _split_scope_id
def splitScopeId (text : List Char) : Option (List Char × Option (List Char)) :=
  match Text.partition '%' text with
  | none => some (text, none)
  | some (addr, scopeId) =>
    if scopeId.isEmpty || '%' ∈ scopeId then none else some (addr, some scopeId)

def ipv6Address (text : List Char) : Option IPAddress := do
  let (addr, scopeId) ← splitScopeId text
  return .v6 (BitVec.ofNat 128 (← ipv6OfString addr)) scopeId

-- ipaddress.ip_address: none where it raises ValueError.
def ipAddress (text : List Char) : Option IPAddress :=
  if '/' ∈ text then none
  else
    match ipv4OfString text with
    | some ip => some (.v4 (BitVec.ofNat 32 ip))
    | none => ipv6Address text

example : ipAddress "::ffff:1.2.3.4".toList = some (.v6 0xffff01020304 none) := by decide

-- An entry of trusted_proxies.
inductive TrustedProxy
  | network (network : IPNetwork)
  | address (addr : IPAddress)

-- headers.get
abbrev Headers := String → Option (List Char)

structure IPResolver where
  trustedProxies : List TrustedProxy
  cache : Memo (List Char) IPAddress := []

section Lookups

variable (trustedProxies : List TrustedProxy)

-- _is_trusted
def isTrusted (addr : IPAddress) : Bool :=
  trustedProxies.any fun
    | .network network => addr.version == network.version && network.contains addr
    | .address trusted => addr == trusted

-- _parse
def parse (raw : List Char) : Lookup (List Char) IPAddress IPAddress :=
  let raw := Library.Text.strip raw
  if raw.isEmpty then .always none else .memoized ipAddress raw

-- The loop over the entries of X-Forwarded-For, from the right.
def lastUntrusted : List (List Char) → Lookup (List Char) IPAddress IPAddress
  | [] => .always none
  | entry :: rest =>
    (parse entry).andThen fun
      | none => lastUntrusted rest
      | some addr => if isTrusted trustedProxies addr then lastUntrusted rest else .always addr

-- What is made of a header that is there and not empty.
def ofHeader (headers : Headers) (name : String)
    (body : List Char → Lookup (List Char) IPAddress IPAddress) :
    Lookup (List Char) IPAddress IPAddress :=
  match headers name with
  | some raw => if raw.isEmpty then .always none else body raw
  | none => .always none

def fromHeaders (headers : Headers) : Lookup (List Char) IPAddress IPAddress :=
  (ofHeader headers "CF-Connecting-IP" parse).orElse <|
    (ofHeader headers "X-Forwarded-For" fun raw =>
      lastUntrusted trustedProxies (raw.splitOn ',').reverse).orElse <|
    ofHeader headers "X-Real-IP" parse

def resolve (headers : Headers) (peerHost : Option (List Char)) :
    Lookup (List Char) IPAddress IPAddress :=
  let peer : Lookup (List Char) IPAddress IPAddress :=
    match peerHost with
    | some host => if host.isEmpty then .always none else parse host
    | none => .always none
  peer.andThen fun peerIp =>
    if peerIp.all (isTrusted trustedProxies) then
      (fromHeaders trustedProxies headers).orElse (.always peerIp)
    else .always peerIp

end Lookups

namespace IPResolver

def getIp (r : IPResolver) (headers : Headers) (peerHost : Option (List Char)) :
    Option IPAddress × IPResolver :=
  let found := resolve r.trustedProxies headers peerHost r.cache
  (found.1, { r with cache := found.2 })

-- The resolver once it has answered some requests.
def after (r : IPResolver) (requests : List (Headers × Option (List Char))) : IPResolver :=
  requests.foldl (fun r request => (r.getIp request.1 request.2).2) r

end IPResolver

-- What _parse gives, with nothing cached.
def parsed (raw : List Char) : Option IPAddress :=
  let raw := Library.Text.strip raw
  if raw.isEmpty then none else ipAddress raw

section Abstract

variable (trustedProxies : List TrustedProxy)

-- The entry furthest to the right that is an address and not one of the proxies.
def rightmost (entries : List (List Char)) : Option IPAddress :=
  (entries.filterMap parsed).reverse.find? fun addr => !isTrusted trustedProxies addr

-- A header that is there.
def present (headers : Headers) (name : String) : Option (List Char) :=
  (headers name).filter fun raw => !raw.isEmpty

-- The client's address, by what the headers and the peer say.
def clientIp (headers : Headers) (peerHost : Option (List Char)) : Option IPAddress :=
  let peerIp := peerHost.bind parsed
  if peerIp.all (isTrusted trustedProxies) then
    (((present headers "CF-Connecting-IP").bind parsed).or
      (((present headers "X-Forwarded-For").bind fun raw =>
        rightmost trustedProxies (raw.splitOn ',')).or
      ((present headers "X-Real-IP").bind parsed))).or peerIp
  else peerIp

end Abstract

section Finds

open Library.Lookup

variable {trustedProxies : List TrustedProxy} {headers : Headers}

theorem parsed_nil : parsed [] = none := rfl

theorem finds_parse (raw : List Char) : Finds ipAddress (parse raw) (parsed raw) := by
  unfold parse parsed
  simp only
  split
  · exact finds_always none
  · exact finds_memoized _

theorem rightmost_append_singleton (entries : List (List Char)) (entry : List Char) :
    rightmost trustedProxies (entries ++ [entry]) =
      match parsed entry with
      | none => rightmost trustedProxies entries
      | some addr =>
        if isTrusted trustedProxies addr then rightmost trustedProxies entries else some addr := by
  unfold rightmost
  rw [List.filterMap_append]
  cases hp : parsed entry with
  | none => simp [hp]
  | some addr =>
    cases ht : isTrusted trustedProxies addr with
    | true => simp [hp, ht]
    | false => simp [hp, ht]

theorem finds_lastUntrusted (entries : List (List Char)) :
    Finds ipAddress (lastUntrusted trustedProxies entries.reverse)
      (rightmost trustedProxies entries) := by
  induction entries using List.reverseRecOn with
  | nil => exact finds_always none
  | append_singleton entries entry ih =>
    rw [List.reverse_append, List.reverse_singleton, List.singleton_append,
      rightmost_append_singleton, lastUntrusted]
    apply (finds_parse entry).andThen
    cases parsed entry with
    | none => exact ih
    | some addr =>
      simp only
      split
      · exact ih
      · exact finds_always (some addr)

theorem finds_ofHeader {name : String} {body : List Char → Library.Lookup (List Char) IPAddress IPAddress}
    {value : List Char → Option IPAddress} (h : ∀ raw, Finds ipAddress (body raw) (value raw)) :
    Finds ipAddress (ofHeader headers name body) ((present headers name).bind value) := by
  unfold ofHeader present
  cases headers name with
  | none => exact finds_always none
  | some raw =>
    cases hraw : raw.isEmpty with
    | true => simpa [Option.filter, hraw] using finds_always none
    | false => simpa [Option.filter, hraw] using h raw

-- The answer is the one that an empty cache gives.
theorem finds_resolve (trustedProxies : List TrustedProxy) (headers : Headers)
    (peerHost : Option (List Char)) :
    Finds ipAddress (resolve trustedProxies headers peerHost)
      (clientIp trustedProxies headers peerHost) := by
  unfold resolve clientIp
  apply Finds.andThen (b := peerHost.bind parsed)
  · cases peerHost with
    | none => exact finds_always none
    | some host =>
      cases host with
      | nil => exact finds_always none
      | cons c rest => exact finds_parse _
  · simp only
    split
    · apply Finds.orElse _ (finds_always _)
      apply (finds_ofHeader finds_parse).orElse
      apply (finds_ofHeader fun raw => finds_lastUntrusted (raw.splitOn ',')).orElse
      exact finds_ofHeader finds_parse
    · exact finds_always _

theorem IPResolver.sound_after (requests : List (Headers × Option (List Char))) (r : IPResolver)
    (h : Memo.Sound ipAddress r.cache) :
    (r.after requests).trustedProxies = r.trustedProxies ∧
      Memo.Sound ipAddress (r.after requests).cache := by
  induction requests generalizing r with
  | nil => exact ⟨rfl, h⟩
  | cons request rest ih =>
    have hcache : Memo.Sound ipAddress (r.getIp request.1 request.2).2.cache :=
      (finds_resolve r.trustedProxies request.1 request.2 r.cache h).2
    exact ih (r.getIp request.1 request.2).2 hcache

theorem IPResolver.getIp_after (trustedProxies : List TrustedProxy)
    (requests : List (Headers × Option (List Char))) (headers : Headers)
    (peerHost : Option (List Char)) :
    ((IPResolver.after { trustedProxies } requests).getIp headers peerHost).1 =
      clientIp trustedProxies headers peerHost := by
  obtain ⟨hproxies, hcache⟩ := IPResolver.sound_after requests { trustedProxies }
    (Memo.sound_nil ipAddress)
  unfold IPResolver.getIp
  rw [hproxies]
  exact (finds_resolve trustedProxies headers peerHost _ hcache).1

end Finds

section Spoofing

variable {trustedProxies : List TrustedProxy} {headers : Headers} {peer : List Char}
  {addr : IPAddress}

-- The address is the right-most entry of X-Forwarded-For that is one and is not a proxy.
def IsRightmost (trustedProxies : List TrustedProxy) (raw : List Char) (addr : IPAddress) : Prop :=
  ∃ left entry right, raw.splitOn ',' = left ++ entry :: right ∧ parsed entry = some addr ∧
    isTrusted trustedProxies addr = false ∧
    ∀ other ∈ right, ∀ proxy, parsed other = some proxy → isTrusted trustedProxies proxy = true

theorem clientIp_of_untrusted (hpeer : parsed peer = some addr)
    (ht : isTrusted trustedProxies addr = false) :
    clientIp trustedProxies headers (some peer) = some addr := by
  simp [clientIp, hpeer, ht]

theorem rightmost_eq {raw : List Char} (h : IsRightmost trustedProxies raw addr) :
    rightmost trustedProxies (raw.splitOn ',') = some addr := by
  obtain ⟨left, entry, right, hsplit, hentry, ht, hright⟩ := h
  rw [hsplit]
  clear hsplit
  induction right using List.reverseRecOn with
  | nil =>
    rw [rightmost_append_singleton, hentry]
    simp [ht]
  | append_singleton right last ih =>
    have hlast := hright last (by simp)
    have ih := ih fun other hother => hright other (by simp [hother])
    rw [← List.cons_append, ← List.append_assoc, rightmost_append_singleton]
    cases hp : parsed last with
    | none => exact ih
    | some proxy => simpa [hlast proxy hp] using ih

theorem present_of_isRightmost {name : String} {raw : List Char} (hraw : headers name = some raw)
    (h : IsRightmost trustedProxies raw addr) : present headers name = some raw := by
  cases raw with
  | nil =>
    obtain ⟨left, entry, right, hsplit, hentry, -⟩ := h
    have hnil : entry = [] := by
      have hmem : entry ∈ [([] : List Char)] := by
        rw [← List.splitOn_nil ',', hsplit]
        simp
      simpa using hmem
    rw [hnil, parsed_nil] at hentry
    cases hentry
  | cons c rest => simp [present, hraw]

theorem clientIp_of_rightmost {proxy : IPAddress} {raw : List Char}
    (hpeer : parsed peer = some proxy) (ht : isTrusted trustedProxies proxy = true)
    (hcf : headers "CF-Connecting-IP" = none) (hraw : headers "X-Forwarded-For" = some raw)
    (h : IsRightmost trustedProxies raw addr) :
    clientIp trustedProxies headers (some peer) = some addr := by
  have hnone : present headers "CF-Connecting-IP" = none := by simp [present, hcf]
  have hsome := present_of_isRightmost hraw h
  simp [clientIp, hpeer, ht, hnone, hsome, rightmost_eq h]

-- What a resolver answers after any requests.
theorem getIp_not_spoofed (trustedProxies : List TrustedProxy)
    (requests : List (Headers × Option (List Char))) :
    let r := IPResolver.after { trustedProxies } requests
    (∀ peer addr headers, parsed peer = some addr → isTrusted trustedProxies addr = false →
      (r.getIp headers (some peer)).1 = some addr) ∧
    (∀ peer proxy headers raw addr, parsed peer = some proxy →
      isTrusted trustedProxies proxy = true → headers "CF-Connecting-IP" = none →
      headers "X-Forwarded-For" = some raw → IsRightmost trustedProxies raw addr →
      (r.getIp headers (some peer)).1 = some addr) ∧
    ∀ headers peerHost, (r.getIp headers peerHost).1 =
      (IPResolver.getIp { trustedProxies } headers peerHost).1 := by
  refine ⟨?_, ?_, ?_⟩
  · intro peer addr headers hpeer ht
    rw [IPResolver.getIp_after]
    exact clientIp_of_untrusted hpeer ht
  · intro peer proxy headers raw addr hpeer ht hcf hraw h
    rw [IPResolver.getIp_after]
    exact clientIp_of_rightmost hpeer ht hcf hraw h
  · intro headers peerHost
    rw [IPResolver.getIp_after]
    exact (IPResolver.getIp_after trustedProxies [] headers peerHost).symm

def loopback : IPAddress := .v4 0x7f000001

def forwarded : Headers := fun name =>
  if name = "X-Forwarded-For" then some "6.6.6.6, 1.2.3.4, x, 127.0.0.1".toList else none

-- Behind a proxy, whatever the client has put in front of what the proxy adds.
theorem getIp_forwarded :
    (IPResolver.getIp { trustedProxies := [.address loopback] } forwarded
      (some "127.0.0.1".toList)).1 = some (.v4 0x01020304) := by
  have hsplit : "6.6.6.6, 1.2.3.4, x, 127.0.0.1".toList.splitOn ',' =
      ["6.6.6.6".toList] ++ " 1.2.3.4".toList :: [" x".toList, " 127.0.0.1".toList] := by
    decide
  refine (getIp_not_spoofed [.address loopback] []).2.1 _ loopback _ _ _ ?_ ?_ rfl rfl
    ⟨_, _, _, hsplit, ?_, ?_, ?_⟩
  · decide
  · decide
  · decide
  · decide
  · intro other hother proxy hproxy
    simp only [List.mem_cons, List.not_mem_nil, or_false] at hother
    rcases hother with rfl | rfl
    · have hx : parsed " x".toList = none := by decide
      rw [hx] at hproxy
      cases hproxy
    · have hp : parsed " 127.0.0.1".toList = some loopback := by decide
      rw [hp] at hproxy
      cases hproxy
      decide

end Spoofing

end BanchoPrism.Requests
