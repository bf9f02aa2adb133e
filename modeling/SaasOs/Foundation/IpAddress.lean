import Mathlib.Tactic

/-!
# IP addresses

Addresses of version 4 and 6 are their bits, those of version 6 with the scope that they may name.
A network is a version, bits and the length of its prefix.  An address of version 6 may carry one of
version 4: mapped, behind a NAT64 prefix, or within 6to4 (`embeddedIpv4Addresses`).
-/

namespace Ip

inductive IPAddress
  | v4 (bits : Fin (2 ^ 32))
  | v6 (bits : Fin (2 ^ 128)) (scope : Option String)
  deriving DecidableEq

inductive Network
  | v4 (bits prefixLength : ℕ)
  | v6 (bits prefixLength : ℕ)

/-- `address in network`: the versions are the same and the prefixes agree. -/
def Network.contains : Network → IPAddress → Bool
  | .v4 bits prefixLength, .v4 a => a.val / 2 ^ (32 - prefixLength) = bits / 2 ^ (32 - prefixLength)
  | .v6 bits prefixLength, .v6 a _ =>
    a.val / 2 ^ (128 - prefixLength) = bits / 2 ^ (128 - prefixLength)
  | _, _ => false

def lastV4 (n : ℕ) : IPAddress := .v4 (Fin.ofNat (2 ^ 32) n)

/-- The prefix of NAT64, `64:ff9b::/96`. -/
def nat64WellKnownPrefix : Network := .v6 (0x64ff9b * 2 ^ 96) 96

def embeddedIpv4Addresses : IPAddress → List IPAddress
  | .v4 _ => []
  | .v6 bits scope =>
    (if bits.val / 2 ^ 32 = 0xffff then [lastV4 bits] else []) ++
      (if nat64WellKnownPrefix.contains (.v6 bits scope) then [lastV4 bits] else []) ++
      (if bits.val / 2 ^ 112 = 0x2002 then [lastV4 (bits.val / 2 ^ 80)] else [])

structure Classes where
  isGlobal : IPAddress → Bool
  isPrivate : IPAddress → Bool
  isLoopback : IPAddress → Bool
  isLinkLocal : IPAddress → Bool
  isUnspecified : IPAddress → Bool
  isReserved : IPAddress → Bool
  isMulticast : IPAddress → Bool
  isSiteLocal : IPAddress → Bool

end Ip
