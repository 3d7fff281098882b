/-!
# Network addresses

Addresses of both protocol versions and their customary text. An address of version 6 is written
in hexadecimal groups without leading zeros. Its longest stretch of at least two zero groups, the
first of several, becomes `::`; an address that embeds one of version 4 shows that one dotted.
-/

namespace Rulefold

/-- An address of protocol version 4. -/
structure Ipv4 where
  /-- The four bytes, most significant first. -/
  octets : Vector UInt8 4
  deriving DecidableEq

/-- Four decimal numbers with dots between them. -/
def Ipv4.text (address : Ipv4) : String :=
  ".".intercalate (address.octets.toList.map fun octet => toString octet.toNat)

/-- An address of protocol version 6. -/
structure Ipv6 where
  /-- The eight groups of sixteen bits, most significant first. -/
  groups : Vector UInt16 8
  deriving DecidableEq

namespace Ipv6

/-- The length of the stretch of zeros that a list begins with. -/
def leadingZeros (groups : List UInt16) : Nat := (groups.takeWhile (· == 0)).length

/-- Start and length of the longest stretch of zeros, the first of several. -/
def longestZeros : List UInt16 → Nat × Nat
  | [] => (0, 0)
  | group :: rest =>
    let here := leadingZeros (group :: rest)
    let later := longestZeros rest
    if later.2 ≤ here then (0, here) else (later.1 + 1, later.2)

/-- Hexadecimal groups without leading zeros, with colons between them. -/
def groupsText (groups : List UInt16) : String :=
  ":".intercalate (groups.map fun group => String.ofList (Nat.toDigits 16 group.toNat))

/-- The version 4 address that an address embeds behind five zero groups and one of ones. -/
def embedded? (address : Ipv6) : Option Ipv4 :=
  match address.groups.toList with
  | [0, 0, 0, 0, 0, 0xffff, high, low] =>
    some ⟨#v[(high >>> 8).toUInt8, high.toUInt8, (low >>> 8).toUInt8, low.toUInt8]⟩
  | _ => none

/-- The canonical text of an address. -/
def text (address : Ipv6) : String :=
  match address.embedded? with
  | some inner => "::ffff:" ++ inner.text
  | none =>
    let groups := address.groups.toList
    let (start, length) := longestZeros groups
    if length < 2 then groupsText groups
    else groupsText (groups.take start) ++ "::" ++ groupsText (groups.drop (start + length))

end Ipv6

end Rulefold
