import Rulefold.Address

/-!
# Literals

The values a rule can be written with. Two literals are one exactly when they are identical bit
for bit; an address and the number with the same bits differ.
-/

namespace Rulefold

/-- A literal value. -/
inductive Literal where
  /-- An address of protocol version 4. -/
  | ipv4 (address : Ipv4)
  /-- An address of protocol version 6. -/
  | ipv6 (address : Ipv6)
  /-- A number. -/
  | number (value : UInt64)
  /-- A text, such as the name of an interface or of a chain. -/
  | text (value : String)
  /-- Raw bytes, in the order of the packet. -/
  | bytes (value : List UInt8)
  deriving DecidableEq

namespace Literal

/-- Two hexadecimal digits in lower case. -/
def byteText (byte : UInt8) : String :=
  String.ofList [Nat.digitChar (byte.toNat / 16), Nat.digitChar (byte.toNat % 16)]

/-- The written form. A text stands between quotation marks, and nothing in it is escaped. -/
def written : Literal → String
  | ipv4 address => address.text
  | ipv6 address => address.text
  | number value => toString value.toNat
  | text value => "\"" ++ value ++ "\""
  | bytes value => "0x" ++ String.join (value.map byteText)

end Literal

end Rulefold
