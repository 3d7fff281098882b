import Rulefold.Keyword

/-!
# Address families

A table belongs to one family; a connection tracking key and a reject statement may name one.
-/

namespace Rulefold

/-- An address family. -/
inductive Family where
  | ip | ip6 | inet | arp | bridge | netdev
  deriving DecidableEq

instance : Keyword Family where
  all := [.ip, .ip6, .inet, .arp, .bridge, .netdev]
  text
    | .ip => "ip"
    | .ip6 => "ip6"
    | .inet => "inet"
    | .arp => "arp"
    | .bridge => "bridge"
    | .netdev => "netdev"
  mem_all word := by cases word <;> decide
  nodup_text := by decide

end Rulefold
