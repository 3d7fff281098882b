import Rulefold.Family

/-!
# Fields

A field is what a match looks at: a field of a protocol header or of an extension header, a fact
about the packet, a key of connection tracking, of routing or of a socket. Fields are compared as
they are written, so two fields are one only if every descriptor agrees.
-/

namespace Rulefold

/-- A protocol header. -/
inductive Protocol where
  | ether | vlan | arp | ip | ip6 | icmp | icmpv6 | tcp | udp | sctp | dccp
  deriving DecidableEq

instance : Keyword Protocol where
  all := [.ether, .vlan, .arp, .ip, .ip6, .icmp, .icmpv6, .tcp, .udp, .sctp, .dccp]
  text
    | .ether => "ether"
    | .vlan => "vlan"
    | .arp => "arp"
    | .ip => "ip"
    | .ip6 => "ip6"
    | .icmp => "icmp"
    | .icmpv6 => "icmpv6"
    | .tcp => "tcp"
    | .udp => "udp"
    | .sctp => "sctp"
    | .dccp => "dccp"
  mem_all word := by cases word <;> decide
  nodup_text := by decide

/-- An extension header, or the options of a transport header. -/
inductive Extension where
  | hbh | rt | frag | dst | mh | srh | tcpOption
  deriving DecidableEq

instance : Keyword Extension where
  all := [.hbh, .rt, .frag, .dst, .mh, .srh, .tcpOption]
  text
    | .hbh => "hbh"
    | .rt => "rt"
    | .frag => "frag"
    | .dst => "dst"
    | .mh => "mh"
    | .srh => "srh"
    | .tcpOption => "tcp option"
  mem_all word := by cases word <;> decide
  nodup_text := by decide

/-- A fact about the packet that no header holds. -/
inductive MetaKey where
  | len | protocol | nfproto | l4proto | mark | iif | iifname | iiftype | oif | oifname | oiftype
  | skuid | skgid | priority | pkttype | cpu | cgroup
  deriving DecidableEq

instance : Keyword MetaKey where
  all := [.len, .protocol, .nfproto, .l4proto, .mark, .iif, .iifname, .iiftype, .oif, .oifname,
    .oiftype, .skuid, .skgid, .priority, .pkttype, .cpu, .cgroup]
  text
    | .len => "len"
    | .protocol => "protocol"
    | .nfproto => "nfproto"
    | .l4proto => "l4proto"
    | .mark => "mark"
    | .iif => "iif"
    | .iifname => "iifname"
    | .iiftype => "iiftype"
    | .oif => "oif"
    | .oifname => "oifname"
    | .oiftype => "oiftype"
    | .skuid => "skuid"
    | .skgid => "skgid"
    | .priority => "priority"
    | .pkttype => "pkttype"
    | .cpu => "cpu"
    | .cgroup => "cgroup"
  mem_all word := by cases word <;> decide
  nodup_text := by decide

/-- The keys that are written without a word in front: those of the interfaces. -/
def MetaKey.standsAlone : MetaKey → Bool
  | .iif | .oif | .iifname | .oifname => true
  | _ => false

/-- A key of connection tracking. -/
inductive ConntrackKey where
  | state | direction | status | mark | expiration | helper | l3proto | saddr | daddr | protocol
  | protoSrc | protoDst | label | zone
  deriving DecidableEq

instance : Keyword ConntrackKey where
  all := [.state, .direction, .status, .mark, .expiration, .helper, .l3proto, .saddr, .daddr,
    .protocol, .protoSrc, .protoDst, .label, .zone]
  text
    | .state => "state"
    | .direction => "direction"
    | .status => "status"
    | .mark => "mark"
    | .expiration => "expiration"
    | .helper => "helper"
    | .l3proto => "l3proto"
    | .saddr => "saddr"
    | .daddr => "daddr"
    | .protocol => "protocol"
    | .protoSrc => "proto-src"
    | .protoDst => "proto-dst"
    | .label => "label"
    | .zone => "zone"
  mem_all word := by cases word <;> decide
  nodup_text := by decide

/-- The direction of a tracked connection. -/
inductive Direction where
  | original | reply
  deriving DecidableEq

instance : Keyword Direction where
  all := [.original, .reply]
  text
    | .original => "original"
    | .reply => "reply"
  mem_all word := by cases word <;> decide
  nodup_text := by decide

/-- A key of the routing decision. -/
inductive RouteKey where
  | classid | nexthop | mtu | ipsec
  deriving DecidableEq

instance : Keyword RouteKey where
  all := [.classid, .nexthop, .mtu, .ipsec]
  text
    | .classid => "classid"
    | .nexthop => "nexthop"
    | .mtu => "mtu"
    | .ipsec => "ipsec"
  mem_all word := by cases word <;> decide
  nodup_text := by decide

/-- A key of the socket that a packet belongs to. -/
inductive SocketKey where
  | transparent | mark | wildcard | cgroupv2
  deriving DecidableEq

instance : Keyword SocketKey where
  all := [.transparent, .mark, .wildcard, .cgroupv2]
  text
    | .transparent => "transparent"
    | .mark => "mark"
    | .wildcard => "wildcard"
    | .cgroupv2 => "cgroupv2"
  mem_all word := by cases word <;> decide
  nodup_text := by decide

/-- The protocol layer that a key is read relative to. -/
inductive Layer where
  | unspecified | link | network | transport
  deriving DecidableEq

/-- A field that a match can look at. -/
inductive Field where
  /-- A named field of a protocol header. -/
  | payload (header : Protocol) (name : String)
  /-- A named field of an extension header. -/
  | extension (header : Extension) (name : String)
  /-- A fact about the packet. -/
  | metadata (key : MetaKey) (layer : Layer)
  /-- A key of connection tracking, perhaps of one direction or one family only. -/
  | conntrack (key : ConntrackKey) (layer : Layer) (direction : Option Direction)
      (family : Option Family)
  /-- A key of the routing decision. -/
  | route (key : RouteKey)
  /-- A key of the socket; the level counts ancestors of a control group. -/
  | socket (key : SocketKey) (level : UInt32)
  deriving DecidableEq

namespace Field

/-- A word with a blank before it, or nothing. -/
def spaced {α : Type} [Keyword α] : Option α → String
  | none => ""
  | some word => " " ++ Keyword.text word

/-- The written form. A layer is not written, nor is a level outside control groups. -/
def text : Field → String
  | payload header name => Keyword.text header ++ " " ++ name
  | extension header name => Keyword.text header ++ " " ++ name
  | metadata key _ => if key.standsAlone then Keyword.text key else "meta " ++ Keyword.text key
  | conntrack key _ direction family =>
    "ct" ++ spaced direction ++ spaced family ++ " " ++ Keyword.text key
  | route key => "rt " ++ Keyword.text key
  | socket .cgroupv2 level => "socket cgroupv2 level " ++ toString level.toNat
  | socket key _ => "socket " ++ Keyword.text key

end Field

end Rulefold
