import Rulefold.Expr

/-!
# Statements

A rule is a list of statements: matches, which test the packet, and actions. Statements of a kind
that this library does not model are kept as their text.
-/

namespace Rulefold

/-- How a match compares its two sides. -/
inductive Comparison where
  | eq | neq | lt | gt | lte | gte
  deriving DecidableEq

/-- The operator between the two sides. Equality is implied and written as nothing. -/
def Comparison.text : Comparison → String
  | eq => ""
  | neq => "!="
  | lt => "<"
  | gt => ">"
  | lte => "<="
  | gte => ">="

/-- A test of the packet: a selector on the left, a value on the right. -/
structure Match where
  op : Comparison
  left : Expr
  right : Expr
  deriving DecidableEq

/-- The written form of a match. -/
def Match.text (test : Match) : String :=
  match test.op with
  | .eq => test.left.text ++ " " ++ test.right.text
  | op => test.left.text ++ " " ++ op.text ++ " " ++ test.right.text

/-- What a counter has counted so far. -/
structure Counter where
  packets : UInt64
  bytes : UInt64
  deriving DecidableEq

/-- The written form of a counter; one that has counted nothing is written without numbers. -/
def Counter.text (counter : Counter) : String :=
  if counter.packets = 0 ∧ counter.bytes = 0 then "counter"
  else "counter packets " ++ toString counter.packets.toNat ++ " bytes " ++
    toString counter.bytes.toNat

/-- What a limit counts. -/
inductive LimitSubject where
  | packets | bytes
  deriving DecidableEq

/-- The flags of a limit. -/
inductive LimitFlag where
  /-- Match when the rate is exceeded. -/
  | over
  deriving DecidableEq

instance : Flag LimitFlag where
  place
    | .over => 0

/-- A limit on a rate. -/
structure Limit where
  rate : UInt64
  /-- The seconds that the rate refers to. -/
  unit : UInt64
  burst : UInt32
  subject : LimitSubject
  flags : Flags LimitFlag
  deriving DecidableEq

namespace Limit

/-- The name of a customary unit of time, or a number of seconds. -/
def unitText (unit : UInt64) : String :=
  match unit.toNat with
  | 1 => "second"
  | 60 => "minute"
  | 3600 => "hour"
  | 86400 => "day"
  | 604800 => "week"
  | seconds => toString seconds ++ " seconds"

/-- The burst of a limit, unless it is zero. -/
def burstText (burst : UInt32) (noun : String) : String :=
  if burst = 0 then "" else " burst " ++ toString burst.toNat ++ " " ++ noun

/-- The written form of a limit. -/
def text (limit : Limit) : String :=
  let excess := if limit.flags.has .over then "over " else ""
  let rate := toString limit.rate.toNat
  match limit.subject with
  | .packets =>
    "limit rate " ++ excess ++ rate ++ "/" ++ unitText limit.unit ++ burstText limit.burst "packets"
  | .bytes =>
    "limit rate " ++ excess ++ rate ++ " bytes/" ++ unitText limit.unit ++
      burstText limit.burst "bytes"

end Limit

/-- The urgency of a log line. -/
inductive LogLevel where
  | emerg | alert | crit | err | warn | notice | info | debug | audit
  deriving DecidableEq

instance : Keyword LogLevel where
  all := [.emerg, .alert, .crit, .err, .warn, .notice, .info, .debug, .audit]
  text
    | .emerg => "emerg"
    | .alert => "alert"
    | .crit => "crit"
    | .err => "err"
    | .warn => "warn"
    | .notice => "notice"
    | .info => "info"
    | .debug => "debug"
    | .audit => "audit"
  mem_all word := by cases word <;> decide
  nodup_text := by decide

/-- The parts of a log statement that are written only when they were given. -/
inductive LogPart where
  | label | snaplen | group | queueThreshold | level
  deriving DecidableEq

instance : Flag LogPart where
  place
    | .label => 0
    | .snaplen => 1
    | .group => 2
    | .queueThreshold => 3
    | .level => 4

/-- The parameters of a log statement, apart from the label of its lines. -/
structure LogSettings where
  snaplen : UInt32
  group : UInt16
  queueThreshold : UInt16
  level : LogLevel
  /-- What else the lines show of a packet. -/
  details : UInt32
  given : Flags LogPart
  deriving DecidableEq

/-- A statement that logs the packet. -/
structure Log where
  /-- What every line begins with. -/
  label : Option Expr
  settings : LogSettings
  deriving DecidableEq

/-- The written form of a log statement. The customary level is not written. -/
def Log.text (log : Log) : String :=
  let settings := log.settings
  let part (present : Bool) (text : String) := if present then text else ""
  "log" ++
    (match log.label with
    | none => ""
    | some label => " prefix " ++ label.text) ++
    part (settings.given.has .group) (" group " ++ toString settings.group.toNat) ++
    part (settings.given.has .snaplen) (" snaplen " ++ toString settings.snaplen.toNat) ++
    part (settings.given.has .queueThreshold)
      (" queue-threshold " ++ toString settings.queueThreshold.toNat) ++
    part (settings.given.has .level && settings.level != .warn)
      (" level " ++ Keyword.text settings.level)

/-- What a rejected sender is told. -/
inductive RejectKind where
  /-- A message of the control protocol of one family. -/
  | icmp
  /-- A reset of the connection. -/
  | tcpReset
  /-- A message of the control protocol of whichever family the packet has. -/
  | icmpx
  deriving DecidableEq

/-- Why a packet is rejected. -/
structure RejectReason where
  family : Option Family
  kind : RejectKind
  code : UInt8
  deriving DecidableEq

/-- A statement that rejects the packet. -/
structure Reject where
  /-- A message spelled out as an expression. -/
  message : Option Expr
  reason : RejectReason
  deriving DecidableEq

namespace Reject

/-- The name of a code, or its number. -/
def codeText (code : UInt8) : String :=
  match code.toNat with
  | 0 => "net-unreachable"
  | 1 => "host-unreachable"
  | 2 => "prot-unreachable"
  | 3 => "port-unreachable"
  | 9 => "net-prohibited"
  | 10 => "host-prohibited"
  | 13 => "admin-prohibited"
  | code => toString code

/-- The written form of a reject statement. The customary reason, an unreachable port, is not
written. -/
def text (reject : Reject) : String :=
  match reject.message with
  | some message => "reject with " ++ message.text
  | none =>
    match reject.reason.kind with
    | .tcpReset => "reject with tcp reset"
    | .icmpx =>
      if reject.reason.code = 3 then "reject"
      else "reject with icmpx " ++ codeText reject.reason.code
    | .icmp =>
      let protocol := if reject.reason.family = some .ip6 then "icmpv6" else "icmp"
      "reject with " ++ protocol ++ " " ++ codeText reject.reason.code

end Reject

/-- A statement of a rule. -/
inductive Statement where
  /-- A test of the packet. -/
  | matching (test : Match)
  /-- Count the packet. -/
  | counter (state : Counter)
  /-- Leave the packet out of connection tracking. -/
  | notrack
  /-- Decide what becomes of the packet. -/
  | verdict (code : VerdictCode) (target : Option Expr)
  /-- Go on only within a rate. -/
  | limit (bound : Limit)
  /-- Log the packet. -/
  | log (line : Log)
  /-- Drop the packet and tell its sender. -/
  | reject (answer : Reject)
  /-- A statement of another kind, as its text. -/
  | other (text : String)
  deriving DecidableEq

namespace Statement

/-- The test of a match; other statements have none. -/
def match? : Statement → Option Match
  | matching test => some test
  | _ => none

/-- The written form of a statement. -/
def text : Statement → String
  | matching test => test.text
  | counter state => state.text
  | notrack => "notrack"
  | verdict code target => (Expr.verdict code target).text
  | limit bound => bound.text
  | log line => line.text
  | reject answer => answer.text
  | other text => text

end Statement

end Rulefold
