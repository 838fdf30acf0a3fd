import Blueprint.Error
import Blueprint.Network.Address
import Blueprint.Text.Blank
import Blueprint.Text.Decimal

/-!
Peers and ports of firewall rules. A peer is an address range, a security group or a prefix list;
in the settings it is written as one word, and it is displayed as it was written.
-/

namespace Blueprint

/-- The source or destination of a rule. -/
inductive Peer where
  | ipv4 (range : String)
  | ipv6 (range : String)
  | securityGroup (id : String)
  | prefixList (id : String)
  deriving DecidableEq

namespace Peer

/-- Every address of version 4. -/
def anyIpv4 : Peer := .ipv4 "0.0.0.0/0"

def text : Peer → String
  | ipv4 s | ipv6 s | securityGroup s | prefixList s => s

/-- What follows the kind in the id of a security group or prefix list. -/
def isIdSuffix (cs : List Char) : Bool := cs ≠ [] && cs.all Text.isHex

/-- The error of an ingress source. -/
def refuse (reason : String) : Except SettingsError Peer :=
  .error (.invalid "dbIngressSources" reason)

/-- The address range that a trimmed text names. -/
def parseRange (raw : String) : Except SettingsError Peer :=
  match Text.cutChars '/' raw.toList with
  | none => refuse s!"'{raw}' is not a CIDR block, sg- or pl- id"
  | some (address, length) =>
    match Text.decimalChars? 255 length with
    | none => refuse s!"'{raw}' has an invalid prefix length"
    | some bits =>
      if Address.isV4 address && bits ≤ 32 then .ok (.ipv4 raw)
      else if Address.isV6 address && bits ≤ 128 then .ok (.ipv6 raw)
      else refuse s!"'{raw}' is not a valid CIDR block"

/-- The peer that a trimmed text names. -/
def parseTrimmed (raw : String) : Except SettingsError Peer :=
  match Text.afterChars ['s', 'g', '-'] raw.toList with
  | some suffix =>
    if isIdSuffix suffix then .ok (.securityGroup raw)
    else refuse s!"'{raw}' is not a security group id"
  | none =>
    match Text.afterChars ['p', 'l', '-'] raw.toList with
    | some suffix =>
      if isIdSuffix suffix then .ok (.prefixList raw)
      else refuse s!"'{raw}' is not a prefix list id"
    | none => parseRange raw

/-- The peer that an ingress source of the settings names. -/
def parse (raw : String) : Except SettingsError Peer := parseTrimmed (Text.trim raw)

end Peer

/-- What a rule lets through. -/
inductive Protocol where
  | tcp
  | all
  deriving DecidableEq

/-- A range of ports, both ends included. -/
structure PortRange where
  protocol : Protocol
  first : Nat
  last : Nat
  deriving DecidableEq

namespace PortRange

def tcp (port : Nat) : PortRange := ⟨.tcp, port, port⟩

/-- Every port of every protocol. -/
def allTraffic : PortRange := ⟨.all, 0, 65535⟩

def covers (range : PortRange) (port : Nat) : Bool := range.first ≤ port && port ≤ range.last

def text (range : PortRange) : String :=
  match range.protocol with
  | .all => "all traffic"
  | .tcp =>
    if range.first = range.last then s!"tcp{range.first}"
    else s!"tcp{range.first}-{range.last}"

end PortRange

end Blueprint
