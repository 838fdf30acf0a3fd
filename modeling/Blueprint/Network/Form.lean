import Blueprint.Json.Typed
import Blueprint.Network.Peer

/-!
The JSON forms of peers and port ranges. A peer is an object with one member, named for the kind of
peer; what it names is not looked at. A port range is an object of three members, or an array of
their values.
-/

namespace Blueprint

def Peer.toJson : Peer → Json
  | ipv4 range => Json.object [("ipv4", .str range)]
  | ipv6 range => Json.object [("ipv6", .str range)]
  | securityGroup id => Json.object [("securityGroupId", .str id)]
  | prefixList id => Json.object [("prefixList", .str id)]

/-- The peer that a JSON value denotes. -/
def Peer.ofJson? : Json → Option Peer
  | .obj [(kind, .str s)] =>
    if kind = "ipv4" then some (ipv4 s)
    else if kind = "ipv6" then some (ipv6 s)
    else if kind = "securityGroupId" then some (securityGroup s)
    else if kind = "prefixList" then some (prefixList s)
    else none
  | _ => none

theorem Peer.ofJson?_toJson (p : Peer) : Peer.ofJson? p.toJson = some p := by
  cases p <;> rfl

def Protocol.word : Protocol → String
  | tcp => "tcp"
  | all => "all"

/-- The protocol of a word. -/
def Protocol.ofJson? : Json → Option Protocol
  | .str word => if word = "tcp" then some tcp else if word = "all" then some all else none
  | _ => none

def PortRange.toJson (range : PortRange) : Json :=
  Json.object
    [("protocol", .str range.protocol.word), ("from", .nat range.first), ("to", .nat range.last)]

/-- The number of a port. -/
def Json.port? : Json → Option Nat := Json.natUpTo? 65535

/-- The port range that a JSON value denotes. -/
def PortRange.ofJson? : Json → Option PortRange
  | .obj members => do
    let object := Json.obj members
    return ⟨← Protocol.ofJson? (← object.member? "protocol"),
      ← (← object.member? "from").port?, ← (← object.member? "to").port?⟩
  | .arr [protocol, first, last] => do
    return ⟨← Protocol.ofJson? protocol, ← first.port?, ← last.port?⟩
  | _ => none

end Blueprint
