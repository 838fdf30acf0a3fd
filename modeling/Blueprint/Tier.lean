import Blueprint.Handle

/-!
A tier of the deployment: a topology together with the handle that later tiers use. A tier first
imports what it takes from earlier tiers and then declares its resources and outputs in order.
-/

namespace Blueprint

/-- A topology and what it hands on. -/
structure Tier (Handle : Type) where
  topology : Topology
  handle : Handle

namespace Topology

/-- Record the dependencies that some references bring. -/
def dependOnAll (t : Topology) (references : List Reference) : Topology :=
  references.foldl dependOn t

/-- Declare some resources, one after the other. -/
def declare (t : Topology) (resources : List Resource) : Except ModelError Topology :=
  resources.foldlM add t

/-- Declare some outputs, one after the other. -/
def tell (t : Topology) (outputs : List Output) : Except ModelError Topology :=
  outputs.foldlM addOutput t

def imported (t : Topology) (reference : Reference) : Value := .ref (t.localized reference)

def own (t : Topology) (id : ResourceId) (attr : String) : Value := .ref (t.reference id attr)

end Topology

end Blueprint
