import ServiceDirectory.World.Ref

/-!
# Sources of instances

A source of instances holds them itself, asks a backend, or combines other sources in a
fixed order.
-/

namespace ServiceDirectory

/-- A source of instances. -/
inductive Discovery
  /-- Keeps its instances in memory. -/
  | memory (id : Ref .memory)
  /-- Asks a backend. -/
  | backed (id : Ref .backed)
  /-- Asks its parts, one after the other. -/
  | composite (id : Ref .composite) (sources : List Discovery)

/-- What tells sources apart. -/
inductive DiscoveryId
  | memory (id : Ref .memory)
  | backed (id : Ref .backed)
  | composite (id : Ref .composite)
deriving DecidableEq, Repr

namespace Discovery

def id : Discovery → DiscoveryId
  | memory id => .memory id
  | backed id => .backed id
  | composite id _ => .composite id

mutual

/-- The source itself and all sources below it. -/
def parts : Discovery → List Discovery
  | memory id => [memory id]
  | backed id => [backed id]
  | composite id sources => composite id sources :: partsOfAll sources

def partsOfAll : List Discovery → List Discovery
  | [] => []
  | source :: rest => source.parts ++ partsOfAll rest

end

mutual

/-- The sources that are no composites, from left to right. -/
def leaves : Discovery → List Discovery
  | memory id => [memory id]
  | backed id => [backed id]
  | composite _ sources => leavesOfAll sources

def leavesOfAll : List Discovery → List Discovery
  | [] => []
  | source :: rest => source.leaves ++ leavesOfAll rest

end

end Discovery

end ServiceDirectory
