import ServiceDirectory.Text.Blank
import ServiceDirectory.Text.Split
import ServiceDirectory.World.Host

/-!
# From interfaces to services

A configuration maps an interface to the services that own it, as a list of names
separated by commas.  Names are trimmed, blank ones are dropped, and a name counts only
where it comes first.
-/

namespace ServiceDirectory

variable {κ : Type}

/-- The names of a list without those that came before. -/
def firstOccurrences : List String → List String
  | [] => []
  | name :: rest => name :: (firstOccurrences rest).filter (· ≠ name)

/-- The distinct non-blank names in a configured value, in order. -/
def configuredNames (value : String) : List String :=
  firstOccurrences ((((Text.pieces ',' value.toList).map Text.trim).filter
    fun name => !name.isEmpty).map String.ofList)

/-- The services that own an interface, as the registry's configuration has them. -/
def Registry.serviceNames (host : Host κ) (id : Ref .registry) (interface : String) :
    Call κ (List String) := do
  let registry := (← get).registry id
  match ← Call.ofResult (host.lookup registry.configuration interface registry.group) with
  | none => return []
  | some value => return configuredNames value

end ServiceDirectory
