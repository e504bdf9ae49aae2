import ServiceDirectory.Url.Basic

/-!
# Service keys

The key under which an endpoint is recorded: `group/interface:version`, where an
absent or empty group or version is left out together with its separator.
-/

namespace ServiceDirectory

/-- The key of an interface in a group and a version. -/
def serviceKey (interface : String) (group version : Option String) : String :=
  let groupPart := match group.filter (· ≠ "") with
    | some group => group ++ "/"
    | none => ""
  let versionPart := match version.filter (· ≠ "") with
    | some version => ":" ++ version
    | none => ""
  groupPart ++ interface ++ versionPart

namespace Url

/-- The parameter that overrides the path as the interface. -/
def interfaceKey : String := "interface"

def groupKey : String := "group"

def versionKey : String := "version"

/-- The parameter that tells which end of a call the URL describes. -/
def sideKey : String := "side"

/-- The side that exports an endpoint. -/
def providerSide : String := "provider"

/-- The parameter by which a subscription asks for one protocol. -/
def protocolKey : String := "protocol"

/-- The interface that the endpoint serves: a non-empty `interface`, else the path. -/
def serviceInterface (u : Url) : String :=
  ((u.parameter? interfaceKey).filter (· ≠ "")).getD u.path

def group (u : Url) : Option String := u.parameter? groupKey

def version (u : Url) : Option String := u.parameter? versionKey

def side (u : Url) : Option String := u.parameter? sideKey

/-- Whether the URL describes the exporting end. -/
def isProvider (u : Url) : Bool := u.side == some providerSide

/-- The key of the endpoint's interface, group and version. -/
def serviceKey (u : Url) : String :=
  ServiceDirectory.serviceKey u.serviceInterface u.group u.version

/-- The protocol that a subscription asks for, if it restricts it. -/
def protocolFilter (u : Url) : Option String := (u.parameter? protocolKey).filter (· ≠ "")

end Url

end ServiceDirectory
