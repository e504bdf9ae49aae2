/-!
# Settings of a registry node
-/

namespace ServiceDirectory

/-- Where the listeners of an event run. -/
inductive DispatchMode
  /-- On the thread of the caller, before the dispatch returns. -/
  | direct
  /-- Later, one event after the other, where a runtime for that is at hand. -/
  | async
deriving DecidableEq, Repr

def DispatchMode.name : DispatchMode → String
  | .direct => "direct"
  | .async => "async"

/-- How a node logs. -/
structure LogSettings where
  filter : String := "info"
  json : Bool := false
deriving DecidableEq, Repr

/-- The group under which services are mapped to interfaces by default. -/
def defaultMappingGroup : String := "services-mapping"

/-- The settings of a node; every one has a default. -/
structure Settings where
  /-- The name of the local application, which its metadata store reports. -/
  applicationName : String := "lodestar-app"
  /-- The configuration group that maps interfaces to services. -/
  mappingGroup : String := defaultMappingGroup
  dispatchMode : DispatchMode := .direct
  logging : LogSettings := {}
deriving DecidableEq, Repr

end ServiceDirectory
