import ServiceDirectory.Dispatcher.Dispatch
import ServiceDirectory.Metadata.Recording
import ServiceDirectory.Settings.Basic

/-!
# What settings set up
-/

namespace ServiceDirectory.Settings

variable {κ : Type}

/-- Makes a dispatcher that runs in the configured mode.  The asynchronous mode needs the
executor of a runtime; where there is none, the dispatcher runs direct and says so. -/
def createDispatcher (settings : Settings) (runtime : Option (Ref .executor)) :
    Run κ (Ref .dispatcher) := do
  match settings.dispatchMode, runtime with
  | .direct, _ => Dispatcher.create .direct
  | .async, some executor => Dispatcher.create (.external executor)
  | .async, none =>
    note .runtimeMissing
    Dispatcher.create .direct

/-- Makes the metadata store of the configured application. -/
def createStore (settings : Settings) : Run κ (Ref .metadata) :=
  MetadataStore.create settings.applicationName

end ServiceDirectory.Settings
