import ServiceDirectory.Rehearsal.Stage
import ServiceDirectory.Settings.Setup

/-!
# Performing a step

A step is performed on a stage with a host for the stand-ins.  It finds the objects it
names, calls the library, and reports what came of it.
-/

namespace ServiceDirectory.Rehearsal

/-- The answer of a step that stopped. -/
def Answer.ofStop : Stop → Answer
  | .failed cause => .failed cause
  | .panicked payload => .panicked payload

namespace Turn

def ofPlay {α : Type} (play : Play α) : Turn α := ExceptT.lift play

def ofCall {α : Type} (call : Call Stage α) : Turn α := ExceptT.adapt Answer.failed call

def ofAct {α : Type} (act : Act Stage α) : Turn α := ExceptT.adapt Answer.ofStop act

/-- The answer of a turn, found early or not. -/
def answer (turn : Turn Answer) : Play Answer := do
  match ← turn.run with
  | .ok answer => return answer
  | .error answer => return answer

end Turn

/-- The object of a name, seen as what the step needs. -/
def find {α : Type} (name : String) (view : Object → Option α) : Turn α := do
  match ((← get).client.objects.get? name).bind view with
  | some value => return value
  | none => throw .misdirected

namespace Object

def listener? : Object → Option (Ref .listener)
  | listener id => some id
  | _ => none

def sink? : Object → Option (Ref .sink)
  | sink id => some id
  | _ => none

def backend? : Object → Option (Ref .backend)
  | backend id => some id
  | _ => none

def configuration? : Object → Option (Ref .configuration)
  | configuration id => some id
  | _ => none

/-- A dispatcher, or the one that a publishing registrar publishes on. -/
def dispatcher? : Object → Option (Ref .dispatcher)
  | dispatcher id => some id
  | publishing (.publishing _ _ id) => some id
  | _ => none

def notifier? : Object → Option (Ref .notifier)
  | notifier id => some id
  | _ => none

def discovery? : Object → Option Discovery
  | discovery source => some source
  | _ => none

def memory? : Object → Option (Ref .memory)
  | discovery (.memory id) => some id
  | _ => none

def backed? : Object → Option (Ref .backed)
  | discovery (.backed id) => some id
  | _ => none

def composite? : Object → Option (List Discovery)
  | discovery (.composite _ sources) => some sources
  | _ => none

def registrar? : Object → Option Registrar
  | discovery (.memory id) => some (.memory id)
  | discovery (.backed id) => some (.backed id)
  | publishing registrar => some registrar
  | _ => none

/-- A metadata store, or the one that a registry records in. -/
def store? (w : Scene) : Object → Option (Ref .metadata)
  | store id => some id
  | registry id => some (w.registry id).metadata
  | _ => none

def registry? : Object → Option (Ref .registry)
  | registry id => some id
  | _ => none

end Object

def findListener (name : String) : Turn Listener := do
  return .observer (.client (← find name Object.listener?))

def findObserver (name : String) : Turn Observer := do
  return .client (← find name Object.listener?)

def findStore (name : String) : Turn (Ref .metadata) := do
  find name (Object.store? (← get))

/-- The notifier of a name, or a new one. -/
def findOrMakeNotifier (name : Option String) : Turn (Ref .notifier) :=
  match name with
  | some name => find name Object.notifier?
  | none => .ofPlay Notifier.create

/-- The name of a registered listener; `?` if no name stands for it. -/
def nameOf (w : Scene) (l : Listener) : String :=
  let entry := w.client.objects.entries.find? fun entry =>
    match entry.2, l with
    | .listener id, .observer (.client id') => id == id'
    | _, _ => false
  (entry.map Prod.fst).getD "?"

def submit (executor : Ref .executor) (work : Work) : Play Unit := do
  match (← get).client.executors.getD executor default with
  | .queue pending =>
    onStage fun s =>
      { s with executors := s.executors.insert executor (.queue (pending ++ [work])) }
  | .pool => onStage fun s => { s with pool := s.pool ++ [work] }

def doWork (host : Host Stage) : Work → Play Unit
  | .task task => task.run host
  | .tag tag => record (.ran tag)

/-- Does the oldest pieces of work in a queue, up to a limit; tells how many. -/
def runQueue (host : Host Stage) (executor : Ref .executor) : Nat → Play Nat
  | 0 => return 0
  | limit + 1 => do
    match (← get).client.executors.getD executor default with
    | .queue (work :: rest) =>
      onStage fun s => { s with executors := s.executors.insert executor (.queue rest) }
      doWork host work
      return (← runQueue host executor limit) + 1
    | _ => return 0

def makeExecutor (double : ExecutorDouble) : Play (Ref .executor) := do
  let id ← freshRef .executor
  onStage fun s => { s with executors := s.executors.insert id double }
  return id

def makeDispatcher : ExecutionMode → Turn (Ref .dispatcher)
  | .direct => .ofPlay (Dispatcher.create .direct)
  | .queued => .ofPlay do Dispatcher.create (.external (← makeExecutor (.queue [])))
  | .pooled => .ofPlay do Dispatcher.create (.external (← makeExecutor .pool))
  | .configured document runtime => do
    match Settings.ofJson document with
    | .error fault => throw (.refused (.settings fault))
    | .ok settings => .ofPlay do
      let executor ← makeExecutor .pool
      settings.createDispatcher (if runtime then some executor else none)

def makeStore : StoreName → Turn (Ref .metadata)
  | .given name => .ofPlay (MetadataStore.create name)
  | .configured document => do
    match Settings.ofJson document with
    | .error fault => throw (.refused (.settings fault))
    | .ok settings => .ofPlay settings.createStore

def makeRegistry (plan : RegistryPlan) : Turn (Ref .registry) := do
  let metadata ← findStore plan.metadata
  let discovery ← find plan.discovery Object.discovery?
  let configuration ← find plan.configuration Object.configuration?
  let configured ← match plan.document with
    | none => pure defaultMappingGroup
    | some document =>
      match Settings.ofJson document with
      | .error fault => throw (.refused (.settings fault))
      | .ok settings => pure settings.mappingGroup
  .ofPlay (Registry.create plan.url (plan.group.getD configured) metadata discovery
    configuration)

/-- Puts a new object under a name. -/
def introduce (name : String) (object : Object) : Turn Answer := do
  .ofPlay (place name object)
  return .done

/-- A call without a value. -/
def completed (call : Call Stage Unit) : Turn Answer := do
  .ofCall call
  return .done

/-- A computation without a value. -/
def played (play : Play Unit) : Turn Answer := do
  .ofPlay play
  return .done

/-- A computation of a truth value. -/
def flagged (play : Play Bool) : Turn Answer := do return .flag (← .ofPlay play)

/-- Steps that make an object. -/
def performMaking : Step → Turn Answer
  | .newListener name kind priority closure actions times panic => do
    let id ← .ofPlay (freshRef .listener)
    let profile : Profile := ⟨kind, priority.getD defaultPriority⟩
    .ofPlay (modify fun w => w.setProfile id profile)
    .ofPlay <| onStage fun s => { s with
      listeners := s.listeners.insert id
        ⟨⟨name, actions, times, panic⟩, priority.isSome, closure⟩ }
    .ofPlay (place name (.listener id))
    if closure then
      match kind with
      | none => throw .misdirected
      | some kind =>
        return .text ("FnListener \x7b event_type: " ++ kind.name ++ ", priority: " ++
          toString profile.priority ++ ", .. \x7d")
    return .done
  | .newSink name actions times panic => do
    let id ← .ofPlay (freshRef .sink)
    .ofPlay <| onStage fun s =>
      { s with sinks := s.sinks.insert id ⟨name, actions, times, panic⟩ }
    introduce name (.sink id)
  | .newBackend name fail onWatch plain => do
    let id ← .ofPlay (freshRef .backend)
    .ofPlay <| onStage fun s => { s with
      backends := s.backends.insert id ⟨.empty, [], fail, onWatch, plain, .empty⟩
      backendNames := s.backendNames.insert name id }
    introduce name (.backend id)
  | .newConfiguration name fail => do
    let id ← .ofPlay (freshRef .configuration)
    .ofPlay <| onStage fun s =>
      { s with configurations := s.configurations.insert id ⟨.empty, fail⟩ }
    introduce name (.configuration id)
  | .newDispatcher name mode => do
    introduce name (.dispatcher (← makeDispatcher mode))
  | .newNotifier name => do introduce name (.notifier (← .ofPlay Notifier.create))
  | .newMemory name source notifier => do
    let notifier ← findOrMakeNotifier notifier
    introduce name (.discovery (.memory (← .ofPlay (MemorySource.create source notifier))))
  | .newBacked name source backend dispatcher notifier => do
    let backend ← find backend Object.backend?
    let dispatcher ← find dispatcher Object.dispatcher?
    let notifier ← findOrMakeNotifier notifier
    let id ← .ofCall (BackedSource.create source backend dispatcher notifier)
    introduce name (.discovery (.backed id))
  | .newComposite name sources => do
    let sources ← sources.mapM fun source => find source Object.discovery?
    introduce name (.discovery (← .ofCall (Discovery.compose sources)))
  | .newPublishing name source delegate dispatcher => do
    let delegate ← find delegate Object.registrar?
    let dispatcher ← find dispatcher Object.dispatcher?
    introduce name (.publishing (.publishing source delegate dispatcher))
  | .newMetadata name storeName => do introduce name (.store (← makeStore storeName))
  | .newRegistry name plan => do introduce name (.registry (← makeRegistry plan))
  | _ => throw .misdirected

/-- Steps that change what a stand-in does, or forget an object. -/
def performDirection (host : Host Stage) : Step → Turn Answer
  | .setListener listener kind priority => do
    let id ← find listener Object.listener?
    let double := (← get).client.listeners.getD id default
    unless double.fixed do
      .ofPlay <| modify fun w =>
        let profile := w.profile id
        w.setProfile id {
          kind := kind.getD profile.kind
          priority := if double.ownPriority then priority.getD profile.priority
            else profile.priority }
    return .done
  | .failBackend backend fail => do
    let id ← find backend Object.backend?
    played <| onStage fun s => { s with
      backends := s.backends.insert id { s.backends.getD id default with fail } }
  | .fire backend service => do
    match (← get).client.backendNames.get? backend with
    | none => throw .misdirected
    | some id =>
      let hooks := ((← get).client.backends.getD id default).hooks.getD service []
      .ofPlay (hooks.forM fun hook => hook.fire host service)
      return .number hooks.length
  | .failConfiguration configuration fail => do
    let id ← find configuration Object.configuration?
    played <| onStage fun s => { s with
      configurations :=
        s.configurations.insert id { s.configurations.getD id default with fail } }
  | .drop name => do
    let there := (← get).client.objects.contains name
    .ofPlay (onStage fun s => { s with objects := s.objects.erase name })
    return .flag there
  | _ => throw .misdirected

/-- Steps on dispatchers, listeners and notifiers. -/
def performDispatching (host : Host Stage) : Step → Turn Answer
  | .addListener dispatcher listener => do
    let id ← find dispatcher Object.dispatcher?
    completed (Dispatcher.addListener id (← findListener listener))
  | .removeListener dispatcher listener => do
    let id ← find dispatcher Object.dispatcher?
    completed (Dispatcher.removeListener id (← findListener listener))
  | .addListeners dispatcher listeners => do
    let id ← find dispatcher Object.dispatcher?
    completed (Dispatcher.addListeners id (← listeners.mapM findListener))
  | .removeListeners dispatcher listeners => do
    let id ← find dispatcher Object.dispatcher?
    completed (Dispatcher.removeListeners id (← listeners.mapM findListener))
  | .removeAll dispatcher => do
    completed (Dispatcher.removeAll (← find dispatcher Object.dispatcher?))
  | .listeners dispatcher => do
    let id ← find dispatcher Object.dispatcher?
    let w ← get
    return .texts ((Dispatcher.listeners w id).map (nameOf w))
  | .listenerCount dispatcher kind => do
    let id ← find dispatcher Object.dispatcher?
    return .number (Dispatcher.listenerCount (← get) id kind)
  | .dispatch dispatcher event => do
    played (Dispatcher.dispatch host (← find dispatcher Object.dispatcher?) event)
  | .execute dispatcher tag => do
    let id ← find dispatcher Object.dispatcher?
    match ((← get).dispatcher id).executor with
    | .direct => played (doWork host (.tag tag))
    | .external executor => played (submit executor (.tag tag))
  | .runTasks dispatcher limit => do
    let id ← find dispatcher Object.dispatcher?
    match ((← get).dispatcher id).executor with
    | .direct => return .number 0
    | .external executor => return .number (← .ofPlay (runQueue host executor limit))
  | .invoke listener event => do
    let id ← find listener Object.listener?
    flagged ((Observer.client id).invoke host event)
  | .sameListener first second => do
    return .flag ((← findListener first) = (← findListener second))
  | .observe notifier service listener => do
    let id ← find notifier Object.notifier?
    played (Notifier.add id service (← findObserver listener))
  | .unobserve notifier service listener => do
    let id ← find notifier Object.notifier?
    played (Notifier.remove id service (← findObserver listener))
  | .unobserveAll notifier service => do
    played (Notifier.clear (← find notifier Object.notifier?) service)
  | .notify notifier source service instances => do
    let id ← find notifier Object.notifier?
    played (Notifier.notify host id (.raise source (.membership service instances)))
  | .observerCount notifier service => do
    let id ← find notifier Object.notifier?
    return .number (Notifier.count (← get) id service)
  | _ => throw .misdirected

/-- Steps on sources of instances and on registrars. -/
def performDiscovery (host : Host Stage) : Step → Turn Answer
  | .describe object => do
    let w ← get
    match w.client.objects.get? object with
    | some (.dispatcher id) => return .text (Dispatcher.describe w id)
    | some (.discovery (.backed id)) => return .text (BackedSource.describe w id)
    | some (.discovery (.composite _ sources)) =>
      return .text (Discovery.describeComposite w sources)
    | _ => throw .misdirected
  | .register registrar subject => do
    completed ((← find registrar Object.registrar?).register host subject)
  | .update registrar subject => do
    completed ((← find registrar Object.registrar?).update host subject)
  | .unregister registrar subject => do
    completed ((← find registrar Object.registrar?).unregister host subject)
  | .start registrar => do completed ((← find registrar Object.registrar?).start host)
  | .stop registrar => do completed ((← find registrar Object.registrar?).stop host)
  | .addInstance memory subject => do
    flagged (MemorySource.add host (← find memory Object.memory?) subject)
  | .updateInstance memory subject => do
    flagged (MemorySource.update host (← find memory Object.memory?) subject)
  | .removeInstance memory subject => do
    flagged (MemorySource.remove host (← find memory Object.memory?) subject)
  | .services discovery => do
    let source ← find discovery Object.discovery?
    return .texts (← .ofCall (source.services host))
  | .instances discovery service => do
    let source ← find discovery Object.discovery?
    return .instances (← .ofCall (source.instances host service))
  | .page discovery service offset size healthyOnly => do
    let source ← find discovery Object.discovery?
    return .page (← .ofCall (source.page host service offset size healthyOnly))
  | .addChange discovery service listener => do
    let source ← find discovery Object.discovery?
    .ofAct (source.addObserver host service (← findObserver listener))
    return .done
  | .removeChange discovery service listener => do
    let source ← find discovery Object.discovery?
    played (source.removeObserver service (← findObserver listener))
  | .discoveryName discovery => do
    let source ← find discovery Object.discovery?
    return .text (source.name (← get))
  | .discoveryPriority discovery => do
    return .number (← find discovery Object.discovery?).priority
  | .sources composite => do
    let sources ← find composite Object.composite?
    return .texts (sources.map (Discovery.name (← get)))
  | .isWatching backed service => do
    let id ← find backed Object.backed?
    return .flag (BackedSource.isWatching (← get) id service)
  | _ => throw .misdirected

/-- Changes the contents of a configuration; answers with the value that was there. -/
def changeConfiguration (name : String)
    (change : Configuration → Option String × Configuration) : Turn Answer := do
  let id ← find name Object.configuration?
  let double := (← get).client.configurations.getD id default
  let (before, contents) := change double.contents
  .ofPlay <| onStage fun s => { s with
    configurations := s.configurations.insert id { double with contents } }
  match before with
  | none => return .absent
  | some value => return .text value

/-- Steps on configurations and metadata stores. -/
def performRecording (host : Host Stage) : Step → Turn Answer
  | .publish configuration key group value =>
    changeConfiguration configuration fun c => c.publish key group value
  | .removeValue configuration key group =>
    changeConfiguration configuration fun c => c.remove key group
  | .getValue configuration key group => do
    let id ← find configuration Object.configuration?
    match ← .ofCall (Call.ofResult (host.lookup id key group)) with
    | none => return .absent
    | some value => return .text value
  | .exportUrl store url => do flagged (MetadataStore.exportUrl (← findStore store) url)
  | .unexportUrl store url => do flagged (MetadataStore.unexportUrl (← findStore store) url)
  | .subscribeUrl store url => do
    flagged (MetadataStore.subscribeUrl (← findStore store) url)
  | .unsubscribeUrl store url => do
    flagged (MetadataStore.unsubscribeUrl (← findStore store) url)
  | .exported store interface group version => do
    let id ← findStore store
    return .texts (((← get).store id).exportedUrls interface group version)
  | .exportedByProtocol store interface group version protocol => do
    let id ← findStore store
    return .texts (((← get).store id).exportedByProtocol interface group version protocol)
  | .allExported store => do
    let id ← findStore store
    return .texts ((← get).store id).allExported
  | .subscribed store => do
    let id ← findStore store
    return .texts ((← get).store id).subscribedUrls
  | .storeName store => do
    let id ← findStore store
    return .text ((← get).store id).name
  | .storeVersion store => do
    discard (findStore store)
    return .text metadataVersion
  | _ => throw .misdirected

/-- Steps on registries. -/
def performRegistry (host : Host Stage) : Step → Turn Answer
  | .registerUrl registry url => do
    played (Registry.register (← find registry Object.registry?) url)
  | .unregisterUrl registry url => do
    played (Registry.unregister (← find registry Object.registry?) url)
  | .subscribe registry url sink => do
    let id ← find registry Object.registry?
    .ofAct (Registry.subscribe host id url (← find sink Object.sink?))
    return .done
  | .unsubscribe registry url sink => do
    let id ← find registry Object.registry?
    played (Registry.unsubscribe id url (← find sink Object.sink?))
  | .shouldRegister registry url => do
    discard (find registry Object.registry?)
    flagged (Registry.shouldRegister url)
  | .isMetadataUrl registry url => do
    discard (find registry Object.registry?)
    return .flag (Registry.isMetadataUrl url)
  | .serviceNames registry interface => do
    let id ← find registry Object.registry?
    return .texts (← .ofCall (Registry.serviceNames host id interface))
  | .subscriptionCount registry url => do
    let id ← find registry Object.registry?
    return .number (Registry.subscriptionCount (← get) id url)
  | .registryUrl registry => do
    let id ← find registry Object.registry?
    return .text ((← get).registry id).url.fullString
  | .isAvailable registry => do
    let id ← find registry Object.registry?
    return .flag ((← get).registry id).isAvailable
  | _ => throw .misdirected

/-- The object that a step calls and that is held meanwhile, if the call can lead back to
the stage.  A dispatch is a call of the dispatcher alone, also where a publishing registrar
is named. -/
def Step.callee : Step → Option String
  | .register name _ | .update name _ | .unregister name _
  | .start name | .stop name | .addInstance name _ | .updateInstance name _
  | .removeInstance name _ | .addChange name _ _ | .subscribe name _ _ => some name
  | _ => none

def performStep (host : Host Stage) (step : Step) : Turn Answer :=
  match step with
  | .refused refusal => return .refused refusal
  | .installLog _ _ => return .flag false
  | .newListener .. | .newSink .. | .newBackend .. | .newConfiguration .. | .newDispatcher ..
  | .newNotifier .. | .newMemory .. | .newBacked .. | .newComposite .. | .newPublishing ..
  | .newMetadata .. | .newRegistry .. => performMaking step
  | .setListener .. | .failBackend .. | .fire .. | .failConfiguration .. | .drop _ =>
    performDirection host step
  | .addListener .. | .removeListener .. | .addListeners .. | .removeListeners ..
  | .removeAll _ | .listeners _ | .listenerCount .. | .dispatch .. | .execute ..
  | .runTasks .. | .invoke .. | .sameListener .. | .observe .. | .unobserve ..
  | .unobserveAll .. | .notify .. | .observerCount .. => performDispatching host step
  | .publish .. | .removeValue .. | .getValue .. | .exportUrl .. | .unexportUrl ..
  | .subscribeUrl .. | .unsubscribeUrl .. | .exported .. | .exportedByProtocol ..
  | .allExported _ | .subscribed _ | .storeName _ | .storeVersion _ =>
    performRecording host step
  | .registerUrl .. | .unregisterUrl .. | .subscribe .. | .unsubscribe .. | .shouldRegister ..
  | .isMetadataUrl .. | .serviceNames .. | .subscriptionCount .. | .registryUrl _
  | .isAvailable _ => performRegistry host step
  | _ => performDiscovery host step

/-- Performs a step while the object it calls is held, whatever the step stops with. -/
def perform (host : Host Stage) (step : Step) : Play Answer := do
  let turn := (performStep host step).answer
  match step.callee.bind (← get).client.objects.get? with
  | some object => holding object turn
  | none => turn

end ServiceDirectory.Rehearsal
