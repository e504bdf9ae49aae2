import ServiceDirectory.Proofs.Registry.Invariant
import ServiceDirectory.Proofs.World.Nesting
import ServiceDirectory.Registrar

/-!
# A registry among its clients

To say that no change is lost, one has to say what goes on around a registry: which
deliveries have been started, which tasks are waiting to be run, what each backend lists
and whom it reports to.  `Outside` is the part of the world that keeps count of this, and
`Move` lists what can happen.  While a collaborator is called, it may itself make moves, to any
depth.
-/

namespace ServiceDirectory

/-- What is kept outside the library. -/
structure Outside (σ : Type) where
  /-- The deliveries that have been started, latest first. -/
  started : List Delivery
  /-- The tasks that executors have been given and have not begun to run. -/
  pending : List Task
  /-- The instances of each service in each backend. -/
  listed : Ref .backend → String → List Instance
  /-- The hooks of the watches that each backend has accepted. -/
  accepted : Ref .backend → String → List WatchHook
  /-- Whatever else clients remember. -/
  own : σ

variable {σ : Type}

namespace World

/-- The list that the latest delivery for a watcher has carried. -/
def latest? (w : World (Outside σ)) (watcher : Watcher) : Option (List Url) :=
  (w.client.started.find? fun delivery => delivery.watcher = some watcher).map Delivery.urls

/-- The world in which a delivery has just been started. -/
def starting (w : World (Outside σ)) (delivery : Delivery) : World (Outside σ) :=
  { w with client := { w.client with started := delivery :: w.client.started } }

/-- The world in which an executor has just been given a task. -/
def handing (w : World (Outside σ)) (task : Task) : World (Outside σ) :=
  { w with client := { w.client with pending := w.client.pending ++ [task] } }

/-- The world in which the list of waiting tasks is another one. -/
def waiting (w : World (Outside σ)) (pending : List Task) : World (Outside σ) :=
  { w with client := { w.client with pending } }

/-- The world in which a backend lists other instances for a service. -/
def listing (w : World (Outside σ)) (b : Ref .backend) (service : String)
    (instances : List Instance) : World (Outside σ) :=
  { w with client := { w.client with
      listed := fun b' service' =>
        if b' = b ∧ service' = service then instances else w.client.listed b' service' } }

end World

/-- Whether a bridge to a notifier is among the listeners that a change event goes to. -/
def Buckets.Reach (n : Ref .notifier) (buckets : Buckets) : Prop :=
  ∃ registration ∈ (buckets.filter fun bucket => EventKind.membership.isNamedAbove bucket.1).flatMap
    Prod.snd, ∃ serial, registration.listener = .bridge serial n

/-- A registry, the source that it asks, and the notifier of that source. -/
structure Site where
  registry : Ref .registry
  discovery : Discovery
  notifier : Ref .notifier

namespace Site

variable (S : Site)

/-- The instances of a service in the source. -/
def listed (w : World (Outside σ)) (service : String) : List Instance :=
  match S.discovery with
  | .memory m => (w.memory m).table.get service
  | .backed b => w.client.listed (w.source b).backend service
  | .composite _ _ => []

/-- What the source tells a subscription, service by service. -/
def urls (w : World (Outside σ)) (url : Url) (services : List String) : List Url :=
  services.flatMap fun service => (S.listed w service).map (instanceUrl url)

/-- The registry asks the source.  When a backend is behind it, the source reports changes
through its dispatcher to the notifier, and the backend has accepted what counts as watched. -/
structure Wired (w : World (Outside σ)) : Prop where
  discovery : (w.registry S.registry).discovery = S.discovery
  notifier : S.discovery.notifier? w = some S.notifier
  reached : ∀ b, S.discovery = .backed b → Buckets.Reach S.notifier
    (w.dispatcher (w.source b).dispatcher).roster.buckets.entries
  accepted : ∀ b, S.discovery = .backed b → ∀ service ∈ (w.source b).watched,
    (w.source b).hook ∈ w.client.accepted (w.source b).backend service

/-! ## What stays -/

/-- A backed source goes on as before: it may have more watches, but only accepted ones, and
its backend lists the same. -/
structure SourceStill (b : Ref .backed) (w w' : World (Outside σ)) : Prop where
  notifier : (w'.source b).notifier = (w.source b).notifier
  hook : (w'.source b).hook = (w.source b).hook
  watched : ∀ service ∈ (w.source b).watched, service ∈ (w'.source b).watched
  fresh : ∀ service ∈ (w'.source b).watched, service ∈ (w.source b).watched ∨
    (w.source b).hook ∈ w'.client.accepted (w.source b).backend service
  reached : Buckets.Reach S.notifier
      (w.dispatcher (w.source b).dispatcher).roster.buckets.entries →
    Buckets.Reach S.notifier (w'.dispatcher (w.source b).dispatcher).roster.buckets.entries
  listed : ∀ service, w'.client.listed (w.source b).backend service =
    w.client.listed (w.source b).backend service
  accepted : ∀ service, ∀ hook ∈ w.client.accepted (w.source b).backend service,
    hook ∈ w'.client.accepted (w.source b).backend service

/-- Nothing has changed on which the site relies.  The rest of the world may be quite
different. -/
structure Still (w w' : World (Outside σ)) : Prop where
  registry : w'.registry S.registry = w.registry S.registry
  observers : ∀ service,
    (w'.observersAt S.notifier service).filter (Observer.isWatcherOf S.registry) =
      (w.observersAt S.notifier service).filter (Observer.isWatcherOf S.registry)
  memory : ∀ m, S.discovery = .memory m → w'.memory m = w.memory m
  source : ∀ b, S.discovery = .backed b → S.SourceStill b w w'
  latest : ∀ watcher : Watcher, watcher.registry = S.registry →
    w'.latest? watcher = w.latest? watcher
  pending : ∀ task ∈ w.client.pending, task ∈ w'.client.pending
  next_le : w.next ≤ w'.next

/-! ## What happens -/

/-- How collaborators behave.  A call of a sink is a delivery that is started there and then,
and an executor has a task from then on until it runs it.  Queries answer what is listed
and do nothing else, an accepted watch is kept, and what is used is still there.  Apart
from that a collaborator may do whatever `M` allows. -/
structure Behaves (M : World (Outside σ) → World (Outside σ) → Prop) (host : Host (Outside σ)) :
    Prop where
  onEvent : ∀ listener event (w : World (Outside σ)), M w (w.after (host.onEvent listener event))
  deliver : ∀ delivery (w : World (Outside σ)),
    M (w.starting delivery) (w.after (host.deliver delivery))
  handOff : ∀ executor task (w : World (Outside σ)),
    M (w.handing task) (w.after (host.handOff executor task))
  command : ∀ b c (w : World (Outside σ)), M w (w.after (host.command b c))
  lookup : ∀ c key group (w : World (Outside σ)), M w (w.after (host.lookup c key group))
  watch : ∀ b service hook (w : World (Outside σ)), M w (w.after (host.watch b service hook))
  watch_ok : ∀ b service hook (w : World (Outside σ)),
    w.result (host.watch b service hook) = .ok () →
    hook ∈ (w.after (host.watch b service hook)).client.accepted b service
  instances : ∀ b service (w : World (Outside σ)), S.Still w (w.after (host.instances b service))
  instances_ok : ∀ b service (w : World (Outside σ)),
    w.result (host.instances b service) = .ok (w.client.listed b service)
  enter : ∀ lease (w : World (Outside σ)), S.Still w (w.after (host.enter lease))
  enter_true : ∀ lease (w : World (Outside σ)), w.result (host.enter lease) = true
  leave : ∀ lease (w : World (Outside σ)), S.Still w (w.after (host.leave lease))

/-- One thing that happens, with collaborators of which `P` holds. -/
inductive Move (P : Host (Outside σ) → Prop) : World (Outside σ) → World (Outside σ) → Prop
  /-- Something that the site does not rely on changes. -/
  | elsewhere {w w' : World (Outside σ)} (h : S.Still w w') : Move P w w'
  | subscribe {host : Host (Outside σ)} (h : P host) (url : Url) (sink : Ref .sink)
    (w : World (Outside σ)) : Move P w (w.after (Registry.subscribe host S.registry url sink).run)
  | unsubscribe (url : Url) (sink : Ref .sink) (w : World (Outside σ)) :
    Move P w (w.after (Registry.unsubscribe S.registry url sink))
  | register {host : Host (Outside σ)} (h : P host) (registrar : Registrar) (x : Instance)
    (w : World (Outside σ)) : Move P w (w.after (registrar.register host x).run)
  | update {host : Host (Outside σ)} (h : P host) (registrar : Registrar) (x : Instance)
    (w : World (Outside σ)) : Move P w (w.after (registrar.update host x).run)
  | unregister {host : Host (Outside σ)} (h : P host) (registrar : Registrar) (x : Instance)
    (w : World (Outside σ)) : Move P w (w.after (registrar.unregister host x).run)
  /-- A backend lists other instances for a service and calls the hooks that it has accepted
  for it, in any order. -/
  | change {host : Host (Outside σ)} (h : P host) (b : Ref .backend) (service : String)
    (instances : List Instance) (hooks : List WatchHook) (w : World (Outside σ))
    (hhooks : ∀ hook ∈ w.client.accepted b service, hook ∈ hooks) :
    Move P w ((w.listing b service instances).after (hooks.forM fun hook => hook.fire host service))
  | dispatch {host : Host (Outside σ)} (h : P host) (dispatcher : Ref .dispatcher) (event : Event)
    (w : World (Outside σ)) : Move P w (w.after (Dispatcher.dispatch host dispatcher event))
  /-- An executor runs one of its tasks, whichever it is. -/
  | run {host : Host (Outside σ)} (h : P host) (before after : List Task) (task : Task)
    (w : World (Outside σ)) (hpending : w.client.pending = before ++ task :: after) :
    Move P w ((w.waiting (before ++ after)).after (task.run host))

/-- What happens in a row. -/
abbrev Moves : (Host (Outside σ) → Prop) → World (Outside σ) → World (Outside σ) → Prop :=
  Nesting.Moves S.Move

/-- The collaborators whose calls are nested no deeper than a depth. -/
abbrev Orderly : Nat → Host (Outside σ) → Prop := Nesting.Orderly S.Move S.Behaves

/-- A run of moves among collaborators of whatever depth. -/
abbrev Runs : World (Outside σ) → World (Outside σ) → Prop := Nesting.Runs S.Move S.Behaves

end Site

end ServiceDirectory
