import ServiceDirectory.Proofs.Registry.Relating
import ServiceDirectory.Proofs.Registry.Seat
import ServiceDirectory.Proofs.World.Nesting
import ServiceDirectory.Registrar

/-!
# The notebook of a subscription

A sink may call the registry back while it is given a list.  It may give up the subscription
that the list is for, subscribe once more, or change instances, and whoever hears of that may do
the same.  What has become of a subscription in the end can be told from the calls about it: when
each call that subscribes has begun and how it has ended, and when it was given up in between.
A `Notebook` keeps these calls and the deliveries that have been started.

`Move` lists what can happen around a registry.  While a collaborator is called, it may itself
make moves, to any depth.
-/

namespace ServiceDirectory

namespace Seat

/-- What is put down about the calls for a seat. -/
inductive Entry
  /-- A call that subscribes has begun. -/
  | opened
  /-- A call that subscribes has ended. -/
  | closed (result : Except Stop Unit)
  /-- A call that unsubscribes has been made. -/
  | left
deriving DecidableEq

def Entry.isOpened : Entry → Bool
  | opened => true
  | _ => false

/-- Whether a call has been torn down by a panic. -/
def Entry.isTorn : Entry → Bool
  | closed (.error (.panicked _)) => true
  | _ => false

/-- The number of calls that have begun. -/
def begun (calls : List Entry) : Nat := calls.countP Entry.isOpened

/-- The number of calls that have been torn down. -/
def torn (calls : List Entry) : Nat := calls.countP Entry.isTorn

/-- The number of calls that have completed since the seat was last given up or a call last
began, on top of what there was at first.  The latest call comes first. -/
def completed (base : Nat) : List Entry → Nat
  | [] => base
  | .opened :: _ => 0
  | .left :: _ => 0
  | .closed (.ok _) :: earlier => completed base earlier + 1
  | .closed (.error _) :: earlier => completed base earlier

end Seat

/-- What clients remember. -/
structure Notebook (σ : Type) where
  /-- The deliveries that have been started, latest first. -/
  delivered : List Delivery
  /-- The calls for a seat, latest first. -/
  calls : List Seat.Entry
  /-- Whatever else clients remember. -/
  own : σ

variable {κ σ : Type}

namespace World

/-- The world in which a delivery has just been started. -/
def serving (w : World (Notebook σ)) (delivery : Delivery) : World (Notebook σ) :=
  { w with client := { w.client with delivered := delivery :: w.client.delivered } }

/-- The world in which something has just been put down about the calls for a seat. -/
def jotting (w : World (Notebook σ)) (entry : Seat.Entry) : World (Notebook σ) :=
  { w with client := { w.client with calls := entry :: w.client.calls } }

end World

/-- How collaborators behave.  They put down a delivery when it is started.  Apart from that a
collaborator may do whatever `M` allows, whether it then panics or fails or not. -/
structure Host.KeepsNotebook (host : Host (Notebook σ))
    (M : World (Notebook σ) → World (Notebook σ) → Prop) : Prop where
  onEvent : ∀ l event (w : World (Notebook σ)), M w (w.after (host.onEvent l event))
  deliver : ∀ delivery (w : World (Notebook σ)),
    M (w.serving delivery) (w.after (host.deliver delivery))
  handOff : ∀ executor task (w : World (Notebook σ)), M w (w.after (host.handOff executor task))
  command : ∀ b c (w : World (Notebook σ)), M w (w.after (host.command b c))
  services : ∀ b (w : World (Notebook σ)), M w (w.after (host.services b))
  instances : ∀ b service (w : World (Notebook σ)), M w (w.after (host.instances b service))
  watch : ∀ b service hook (w : World (Notebook σ)), M w (w.after (host.watch b service hook))
  lookup : ∀ c key group (w : World (Notebook σ)), M w (w.after (host.lookup c key group))
  enter : ∀ lease (w : World (Notebook σ)), M w (w.after (host.enter lease))
  leave : ∀ lease (w : World (Notebook σ)), M w (w.after (host.leave lease))

theorem Host.KeepsNotebook.mono {host : Host (Notebook σ)}
    {M M' : World (Notebook σ) → World (Notebook σ) → Prop} (h : host.KeepsNotebook M)
    (hle : ∀ {w w'}, M w w' → M' w w') : host.KeepsNotebook M' where
  onEvent l event w := hle (h.onEvent l event w)
  deliver delivery w := hle (h.deliver delivery w)
  handOff executor task w := hle (h.handOff executor task w)
  command b c w := hle (h.command b c w)
  services b w := hle (h.services b w)
  instances b service w := hle (h.instances b service w)
  watch b service hook w := hle (h.watch b service hook w)
  lookup c key group w := hle (h.lookup c key group w)
  enter lease w := hle (h.enter lease w)
  leave lease w := hle (h.leave lease w)

namespace Seat

variable (S : Seat)

/-- Whether a delivery is one to the seat, for one of its watchers. -/
def hears (delivery : Delivery) : Bool := delivery.watcher.any fun x => S.Owns x

/-- The deliveries to the seat, latest first. -/
def heard (w : World (Notebook σ)) : List Delivery := w.client.delivered.filter S.hears

/-- A watcher is where its record says: on the list of one of its services at a leaf. -/
def Due (w : World κ) (x : Watcher) (n : Ref .notifier) (service : String) : Prop :=
  n ∈ (w.registry S.registry).discovery.notifiers w ∧ service ∈ x.services ∧
    ∃ s ∈ S.records w, s.watcher = x

/-- Whether a listener is a watcher of the seat. -/
def IsWatchedBy (l : Listener) : Prop := ∃ x, S.Owns x ∧ l = .observer (.watcher x)

/-- No watcher of the seat is among the listeners that have been captured. -/
def Spares (buckets : Buckets) : Prop :=
  ∀ bucket ∈ buckets, ∀ registration ∈ bucket.2, ¬S.IsWatchedBy registration.listener

/-- No watcher of the seat is registered on a dispatcher. -/
def Unlisted (w : World κ) : Prop := ∀ id, S.Spares (w.dispatcher id).roster.buckets.entries

/-! ## What happens -/

/-- Nothing has happened that has to do with the seat.  Some of its watchers may have been taken
off lists. -/
structure Still (w w' : World (Notebook σ)) : Prop where
  records : S.records w' = S.records w
  discovery : (w'.registry S.registry).discovery = (w.registry S.registry).discovery
  wiring : Discovery.notifier? w' = Discovery.notifier? w
  next_le : w.next ≤ w'.next
  watched : ∀ x, S.Owns x → ∀ n service, .watcher x ∈ w'.observersAt n service →
    .watcher x ∈ w.observersAt n service
  unlisted : S.Unlisted w → S.Unlisted w'
  calls : w'.client.calls = w.client.calls
  heard : S.heard w' = S.heard w

/-- One thing that happens, with collaborators of which `P` holds.  To ask a source or to call a
listener of a client is nothing but what the collaborators do then. -/
inductive Move (P : Host (Notebook σ) → Prop) : World (Notebook σ) → World (Notebook σ) → Prop
  | elsewhere {w w' : World (Notebook σ)} (h : S.Still w w') : Move P w w'
  /-- The sink is subscribed. -/
  | subscribe {host : Host (Notebook σ)} (h : P host) {url : Url} (hurl : url.fullString = S.url)
    (hgeneral : Registry.isMetadataUrl url = false) (w : World (Notebook σ)) :
    Move P w (((w.jotting .opened).after
      (Registry.subscribe host S.registry url S.sink).run).jotting
        (.closed ((w.jotting .opened).result (Registry.subscribe host S.registry url S.sink).run)))
  /-- The sink is unsubscribed. -/
  | unsubscribe {url : Url} (hurl : url.fullString = S.url) (w : World (Notebook σ)) :
    Move P w ((w.jotting .left).after (Registry.unsubscribe S.registry url S.sink))
  /-- Another seat is taken, or the sink is given URLs of the metadata store. -/
  | subscribeOther {host : Host (Notebook σ)} (h : P host) (id : Ref .registry) (url : Url)
    (sink : Ref .sink) (hother : S.Takes id url sink → Registry.isMetadataUrl url = true)
    (w : World (Notebook σ)) : Move P w (w.after (Registry.subscribe host id url sink).run)
  | unsubscribeOther (id : Ref .registry) (url : Url) (sink : Ref .sink)
    (hother : ¬S.Takes id url sink) (w : World (Notebook σ)) :
    Move P w (w.after (Registry.unsubscribe id url sink))
  | register {host : Host (Notebook σ)} (h : P host) (registrar : Registrar) (x : Instance)
    (w : World (Notebook σ)) : Move P w (w.after (registrar.register host x).run)
  | update {host : Host (Notebook σ)} (h : P host) (registrar : Registrar) (x : Instance)
    (w : World (Notebook σ)) : Move P w (w.after (registrar.update host x).run)
  | unregister {host : Host (Notebook σ)} (h : P host) (registrar : Registrar) (x : Instance)
    (w : World (Notebook σ)) : Move P w (w.after (registrar.unregister host x).run)
  /-- A backend reports a change. -/
  | report {host : Host (Notebook σ)} (h : P host) (hook : WatchHook) (service : String)
    (w : World (Notebook σ)) : Move P w (w.after (hook.fire host service))
  | dispatch {host : Host (Notebook σ)} (h : P host) (id : Ref .dispatcher) (event : Event)
    (w : World (Notebook σ)) : Move P w (w.after (Dispatcher.dispatch host id event))
  /-- An executor runs a task.  Watchers are not registered on dispatchers, so no task holds
  one. -/
  | run {host : Host (Notebook σ)} (h : P host) {task : Task} (htask : S.Spares task.buckets)
    (w : World (Notebook σ)) : Move P w (w.after (task.run host))
  | notify {host : Host (Notebook σ)} (h : P host) (n : Ref .notifier) (event : Event)
    (w : World (Notebook σ)) : Move P w (w.after (Notifier.notify host n event))

/-- What happens in a row. -/
abbrev Moves : (Host (Notebook σ) → Prop) → World (Notebook σ) → World (Notebook σ) → Prop :=
  Nesting.Moves S.Move

/-- The collaborators whose calls are nested no deeper than a depth. -/
abbrev Orderly : Nat → Host (Notebook σ) → Prop :=
  Nesting.Orderly S.Move fun M host => host.KeepsNotebook M

/-- A run of moves among collaborators of whatever depth. -/
abbrev Runs : World (Notebook σ) → World (Notebook σ) → Prop :=
  Nesting.Runs S.Move fun M host => host.KeepsNotebook M

end Seat

end ServiceDirectory
