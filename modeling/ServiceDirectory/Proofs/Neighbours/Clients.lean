import ServiceDirectory.Proofs.Discovery.Storing
import ServiceDirectory.Proofs.Registry.Providers
import ServiceDirectory.Proofs.Registry.Seat

/-!
# A seat among others

Several sinks are subscribed at a registry.  Whoever looks at one seat only, and at the calls that
are not about another one, would like to know nothing of its neighbours.  An `Operation` is a call
of a client, and `Seat.keeps` tells which calls are left when those about other seats are erased.

Sinks and listeners are taken to be `Discreet`: they do not call back, and what they remember of
other seats does not matter for this one.  The part of their memory that may matter is what
`common` makes of it.
-/

namespace ServiceDirectory

/-- What clients remember. -/
structure Chronicle (σ : Type) where
  /-- The deliveries that have been started, latest first. -/
  delivered : List Delivery
  /-- Whatever else clients remember. -/
  own : σ

variable {σ τ : Type}

/-- The world in which a delivery has just been started. -/
def World.delivering (w : World (Chronicle σ)) (delivery : Delivery) : World (Chronicle σ) :=
  { w with client := { w.client with delivered := delivery :: w.client.delivered } }

namespace Seat

variable (S : Seat)

/-- Whether a delivery is one to the seat. -/
def concerns (delivery : Delivery) : Bool :=
  delivery.subscribed.fullString = S.url ∧ delivery.sink = S.sink ∧
    delivery.watcher.all fun x => x.registry = S.registry

/-- The lists that have been delivered to the seat, latest first. -/
def snapshots (w : World (Chronicle σ)) : List (List Url) :=
  (w.client.delivered.filter S.concerns).map Delivery.urls

end Seat

/-! ## Collaborators -/

/-- Clients remember something else.  In the library nothing has happened, and no delivery has
been started. -/
structure ByClients (w w' : World (Chronicle σ)) : Prop where
  elsewhere : w' = { w with client := w'.client }
  delivered : w'.client.delivered = w.client.delivered

/-- Clients remember something else, but nothing that matters. -/
structure Unnoticed (common : σ → τ) (w w' : World (Chronicle σ)) : Prop extends
    ByClients w w' where
  common : common w'.client.own = common w.client.own

/-- How collaborators behave.  None calls back.  A delivery is put down when it is started.  A
delivery to the seat and a call of a listener may have consequences that matter, but these depend
on nothing else than what matters; and a sink does not see the watcher.  Any sink may panic. -/
structure Host.Discreet (host : Host (Chronicle σ)) (S : Seat) (common : σ → τ) : Prop where
  deliver : ∀ delivery (w : World (Chronicle σ)), S.concerns delivery = true →
    ByClients (w.delivering delivery) (w.after (host.deliver delivery))
  deliver_alike : ∀ delivery (watcher : Option Watcher) (w v : World (Chronicle σ)),
    S.concerns delivery = true → S.concerns { delivery with watcher } = true →
    common w.client.own = common v.client.own →
    w.result (host.deliver delivery) = v.result (host.deliver { delivery with watcher }) ∧
      common (w.after (host.deliver delivery)).client.own =
        common (v.after (host.deliver { delivery with watcher })).client.own
  deliver_other : ∀ delivery (w : World (Chronicle σ)), S.concerns delivery = false →
    Unnoticed common (w.delivering delivery) (w.after (host.deliver delivery))
  onEvent : ∀ l event (w : World (Chronicle σ)), ByClients w (w.after (host.onEvent l event))
  onEvent_alike : ∀ l event (w v : World (Chronicle σ)),
    common w.client.own = common v.client.own →
    common (w.after (host.onEvent l event)).client.own =
      common (v.after (host.onEvent l event)).client.own
  lookup : ∀ c key group (w : World (Chronicle σ)),
    Unnoticed common w (w.after (host.lookup c key group))
  lookup_alike : ∀ c key group (w v : World (Chronicle σ)),
    common w.client.own = common v.client.own →
    w.result (host.lookup c key group) = v.result (host.lookup c key group)
  enter : ∀ lease (w : World (Chronicle σ)), Unnoticed common w (w.after (host.enter lease))
  enter_alike : ∀ lease (w v : World (Chronicle σ)),
    common w.client.own = common v.client.own →
    w.result (host.enter lease) = v.result (host.enter lease)
  leave : ∀ lease (w : World (Chronicle σ)), Unnoticed common w (w.after (host.leave lease))
  instances : ∀ b service (w : World (Chronicle σ)),
    Unnoticed common w (w.after (host.instances b service))
  watch : ∀ b service hook (w : World (Chronicle σ)),
    Unnoticed common w (w.after (host.watch b service hook))

/-! ## Operations -/

/-- A call of a client. -/
inductive Operation (common : σ → τ)
  | subscribe (url : Url) (sink : Ref .sink)
  | unsubscribe (url : Url) (sink : Ref .sink)
  /-- A URL is registered or unregistered. -/
  | enrol (e : Registry.Enrolment)
  /-- A URL is recorded in a metadata store, or forgotten. -/
  | metadata (md : Ref .metadata) (r : MetadataStore.Request)
  /-- The instances of a source in memory are changed. -/
  | request (m : Ref .memory) (r : MemorySource.Request)
  /-- A listener is added to a source in memory. -/
  | observe (m : Ref .memory) (service : String) (l : Ref .listener)
  /-- A listener is removed from a source in memory. -/
  | unobserve (m : Ref .memory) (service : String) (l : Ref .listener)
  /-- Clients change what they remember, and with it how they behave. -/
  | alter (f : σ → σ) (hf : ∀ a b, common a = common b → common (f a) = common (f b))

namespace Operation

variable {common : σ → τ}

/-- What a call makes a registry or a source do.  A call that fails or panics is over, and the
next one follows. -/
def perform (host : Host (Chronicle σ)) (id : Ref .registry) :
    Operation common → Run (Chronicle σ) Unit
  | subscribe url sink => discard (Registry.subscribe host id url sink).run
  | unsubscribe url sink => Registry.unsubscribe id url sink
  | enrol e => e.perform id
  | metadata md r => discard (r.perform md)
  | request m r => discard (r.perform host m)
  | observe m service l => discard ((Discovery.memory m).addObserver host service (.client l)).run
  | unobserve m service l => (Discovery.memory m).removeObserver service (.client l)
  | alter f _ => modify fun w => { w with client := { w.client with own := f w.client.own } }

def performAll (host : Host (Chronicle σ)) (id : Ref .registry) (run : List (Operation common)) :
    Run (Chronicle σ) Unit :=
  run.forM (perform host id)

end Operation

/-- Whether a call is left when those that subscribe or unsubscribe another sink, or at another
URL, are erased. -/
def Seat.keeps (S : Seat) {common : σ → τ} : Operation common → Bool
  | .subscribe url sink => url.fullString = S.url ∧ sink = S.sink
  | .unsubscribe url sink => url.fullString = S.url ∧ sink = S.sink
  | _ => true

end ServiceDirectory
