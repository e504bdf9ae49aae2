import ServiceDirectory.Proofs.Discovery.Conveying
import ServiceDirectory.Proofs.Dispatcher.Capturing
import ServiceDirectory.Proofs.World.Nesting

/-!
# Sources on one dispatcher

Several backed sources may report their changes through one dispatcher.  Each of them has a
bridge there, and all bridges are told of all changes.  To say what a listener comes to hear that
has been added to one source only, clients keep minutes: of the calls of listeners, of the tasks
that are waiting, of what is being held on to, and of what the backends have answered to reports.

`Move` lists what can happen.  While a collaborator is called, it may itself make moves, to any
depth.
-/

namespace ServiceDirectory

/-- What clients remember of what they have been asked. -/
structure Minutes (σ : Type) where
  /-- The calls of listeners, latest first. -/
  heard : List (Ref .listener × Event)
  /-- The tasks that executors have been given and have not begun to run. -/
  waiting : List Task
  /-- What is being held on to, latest first. -/
  held : List Lease
  /-- What backends have answered to reports, latest first. -/
  reported : List (Ref .backend × String × List Instance)
  /-- Whatever else clients remember. -/
  own : σ

variable {σ : Type}

namespace World

/-- The world in which a listener has just been called. -/
def hearing (w : World (Minutes σ)) (l : Ref .listener) (event : Event) : World (Minutes σ) :=
  { w with client := { w.client with heard := (l, event) :: w.client.heard } }

/-- The world in which other tasks are waiting. -/
def holding (w : World (Minutes σ)) (waiting : List Task) : World (Minutes σ) :=
  { w with client := { w.client with waiting } }

/-- The world in which something is being held on to, unless it is gone. -/
def entering (w : World (Minutes σ)) (lease : Lease) : Bool → World (Minutes σ)
  | true => { w with client := { w.client with held := lease :: w.client.held } }
  | false => w

/-- The world in which the latest thing held on to has been let go. -/
def leaving (w : World (Minutes σ)) : World (Minutes σ) :=
  { w with client := { w.client with held := w.client.held.tail } }

/-- The world in which a backend has just been asked.  A source that has a change reported holds
on to its backend while it asks, and a watcher holds on to its source.  So what is held on to last
tells whether this is the answer to a report. -/
def answering (w : World (Minutes σ)) (b : Ref .backend) (service : String)
    (answer : Except Failure (List Instance)) : World (Minutes σ) :=
  match w.client.held, answer with
  | .backend _ :: _, .ok instances =>
    { w with client := { w.client with reported := (b, service, instances) :: w.client.reported } }
  | _, _ => w

theorem answering_of_report {w : World (Minutes σ)} {b' : Ref .backend} {held : List Lease}
    (h : w.client.held = .backend b' :: held) (b : Ref .backend) (service : String)
    (instances : List Instance) :
    w.answering b service (.ok instances) = { w with client := { w.client with
      reported := (b, service, instances) :: w.client.reported } } := by
  unfold answering
  rw [h]

theorem answering_cases (w : World (Minutes σ)) (b : Ref .backend) (service : String)
    (answer : Except Failure (List Instance)) :
    w.answering b service answer = w ∨ ∃ instances, w.answering b service answer =
      { w with client := { w.client with
        reported := (b, service, instances) :: w.client.reported } } := by
  unfold answering
  split
  · exact Or.inr ⟨_, rfl⟩
  · exact Or.inl rfl

end World

/-- How collaborators behave.  They keep the minutes: a call of a listener, a task that is handed
over, what is held on to and an answer to a report are put down there and then.  Apart from that a
collaborator may do whatever `M` allows. -/
structure Host.KeepsMinutes (host : Host (Minutes σ))
    (M : World (Minutes σ) → World (Minutes σ) → Prop) : Prop where
  onEvent : ∀ l event (w : World (Minutes σ)),
    M (w.hearing l event) (w.after (host.onEvent l event))
  deliver : ∀ delivery (w : World (Minutes σ)), M w (w.after (host.deliver delivery))
  handOff : ∀ executor task (w : World (Minutes σ)),
    M (w.holding (w.client.waiting ++ [task])) (w.after (host.handOff executor task))
  command : ∀ b c (w : World (Minutes σ)), M w (w.after (host.command b c))
  services : ∀ b (w : World (Minutes σ)), M w (w.after (host.services b))
  instances : ∀ b service (w : World (Minutes σ)),
    M (w.answering b service (w.result (host.instances b service)))
      (w.after (host.instances b service))
  watch : ∀ b service hook (w : World (Minutes σ)), M w (w.after (host.watch b service hook))
  lookup : ∀ c key group (w : World (Minutes σ)), M w (w.after (host.lookup c key group))
  enter : ∀ lease (w : World (Minutes σ)),
    M (w.entering lease (w.result (host.enter lease))) (w.after (host.enter lease))
  leave : ∀ lease (w : World (Minutes σ)), M w.leaving (w.after (host.leave lease))

theorem Host.KeepsMinutes.mono {host : Host (Minutes σ)}
    {M M' : World (Minutes σ) → World (Minutes σ) → Prop} (h : host.KeepsMinutes M)
    (hle : ∀ {w w'}, M w w' → M' w w') : host.KeepsMinutes M' where
  onEvent l event w := hle (h.onEvent l event w)
  deliver delivery w := hle (h.deliver delivery w)
  handOff executor task w := hle (h.handOff executor task w)
  command b c w := hle (h.command b c w)
  services b w := hle (h.services b w)
  instances b service w := hle (h.instances b service w)
  watch b service hook w := hle (h.watch b service hook w)
  lookup c key group w := hle (h.lookup c key group w)
  enter lease w := hle (h.enter lease w)
  leave lease w := hle (h.leave lease w)

/-- The sources on a dispatcher, and a listener that is added to one of them for one service. -/
structure Board where
  dispatcher : Ref .dispatcher
  sources : List Wire
  /-- The source to which the listener is added. -/
  home : Wire
  service : String
  listener : Ref .listener
  home_mem : home ∈ sources
  shared : ∀ c ∈ sources, c.dispatcher = dispatcher

namespace Board

variable (B : Board)

/-- Whether an event tells of the service. -/
def concerns (event : Event) : Bool :=
  match event.content with
  | .membership service _ => service = B.service
  | _ => false

/-- Whether an answer is what an event tells: a source of the dispatcher has that name and asks
the backend that has given the answer. -/
def announces (event : Event) (answer : Ref .backend × String × List Instance) : Bool :=
  B.sources.any fun c => c.backend = answer.1 ∧ answer.2.1 = B.service ∧
    event = .raise c.name (.membership B.service answer.2.2)

variable {B}

theorem announces_iff {event : Event} {answer : Ref .backend × String × List Instance} :
    B.announces event answer = true ↔ ∃ c ∈ B.sources, c.backend = answer.1 ∧
      answer.2.1 = B.service ∧ event = .raise c.name (.membership B.service answer.2.2) := by
  simp [announces]

theorem concerns_iff {event : Event} :
    B.concerns event = true ↔ ∃ instances, event.content = .membership B.service instances := by
  unfold concerns
  split
  · rename_i service instances hcontent
    simp [hcontent]
  · rename_i hother
    simp only [Bool.false_eq_true, false_iff]
    rintro ⟨instances, hcontent⟩
    exact hother _ _ hcontent

variable (B)

/-! ## What happens -/

/-- Nothing has changed that has to do with the sources, their dispatcher, the places of the
listener, or the minutes. -/
structure Still (w w' : World (Minutes σ)) : Prop where
  source : ∀ c ∈ B.sources, w'.source c.id = w.source c.id
  dispatcher : w'.dispatcher B.dispatcher = w.dispatcher B.dispatcher
  observers : ∀ service,
    w'.observersAt B.home.notifier service = w.observersAt B.home.notifier service
  absent : ∀ n service, Observer.client B.listener ∈ w'.observersAt n service →
    Observer.client B.listener ∈ w.observersAt n service
  heard : w'.client.heard = w.client.heard
  waiting : w'.client.waiting = w.client.waiting
  held : w'.client.held = w.client.held
  reported : w'.client.reported = w.client.reported

/-- One thing that happens, with collaborators of which `P` holds.  The listener is added to its
source for its service and nowhere else. -/
inductive Move (P : Host (Minutes σ) → Prop) : World (Minutes σ) → World (Minutes σ) → Prop
  | elsewhere {w w' : World (Minutes σ)} (h : B.Still w w') : Move P w w'
  | join {host : Host (Minutes σ)} (h : P host) {c : Wire} (hc : c ∈ B.sources) (service : String)
    (o : Observer) (hplace : o = .client B.listener → c = B.home ∧ service = B.service)
    (w : World (Minutes σ)) : Move P w (w.after (BackedSource.addObserver host c.id service o).run)
  | leave {c : Wire} (hc : c ∈ B.sources) (service : String) (o : Observer)
    (w : World (Minutes σ)) :
    Move P w (w.after ((Discovery.backed c.id).removeObserver service o))
  /-- A backend reports a change to a source. -/
  | report {host : Host (Minutes σ)} (h : P host) {c : Wire} (hc : c ∈ B.sources)
    (service : String) (w : World (Minutes σ)) : Move P w (w.after (c.hook.fire host service))
  /-- An executor runs one of its tasks, whichever it is. -/
  | run {host : Host (Minutes σ)} (h : P host) (before after : List Task) (task : Task)
    (w : World (Minutes σ)) (hwaiting : w.client.waiting = before ++ task :: after) :
    Move P w ((w.holding (before ++ after)).after (task.run host))
  /-- The dispatcher has other uses, too. -/
  | dispatch {host : Host (Minutes σ)} (h : P host) (event : Event)
    (hother : B.concerns event = false) (w : World (Minutes σ)) :
    Move P w (w.after (Dispatcher.dispatch host B.dispatcher event))
  | register (o : Observer) (ho : o ≠ .client B.listener) (w : World (Minutes σ)) :
    Move P w (w.after ((Dispatcher.Request.add (.observer o)).perform B.dispatcher).run)
  | deregister (l : Listener) (w : World (Minutes σ)) :
    Move P w (w.after ((Dispatcher.Request.remove l).perform B.dispatcher).run)

/-- The collaborators whose calls are nested no deeper than a depth. -/
abbrev Orderly : Nat → Host (Minutes σ) → Prop :=
  Nesting.Orderly B.Move fun M host => host.KeepsMinutes M

/-- A run of moves among collaborators of whatever depth. -/
abbrev Runs : World (Minutes σ) → World (Minutes σ) → Prop :=
  Nesting.Runs B.Move fun M host => host.KeepsMinutes M

/-! ## What is kept -/

/-- The requests on the dispatcher leave these pairs.  The listener is not among them, and no
bridge leads to the notifier of its source but the one of the source. -/
structure Posts (pairs : List (String × Listener)) (w : World (Minutes σ)) : Prop where
  records : Dispatcher.Records B.dispatcher pairs w
  absent : ∀ pair ∈ pairs, pair.2 ≠ .observer (.client B.listener)
  alone : ∀ pair ∈ pairs, ∀ serial, pair.2 = .bridge serial B.home.notifier →
    serial = B.home.serial

/-- The sources have been made on the dispatcher with notifiers of their own, nothing is under
way, and the listener has not been added and not been called. -/
structure Ready (w : World (Minutes σ)) : Prop where
  source : ∀ c ∈ B.sources, ∃ watched,
    w.source c.id = ⟨c.name, c.backend, B.dispatcher, c.notifier, watched⟩
  posts : ∃ pairs, B.Posts pairs w
  absent : ∀ n service, Observer.client B.listener ∉ w.observersAt n service
  nodup : (w.observersAt B.home.notifier B.service).Nodup
  waiting : w.client.waiting = []
  heard : ∀ event, (B.listener, event) ∉ w.client.heard

/-- The call that is due for an event, if it tells of the service. -/
def due (event : Event) : List Event := if B.concerns event = true then [event] else []

/-- The calls that are due for the tasks that are waiting. -/
def pending (waiting : List Task) : List Event := waiting.flatMap fun task => B.due task.event

/-- A task that the dispatcher has captured. -/
def Captured (σ : Type) (task : Task) : Prop :=
  ∃ (x : World (Minutes σ)) (pairs : List (String × Listener)), B.Posts pairs x ∧
    task.buckets = (x.dispatcher B.dispatcher).roster.buckets.entries

/-- All is in order, with these things held on to and with calls that are owed for events under
way.  Each answer to a report is good for one call: the listener has been called for some, is due
to be called for others, and that is all. -/
structure Sound (held : List Lease) (owed : List Event) (w : World (Minutes σ)) : Prop where
  source : ∀ c ∈ B.sources, ∃ watched,
    w.source c.id = ⟨c.name, c.backend, B.dispatcher, c.notifier, watched⟩
  posts : ∃ pairs, B.Posts pairs w
  placed : ∀ n service, Observer.client B.listener ∈ w.observersAt n service →
    n = B.home.notifier ∧ service = B.service
  nodup : (w.observersAt B.home.notifier B.service).Nodup
  captured : ∀ task ∈ w.client.waiting, B.Captured σ task
  holds : w.client.held = held
  covered : ∀ event, w.client.heard.count (B.listener, event) +
    (B.pending w.client.waiting ++ owed).count event ≤ w.client.reported.countP (B.announces event)

/-- From a world in order to another one, with the same things held on to and the same calls
owed. -/
def Leads (w w' : World (Minutes σ)) : Prop :=
  ∀ held owed, B.Sound held owed w → B.Sound held owed w'

/-- From a world in order to another one, and the call for an event is no longer owed. -/
def Settles (event : Event) (w w' : World (Minutes σ)) : Prop :=
  ∀ held owed, B.Sound held (B.due event ++ owed) w → B.Sound held owed w'

end Board

end ServiceDirectory
