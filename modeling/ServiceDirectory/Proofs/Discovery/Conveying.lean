import ServiceDirectory.Proofs.Dispatcher.Reacting
import ServiceDirectory.Proofs.Freshness.Making
import ServiceDirectory.Proofs.Notifier.Bucket

/-!
# From a report to the observers of a service

A backed source is wired to its observers by a dispatcher, a bridge on it, and a notifier.  A
report of the backend passes all three, and each is looked at in its own moment: the instances
when the report comes in, the listeners of the dispatcher when the event is dispatched, and the
bucket of the service when the bridge has its turn.  Whatever happens in between, an observer
of the bucket is told by the bridge once.
-/

namespace ServiceDirectory

open Dispatcher

variable {κ : Type}

/-- A bridge is registered for changes and for nothing else. -/
theorem Dispatcher.Records.kind_of_bridge {id : Ref .dispatcher} {pairs : List (String × Listener)}
    {w : World κ} (h : Records id pairs w) {kind : String} {serial : Nat} {n : Ref .notifier}
    (hmem : (kind, .bridge serial n) ∈ pairs) : kind = EventKind.membership.name :=
  h.kind_eq hmem fun _ => rfl

/-- Making a source on a dispatcher registers its bridge. -/
theorem Dispatcher.Records.bridged {id : Ref .dispatcher} {pairs : List (String × Listener)}
    {w : World κ} (h : Records id pairs w) (name : String) (backend : Ref .backend)
    (n : Ref .notifier) :
    Records id (Ledger.addPair pairs (EventKind.membership.name, .bridge w.next n))
      (w.after (BackedSource.create name backend id n).run) := by
  have hnumbered : Records id pairs { w with next := w.next + 1 } := h.meanwhile rfl
  exact (hnumbered.revised (.add (.bridge w.next n)) .membership rfl).meanwhile rfl

/-! ## Wires -/

/-- A backed source and what connects it with its observers. -/
structure Wire where
  id : Ref .backed
  name : String
  backend : Ref .backend
  dispatcher : Ref .dispatcher
  notifier : Ref .notifier
  /-- The number of the bridge. -/
  serial : Nat

namespace Wire

variable {c : Wire}

def bridge (c : Wire) : Listener := .bridge c.serial c.notifier

/-- The registration of the bridge. -/
def pair (c : Wire) : String × Listener := (EventKind.membership.name, c.bridge)

/-- What the backend has been given to report changes with. -/
def hook (c : Wire) : WatchHook := ⟨c.backend, c.dispatcher, c.name⟩

/-- The wire is in use: the source is what it has been made, the calls on the dispatcher leave
these pairs, the calls on the notifier are those of the log, and the dispatcher serves no other
source. -/
structure Carries (c : Wire) (pairs : List (String × Listener)) (log : List Notifier.Request)
    (w : World κ) : Prop where
  source : ∃ watched, w.source c.id = ⟨c.name, c.backend, c.dispatcher, c.notifier, watched⟩
  records : Records c.dispatcher pairs w
  logged : Notifier.Logged c.notifier log w
  alone : ∀ pair ∈ pairs, ∀ serial n, pair.2 = .bridge serial n → pair.2 = c.bridge

/-- Whatever has been done between two worlds, it has been done by the calls that there are. -/
def Leads (c : Wire) (w w' : World κ) : Prop :=
  ∀ pairs log, c.Carries pairs log w → ∃ pairs' later, c.Carries pairs' (later ++ log) w'

variable {pairs pairs' : List (String × Listener)} {log log' : List Notifier.Request}
  {w w' : World κ}

/-- Every watch of the source is installed with this hook. -/
theorem Carries.hook_eq (h : c.Carries pairs log w) : (w.source c.id).hook = c.hook := by
  obtain ⟨watched, hsource⟩ := h.source
  rw [hsource]
  rfl

/-- What happens elsewhere leaves the wire as it is. -/
theorem Carries.elsewhere (h : c.Carries pairs log w) (hsource : w'.source c.id = w.source c.id)
    (hdispatcher : w'.dispatcher c.dispatcher = w.dispatcher c.dispatcher)
    (haudience : w'.audience c.notifier = w.audience c.notifier) : c.Carries pairs log w' :=
  ⟨hsource ▸ h.source, h.records.meanwhile hdispatcher, h.logged.meanwhile haudience, h.alone⟩

theorem Leads.elsewhere (hsource : w'.source c.id = w.source c.id)
    (hdispatcher : w'.dispatcher c.dispatcher = w.dispatcher c.dispatcher)
    (haudience : w'.audience c.notifier = w.audience c.notifier) : c.Leads w w' :=
  fun pairs _ h => ⟨pairs, [], h.elsewhere hsource hdispatcher haudience⟩

theorem leads_disregardsLog (c : Wire) : DisregardsLog (κ := κ) c.Leads where
  refl _ := .elsewhere rfl rfl rfl
  trans h h' pairs log hcarries := by
    obtain ⟨pairs', later, hv⟩ := h pairs log hcarries
    obtain ⟨pairs'', later', hw⟩ := h' pairs' (later ++ log) hv
    exact ⟨pairs'', later' ++ later, List.append_assoc _ _ _ ▸ hw⟩
  note _ _ := .elsewhere rfl rfl rfl

theorem Carries.request (h : c.Carries pairs log w) (r : Notifier.Request) :
    c.Carries pairs (r :: log) (w.after (r.perform c.notifier)) := by
  refine ⟨?_, h.records.meanwhile ?_, h.logged.call r, h.alone⟩
  · cases r <;> exact h.source
  · cases r <;> rfl

/-- Making a source lays a wire, unless the dispatcher serves another one. -/
theorem carries_create {dispatcher : Ref .dispatcher} {notifier : Ref .notifier}
    (hrecords : Records dispatcher pairs w) (hlogged : Notifier.Logged notifier log w)
    (hfree : ∀ pair ∈ pairs, ∀ serial n, pair.2 ≠ .bridge serial n) (name : String)
    (backend : Ref .backend) :
    let c : Wire := ⟨⟨w.next + 1⟩, name, backend, dispatcher, notifier, w.next⟩
    c.Carries (Ledger.addPair pairs c.pair) log
      (w.after (BackedSource.create name backend dispatcher notifier).run) := by
  intro c
  refine ⟨⟨[], ?_⟩, ?_, hlogged.meanwhile rfl, ?_⟩
  · rw [BackedSource.after_create, World.source_setSource, if_pos rfl]
  · exact hrecords.bridged name backend notifier
  · intro pair hpair serial n hbridge
    rw [Ledger.addPair] at hpair
    split_ifs at hpair
    · exact absurd hbridge (hfree pair hpair serial n)
    · rcases List.mem_append.1 hpair with hpair | hpair
      · exact absurd hbridge (hfree pair hpair serial n)
      · rw [List.mem_singleton.1 hpair]
        rfl

/-! ## Turns -/

/-- How an event reaches the observers of a service.  The listeners of the dispatcher have their
turns; the bridge has one of them if it is there.  In its turn the observers are told that are
in the bucket then, each once and in the order of the bucket. -/
inductive Conveys (c : Wire) (host : Host κ) (event : Event) (service : String)
    (pairs : List (String × Listener)) (log : List Notifier.Request) (w w' : World κ) : Prop
  | bridged (before after : List (String × Listener))
    (hturns : InTurn w.priority event.kind pairs (before ++ c.pair :: after))
    (hown : ∀ pair ∈ before ++ after, ∃ o, pair.2 = .observer o)
    {u v v' : World κ} {pairs' : List (String × Listener)} {later : List Notifier.Request}
    (hbefore : Told host event w (before.map Prod.snd) u)
    (hcarries : c.Carries pairs' (later ++ log) u) (hnoted : v = u ∨ ∃ notice, v = u.note notice)
    (honce : (Notifier.bucket service (later ++ log)).Nodup)
    (hbucket : Told host event v
      ((Notifier.bucket service (later ++ log)).map Listener.observer) v')
    (hafter : Told host event v' (after.map Prod.snd) w')
  | unbridged (turns : List (String × Listener)) (hgone : c.pair ∉ pairs)
    (hturns : InTurn w.priority event.kind pairs turns)
    (hown : ∀ pair ∈ turns, ∃ o, pair.2 = .observer o)
    (htold : Told host event w (turns.map Prod.snd) w')

/-- All other pairs are of observers. -/
theorem Carries.observer_of_ne (h : c.Carries pairs log w) {pair : String × Listener}
    (hpair : pair ∈ pairs) (hne : pair ≠ c.pair) : ∃ o, pair.2 = .observer o := by
  obtain ⟨kind, l⟩ := pair
  cases l with
  | observer o => exact ⟨o, rfl⟩
  | bridge serial n =>
    have hbridge := h.alone _ hpair serial n rfl
    rw [h.records.kind_of_bridge hpair] at hne
    exact absurd (congrArg (Prod.mk _) hbridge) hne

/-- The bridge has one turn if it is there, and all other turns are those of observers. -/
theorem Carries.turn_of_bridge (h : c.Carries pairs log w) {priority : Listener → Int}
    {turns : List (String × Listener)} (hturns : InTurn priority .membership pairs turns)
    (hbridge : c.pair ∈ pairs) :
    ∃ before after, turns = before ++ c.pair :: after ∧
      ∀ pair ∈ before ++ after, ∃ o, pair.2 = .observer o := by
  obtain ⟨before, after, hcut, hothers⟩ := h.records.turn_of_mem hturns hbridge List.mem_cons_self
  refine ⟨before, after, hcut, fun pair hpair => ?_⟩
  obtain ⟨hmem, hne, -⟩ := hothers pair hpair
  exact h.observer_of_ne hmem hne

/-- A task conveys its event, whenever it is run after it has been captured. -/
theorem Carries.conveys {host : Host κ} (hhost : host.ReactsWithin c.Leads) {x y : World κ}
    (hx : c.Carries pairs log x) (hy : c.Carries pairs' log' y) {buckets : Buckets}
    (hbuckets : buckets.Perm (x.dispatcher c.dispatcher).roster.buckets.entries) {event : Event}
    {service : String} {instances : List Instance}
    (hcontent : event.content = .membership service instances) :
    c.Conveys host event service pairs log' y (y.after (Task.run host ⟨buckets, event⟩)) := by
  have hkind : event.kind = .membership := by
    rw [Event.kind, hcontent]
    rfl
  obtain ⟨turns, hturns, hrun⟩ := hx.records.told_run host event y
  have htold := hrun buckets hbuckets
  by_cases hbridge : c.pair ∈ pairs
  · obtain ⟨before, after, rfl, hown⟩ := hx.turn_of_bridge (hkind ▸ hturns) hbridge
    -- What the turns before the bridge do to the bucket counts, so it is read behind them.
    rw [List.map_append, List.map_cons] at htold
    obtain ⟨u, hbefore, hrest⟩ := told_append.1 htold
    have hreached : c.Leads y u := hbefore.keepsTo c.leads_disregardsLog fun l _ v =>
      l.react_keepsTo c.leads_disregardsLog hhost event v
    obtain ⟨pairs'', later, hu⟩ := hreached pairs' log' hy
    obtain ⟨v, hnoted, hbucket⟩ := told_notify hcontent c.notifier u
    rw [hu.logged.observers_eq] at hbucket
    exact .bridged before after hturns hown hbefore hu hnoted
      (Notifier.bucket_nodup service _) hbucket (told_bridge_cons.1 hrest)
  · refine .unbridged turns hbridge hturns (fun pair hpair => ?_) htold
    refine hx.observer_of_ne (hturns.subset hpair) ?_
    rintro rfl
    exact hbridge (hturns.subset hpair)

/-! ## Reports -/

/-- What a report comes to.  It is dropped when the backend is gone, and logged when the backend
does not answer.  Otherwise one event is dispatched, with the name of the source and with the
instances of the answer.  Run at once or later, and with whatever is done until then, its task
conveys the event to the bucket of the service. -/
theorem fire_of_carries {host : Host κ} (hhost : host.ReactsWithin c.Leads)
    (h : c.Carries pairs log w) (service : String) :
    let v := w.after (host.enter (.backend c.backend))
    let ask := host.instances c.backend service
    let final := w.after (c.hook.fire host service)
    (w.source c.id).hook = c.hook ∧ c.Leads w final ∧
    ((w.result (host.enter (.backend c.backend)) = false ∧ final = v) ∨
    (∃ cause, v.result ask = .error cause ∧
      final = ((v.after ask).note (.changeQueryFailed c.name service cause.message)).after
        (host.leave (.backend c.backend))) ∨
    ∃ instances, v.result ask = .ok instances ∧
      let event : Event := .raise c.name (.membership service instances)
      let x := (v.after ask).note (.changeReported c.name service instances.length)
      let captured := (x.dispatcher c.dispatcher).roster.buckets.entries
      final = (x.after (dispatch host c.dispatcher event)).after
        (host.leave (.backend c.backend)) ∧
      x.after (dispatch host c.dispatcher event) =
        (match (x.dispatcher c.dispatcher).executor with
          | .direct => x.after (Task.run host ⟨captured, event⟩)
          | .external executor => x.after (host.handOff executor ⟨captured, event⟩)) ∧
      ∃ pairs' later, c.Carries pairs' (later ++ log) x ∧
        ∀ (buckets : Buckets) pairs'' log' y, buckets.Perm captured → c.Carries pairs'' log' y →
          c.Conveys host event service pairs' log' y
            (y.after (Task.run host ⟨buckets, event⟩))) := by
  intro v ask final
  have hleads := c.leads_disregardsLog (κ := κ)
  refine ⟨h.hook_eq, c.hook.fire_keepsTo hleads hhost service w, ?_⟩
  rcases c.hook.fire_cases host service w with hgone | hfailed | ⟨instances, hasked, hfinal⟩
  · exact Or.inl hgone
  · exact Or.inr (Or.inl hfailed)
  · refine Or.inr (Or.inr ⟨instances, hasked, ?_⟩)
    intro event x captured
    have hreached : c.Leads w x := hleads.trans (hleads.trans
      (hhost.enter (.backend c.backend) w) (hhost.instances c.backend service v)) (hleads.note _ _)
    obtain ⟨pairs', later, hx⟩ := hreached pairs log h
    refine ⟨hfinal, ?_, pairs', later, hx, ?_⟩
    · rw [dispatch, World.after_bind, World.after_get, World.result_get]
      dsimp only
      cases (x.dispatcher c.dispatcher).executor <;> rfl
    · intro buckets pairs'' log' y hbuckets hy
      exact hx.conveys hhost hy hbuckets rfl

/-! ## Listeners that panic, join and listen twice -/

section Restless

def restlessWire : Wire := ⟨⟨3⟩, "mock", ⟨20⟩, ⟨1⟩, ⟨0⟩, 2⟩

/-- The listeners keep a list of the calls.  The first one lets another one join, and panics. -/
def listening : Host (List (Ref .listener)) :=
  { Host.quiet with
    onEvent := fun l _ => do
      modify fun w => { w with client := w.client ++ [l] }
      if l = ⟨11⟩ then
        Notifier.add ⟨0⟩ "svc" (.client ⟨13⟩)
        return some (.text "boom")
      else return none }

/-- A notifier and a dispatcher. -/
def bare : World (List (Ref .listener)) :=
  ((World.initial []).after Notifier.create).after (Dispatcher.create .direct)

/-- The source has been made, and nobody observes it yet. -/
def made : World (List (Ref .listener)) :=
  bare.after (BackedSource.create "mock" ⟨20⟩ ⟨1⟩ ⟨0⟩).run

theorem made_carries : restlessWire.Carries [restlessWire.pair] [] made := by
  have hrecords : Records ⟨1⟩ [] bare := .created .direct rfl
  have hcreated : Notifier.Logged ⟨0⟩ [] ((World.initial ([] : List (Ref .listener))).after
    Notifier.create) := .created _ rfl
  exact carries_create hrecords (hcreated.meanwhile rfl) (by simp) "mock" ⟨20⟩

def joins : List Notifier.Request :=
  [.add "other" (.client ⟨14⟩), .add "svc" (.client ⟨12⟩), .add "svc" (.client ⟨11⟩)]

/-- Two listeners observe the service, and one observes another service. -/
def attended : World (List (Ref .listener)) :=
  joins.foldr (fun r w => w.after (r.perform ⟨0⟩)) made

theorem attended_carries : restlessWire.Carries [restlessWire.pair] joins attended :=
  ((made_carries.request _).request _).request _

theorem listening_reactsWithin : listening.ReactsWithin restlessWire.Leads where
  onEvent l event w := by
    by_cases hl : l = ⟨11⟩
    · subst hl
      intro pairs log h
      have hlisted : restlessWire.Carries pairs log { w with client := w.client ++ [⟨11⟩] } :=
        h.elsewhere rfl rfl rfl
      exact ⟨pairs, [.add "svc" (.client ⟨13⟩)], hlisted.request (.add "svc" (.client ⟨13⟩))⟩
    · have hafter : w.after (listening.onEvent l event) = { w with client := w.client ++ [l] } := by
        simp [listening, hl]
      rw [hafter]
      exact .elsewhere rfl rfl rfl
  deliver _ _ := .elsewhere rfl rfl rfl
  handOff _ _ _ := .elsewhere rfl rfl rfl
  instances _ _ _ := .elsewhere rfl rfl rfl
  enter _ _ := .elsewhere rfl rfl rfl
  leave _ _ := .elsewhere rfl rfl rfl

/-- The panic keeps nobody from being told, and who joins too late is not. -/
theorem fire_of_carries_restless :
    restlessWire.Carries [restlessWire.pair] joins attended ∧
      listening.ReactsWithin restlessWire.Leads ∧
      (attended.after (restlessWire.hook.fire listening "svc")).client = [⟨11⟩, ⟨12⟩] ∧
      ∃ pairs log y, restlessWire.Carries pairs log y ∧
        restlessWire.Conveys listening (.raise "mock" (.membership "svc" [])) "svc" pairs log y
          (y.after (dispatch listening ⟨1⟩ (.raise "mock" (.membership "svc" [])))) := by
  refine ⟨attended_carries, listening_reactsWithin, by decide +kernel, ?_⟩
  obtain ⟨-, -, ⟨hgone, -⟩ | ⟨cause, hfailed, -⟩ | ⟨instances, hasked, hreport⟩⟩ :=
    fire_of_carries listening_reactsWithin attended_carries "svc"
  · cases hgone
  · cases hfailed
  · cases hasked
    obtain ⟨-, -, pairs, later, hx, hconveys⟩ := hreport
    refine ⟨pairs, later ++ joins, _, hx, ?_⟩
    exact hconveys _ pairs (later ++ joins) _ (List.Perm.refl _) hx

/-- The second listener is registered on the dispatcher as well, for all events. -/
def doubled : World (List (Ref .listener)) :=
  (attended.setProfile ⟨12⟩ ⟨some .any, defaultPriority⟩).after
    ((Dispatcher.Request.add (.observer (.client ⟨12⟩))).perform ⟨1⟩).run

def doubledPairs : List (String × Listener) :=
  [restlessWire.pair, ("event", .observer (.client ⟨12⟩))]

theorem doubled_carries : restlessWire.Carries doubledPairs joins doubled := by
  have hcarries : restlessWire.Carries [restlessWire.pair] joins
      (attended.setProfile ⟨12⟩ ⟨some .any, defaultPriority⟩) :=
    attended_carries.elsewhere rfl rfl rfl
  refine ⟨hcarries.source, ?_, hcarries.logged.meanwhile rfl, ?_⟩
  · exact hcarries.records.revised (.add (.observer (.client ⟨12⟩))) .any rfl
  · intro pair hpair serial n hbridge
    rcases List.mem_cons.1 hpair with rfl | hpair
    · rfl
    · rw [List.mem_singleton.1 hpair] at hbridge
      cases hbridge

/-- A listener that is in the bucket and on the dispatcher too is told twice. -/
theorem fire_tells_doubled_twice :
    restlessWire.Carries doubledPairs joins doubled ∧
      listening.ReactsWithin restlessWire.Leads ∧
      Observer.client ⟨12⟩ ∈ Notifier.bucket "svc" joins ∧
      (doubled.after (restlessWire.hook.fire listening "svc")).client =
        [⟨11⟩, ⟨12⟩, ⟨12⟩] := by
  refine ⟨doubled_carries, listening_reactsWithin, by decide, ?_⟩
  let x := doubled.note (.changeReported "mock" "svc" 0)
  let captured : Buckets := (doubled.dispatcher ⟨1⟩).roster.buckets.entries
  let registrations : List Registration :=
    [⟨restlessWire.bridge, 0⟩, ⟨.observer (.client ⟨12⟩), 1⟩]
  have hsorted : registrations.Pairwise fun a b => Registration.before x.priority a b = true := by
    decide
  have haccepting : (captured.filter fun bucket =>
      EventKind.membership.isNamedAbove bucket.1).flatMap Prod.snd = registrations := by
    decide +kernel
  have hturns : captured.matching x.priority .membership = registrations := by
    rw [Buckets.matching, haccepting]
    exact List.mergeSort_of_pairwise hsorted
  show (x.after (Task.run listening ⟨captured, .raise "mock" (.membership "svc" [])⟩)).client = _
  rw [Task.run, World.after_bind, World.after_get, World.result_get]
  show (x.after ((captured.matching x.priority .membership).forM _)).client = _
  rw [hturns]
  rfl

end Restless

end Wire

end ServiceDirectory
