import ServiceDirectory.Proofs.Dispatcher.Reacting
import ServiceDirectory.Proofs.Registry.Subscribing
import ServiceDirectory.Proofs.Url.Grammar

/-!
# What is delivered

A subscription to the instances of services is answered with a list that portrays all of them,
service by service, or it is not answered at all.  The services are asked one after the other,
and the first one that cannot be asked ends the matter, whatever has been collected by then.
This is so for the first delivery, which the subscribing call makes, and for all deliveries that
its watcher makes afterwards.
-/

namespace ServiceDirectory

variable {κ α : Type}

/-- A computation gives a value and ends in a world. -/
def World.Ends (w : World κ) (m : Run κ α) (a : α) (w' : World κ) : Prop :=
  w.result m = a ∧ w.after m = w'

/-! ## The URLs of instances -/

/-- The URL shows an instance to a subscription. -/
structure Portrays (subscribed : Url) (x : Instance) (u : Url) : Prop where
  protocol : (∃ p, p ≠ "" ∧ subscribed.parameter? Url.protocolKey = some p ∧ u.protocol = p) ∨
    ((∀ p, subscribed.parameter? Url.protocolKey = some p → p = "") ∧
      u.protocol = subscribed.protocol)
  host : u.host = x.host
  port : u.port = some x.port
  path : Url.Unslashed subscribed.serviceInterface.toList u.path.toList
  parameters : u.parameters.entries = x.metadata.entries
  ascending : u.parameters.entries.Pairwise fun a b => a.1 < b.1

theorem foldl_withParameter (entries : List (String × String)) (u : Url) :
    entries.foldl (fun u entry => u.withParameter entry.1 entry.2) u =
      ⟨u.protocol, u.host, u.port, u.path,
        entries.foldl (fun m entry => m.insert entry.1 entry.2) u.parameters⟩ := by
  induction entries generalizing u with
  | nil => rfl
  | cons entry rest ih => exact ih (u.withParameter entry.1 entry.2)

/-- Ascending keys are set in their order, and none of them is set twice. -/
theorem instanceUrl_eq (subscribed : Url) (x : Instance) :
    instanceUrl subscribed x =
      ⟨subscribed.protocolFilter.getD subscribed.protocol, x.host, some x.port,
        String.ofList (Url.dropSlashes subscribed.serviceInterface.toList),
        ⟨x.metadata.entries⟩⟩ := by
  have hnodup : (x.metadata.entries.map Prod.fst).Nodup := by
    refine List.pairwise_map.2 (x.metadata.ascending.imp fun {a b} hlt heq => ?_)
    rw [heq] at hlt
    exact String.lt_irrefl _ hlt
  have hparameters : OrderedMap.ofList x.metadata.entries = ⟨x.metadata.entries⟩ :=
    OrderedMap.ofList_entries (m := ⟨x.metadata.entries⟩) hnodup
  rw [instanceUrl, foldl_withParameter, ← hparameters]
  rfl

theorem protocolFilter_getD (u : Url) (own : String) :
    (∃ p, p ≠ "" ∧ u.parameter? Url.protocolKey = some p ∧ u.protocolFilter.getD own = p) ∨
      (∀ p, u.parameter? Url.protocolKey = some p → p = "") ∧ u.protocolFilter.getD own = own := by
  unfold Url.protocolFilter
  cases u.parameter? Url.protocolKey with
  | none => exact Or.inr ⟨nofun, rfl⟩
  | some p =>
    by_cases hp : p = ""
    · subst hp
      exact Or.inr ⟨fun p h => (Option.some.inj h).symm, rfl⟩
    · exact Or.inl ⟨p, hp, rfl, by simp [Option.filter, hp]⟩

theorem portrays_instanceUrl (subscribed : Url) (x : Instance) :
    Portrays subscribed x (instanceUrl subscribed x) := by
  rw [instanceUrl_eq]
  refine ⟨protocolFilter_getD subscribed _, rfl, rfl, ?_, rfl, x.metadata.ascending⟩
  rw [String.toList_ofList]
  exact Url.dropSlashes_eq_iff.1 rfl

/-! ## Asking service by service -/

/-- The services are asked one after the other, and each answer is that of its moment. -/
inductive Answers (host : Host κ) (d : Discovery) :
    World κ → List String → List (List Instance) → World κ → Prop
  | done (w : World κ) : Answers host d w [] [] w
  | next {w v w' : World κ} {service : String} {rest : List String} {instances : List Instance}
    {lists : List (List Instance)}
    (hasked : w.Ends (d.instances host service).run (.ok instances) v)
    (hrest : Answers host d v rest lists w') :
    Answers host d w (service :: rest) (instances :: lists) w'

/-- All services before the first one that cannot be asked have answered. -/
inductive Fails (host : Host κ) (d : Discovery) (w : World κ) (services : List String)
    (cause : Failure) (w' : World κ) : Prop
  | intro {before after : List String} {service : String} {lists : List (List Instance)}
    {v : World κ} (hservices : services = before ++ service :: after)
    (hbefore : Answers host d w before lists v)
    (hfailed : v.Ends (d.instances host service).run (.error cause) w')

section Asking

variable {host : Host κ} {d : Discovery} {w w' : World κ} {services : List String}
  {lists : List (List Instance)} {cause : Failure}

theorem answers_or_fails (host : Host κ) (d : Discovery) (w : World κ) (services : List String) :
    (∃ lists w', Answers host d w services lists w') ∨
      ∃ cause w', Fails host d w services cause w' := by
  induction services generalizing w with
  | nil => exact Or.inl ⟨[], w, .done w⟩
  | cons service rest ih =>
    cases hasked : w.result (d.instances host service).run with
    | error cause => exact Or.inr ⟨cause, _, .intro (List.nil_append _).symm (.done w)
      ⟨hasked, rfl⟩⟩
    | ok instances =>
      rcases ih (w.after (d.instances host service).run) with
        ⟨lists, w', hrest⟩ | ⟨cause, w', @⟨before, after, failing, _, _, hrest, hbefore, hfailed⟩⟩
      · exact Or.inl ⟨_, w', .next ⟨hasked, rfl⟩ hrest⟩
      · have hservices : service :: rest = service :: before ++ failing :: after := by
          rw [hrest, List.cons_append]
        exact Or.inr ⟨cause, w', .intro hservices (.next ⟨hasked, rfl⟩ hbefore) hfailed⟩

/-- What is collected is one URL for each instance of the answers, in their order. -/
theorem Answers.ends (h : Answers host d w services lists w') (url : Url) :
    w.Ends (instanceUrls host d url services).run (.ok (lists.flatten.map (instanceUrl url)))
      w' := by
  induction h with
  | done w => exact ⟨rfl, rfl⟩
  | next hasked _ ih =>
    obtain ⟨hresult, rfl⟩ := hasked
    obtain ⟨hurls, rfl⟩ := ih
    constructor
    · rw [instanceUrls, World.result_bind_of_ok hresult, World.result_bind_of_ok hurls,
        List.flatten_cons, List.map_append]
      rfl
    · rw [instanceUrls, World.after_bind_of_ok hresult, World.after_bind_of_ok hurls]
      rfl

/-- Nothing is collected from a part of the services. -/
theorem Fails.ends (h : Fails host d w services cause w') (url : Url) :
    w.Ends (instanceUrls host d url services).run (.error cause) w' := by
  obtain ⟨rfl, hbefore, hfailed⟩ := h
  induction hbefore with
  | done w =>
    obtain ⟨hresult, rfl⟩ := hfailed
    rw [List.nil_append, instanceUrls]
    exact ⟨World.result_bind_of_error hresult _, World.after_bind_of_error hresult _⟩
  | next hasked _ ih =>
    obtain ⟨hresult, rfl⟩ := hasked
    obtain ⟨herror, hafter⟩ := ih hfailed
    rw [List.cons_append, instanceUrls]
    constructor
    · rw [World.result_bind_of_ok hresult, World.result_bind_of_error herror]
    · rw [World.after_bind_of_ok hresult, World.after_bind_of_error herror, hafter]

theorem answers_of_result {url : Url} {urls : List Url}
    (h : w.result (instanceUrls host d url services).run = .ok urls) :
    ∃ lists, Answers host d w services lists (w.after (instanceUrls host d url services).run) ∧
      List.Forall₂ (Portrays url) lists.flatten urls := by
  rcases answers_or_fails host d w services with ⟨lists, w', hanswers⟩ | ⟨cause, w', hfails⟩
  · obtain ⟨hurls, rfl⟩ := hanswers.ends url
    obtain rfl := Except.ok.inj (h.symm.trans hurls)
    refine ⟨lists, hanswers, ?_⟩
    rw [List.forall₂_map_right_iff, List.forall₂_same]
    exact fun x _ => portrays_instanceUrl url x
  · exact absurd (h.symm.trans (hfails.ends url).1) (by simp)

theorem fails_of_result {url : Url}
    (h : w.result (instanceUrls host d url services).run = .error cause) :
    Fails host d w services cause (w.after (instanceUrls host d url services).run) := by
  rcases answers_or_fails host d w services with ⟨lists, w', hanswers⟩ | ⟨cause', w', hfails⟩
  · exact absurd (h.symm.trans (hanswers.ends url).1) (by simp)
  · obtain ⟨herror, rfl⟩ := hfails.ends url
    obtain rfl := Except.error.inj (h.symm.trans herror)
    exact hfails

end Asking

/-! ## First deliveries -/

namespace Registry

variable {host : Host κ} {id : Ref .registry} {url : Url} {sink : Ref .sink} {w : World κ}

/-- The interface of a URL has been resolved to services, and a watcher has been put in place for
them at the source of the registry. -/
inductive Watching (host : Host κ) (id : Ref .registry) (url : Url) (sink : Ref .sink)
    (w : World κ) (services : List String) : Discovery → Watcher → World κ → Prop
  | intro {v x : World κ}
    (hnames : w.Ends (serviceNames host id url.serviceInterface).run (.ok services) v)
    (hwatch : World.Ends { v with next := v.next + 1 }
      (watchEach host (v.registry id).discovery (nextWatcher v id url sink services) []
        services).run (.ok ()) x) :
    Watching host id url sink w services (v.registry id).discovery
      (nextWatcher v id url sink services) x

/-- How a call answers a subscription to instances: what it returns, and in which world it ends.
The sink is called in the last two cases only, and it is called once. -/
inductive Opens (host : Host κ) (id : Ref .registry) (url : Url) (sink : Ref .sink)
    (w : World κ) : Except Stop Unit → World κ → Prop
  | unresolved {cause : Failure} {v : World κ}
    (hnames : w.Ends (serviceNames host id url.serviceInterface).run (.error cause) v) :
    Opens host id url sink w (.error (.failed cause)) v
  | unwatched {services : List String} {stop : Stop} {v x : World κ}
    (hnames : w.Ends (serviceNames host id url.serviceInterface).run (.ok services) v)
    (hwatch : World.Ends { v with next := v.next + 1 }
      (watchEach host (v.registry id).discovery (nextWatcher v id url sink services) []
        services).run (.error stop) x) :
    Opens host id url sink w (.error stop) x
  | unanswered {services : List String} {d : Discovery} {watcher : Watcher} {cause : Failure}
    {x y : World κ} (hwatching : Watching host id url sink w services d watcher x)
    (hfails : Fails host d x services cause y) :
    Opens host id url sink w (.error (.failed cause)) (y.after (unwatch d services watcher))
  | panicked {services : List String} {d : Discovery} {watcher : Watcher}
    {lists : List (List Instance)} {urls : List Url} {payload : Payload} {x y z : World κ}
    (hwatching : Watching host id url sink w services d watcher x)
    (hanswers : Answers host d x services lists y)
    (hurls : List.Forall₂ (Portrays url) lists.flatten urls)
    (hdeliver : World.Ends (y.note (.instancesDelivered url.fullString services urls.length))
      (host.deliver ⟨url, sink, urls, watcher⟩) (some payload) z) :
    Opens host id url sink w (.error (.panicked payload)) z
  | delivered {services : List String} {d : Discovery} {watcher : Watcher}
    {lists : List (List Instance)} {urls : List Url} {x y z : World κ}
    (hwatching : Watching host id url sink w services d watcher x)
    (hanswers : Answers host d x services lists y)
    (hurls : List.Forall₂ (Portrays url) lists.flatten urls)
    (hdeliver : World.Ends (y.note (.instancesDelivered url.fullString services urls.length))
      (host.deliver ⟨url, sink, urls, watcher⟩) none z) :
    Opens host id url sink w (.ok ()) (z.after (setSubscriptions id
      ((z.registry id).subscriptions.add url.fullString ⟨sink, watcher⟩)))

/-- Nothing is delivered when nothing is collected. -/
theorem opens_of_deliverInstances (host : Host κ) (id : Ref .registry) (url : Url)
    (sink : Ref .sink) (w : World κ) :
    Opens host id url sink w (w.result (deliverInstances host id url sink).run)
      (w.after (deliverInstances host id url sink).run) := by
  rcases watchAndCollect_ways host id url sink w with
    ⟨cause, hnames, hcollect, hcollected⟩ | ⟨services, hnames, hways⟩
  · obtain ⟨hresult, hfinal⟩ := deliverInstances_stopped hcollect
    rw [hresult, hfinal, hcollected]
    exact .unresolved ⟨hnames, rfl⟩
  dsimp only at hways
  rcases hways with ⟨stop, hwatch, hcollect, hcollected⟩ |
    ⟨cause, hwatch, hasked, hcollect, hcollected⟩ | ⟨urls, hwatch, hasked, hcollect, hcollected⟩
  · obtain ⟨hresult, hfinal⟩ := deliverInstances_stopped hcollect
    rw [hresult, hfinal, hcollected]
    exact .unwatched ⟨hnames, rfl⟩ ⟨hwatch, rfl⟩
  · have hwatching : Watching host id url sink w services _ _ _ :=
      .intro ⟨hnames, rfl⟩ ⟨hwatch, rfl⟩
    obtain ⟨hresult, hfinal⟩ := deliverInstances_stopped hcollect
    rw [hresult, hfinal, hcollected]
    exact .unanswered hwatching (fails_of_result hasked)
  · have hwatching : Watching host id url sink w services _ _ _ :=
      .intro ⟨hnames, rfl⟩ ⟨hwatch, rfl⟩
    obtain ⟨lists, hanswers, hurls⟩ := answers_of_result hasked
    rw [← hcollected] at hanswers
    rcases deliverInstances_collected hcollect with
      ⟨payload, hdeliver, hresult, hfinal⟩ | ⟨hdeliver, hresult, hfinal⟩
    · rw [hresult, hfinal]
      exact .panicked hwatching hanswers hurls ⟨hdeliver, rfl⟩
    · rw [hresult, hfinal]
      exact .delivered hwatching hanswers hurls ⟨hdeliver, rfl⟩

end Registry

/-! ## Later deliveries -/

/-- How a watcher takes a change, and in which world that ends.  The sink is called in the last
case only, and it is called once. -/
inductive Refreshes (host : Host κ) (watcher : Watcher) (event : Event) (w : World κ) :
    World κ → Prop
  | gone {v : World κ}
    (henter : w.Ends (host.enter (.discovery (w.registry watcher.registry).discovery)) false v) :
    Refreshes host watcher event w v
  | unanswered {cause : Failure} {v y : World κ}
    (henter : w.Ends (host.enter (.discovery (w.registry watcher.registry).discovery)) true v)
    (hfails : Fails host (w.registry watcher.registry).discovery v watcher.services cause y) :
    Refreshes host watcher event w
      ((y.note (.refreshFailed watcher.subscribed.fullString cause.message)).after
        (host.leave (.discovery (w.registry watcher.registry).discovery)))
  | delivered {lists : List (List Instance)} {urls : List Url} {v y : World κ}
    (henter : w.Ends (host.enter (.discovery (w.registry watcher.registry).discovery)) true v)
    (hanswers : Answers host (w.registry watcher.registry).discovery v watcher.services lists y)
    (hurls : List.Forall₂ (Portrays watcher.subscribed) lists.flatten urls) :
    Refreshes host watcher event w
      (((y.note (.subscriptionRefreshed watcher.subscribed.fullString event.source
        urls.length)).after
          (host.deliver ⟨watcher.subscribed, watcher.sink, urls, watcher⟩)).after
            (host.leave (.discovery (w.registry watcher.registry).discovery)))

theorem refreshes (host : Host κ) (watcher : Watcher) (event : Event) (w : World κ) :
    Refreshes host watcher event w (w.after (watcher.refresh host event)) := by
  cases henter : w.result (host.enter (.discovery (w.registry watcher.registry).discovery)) with
  | false =>
    rw [Watcher.after_refresh_of_gone henter]
    exact .gone ⟨henter, rfl⟩
  | true =>
    rcases watcher.refresh_cases host event w with
      ⟨hgone, -⟩ | ⟨cause, hasked, hfinal⟩ | ⟨urls, hasked, hfinal⟩
    · rw [henter] at hgone
      cases hgone
    · rw [hfinal]
      exact .unanswered ⟨henter, rfl⟩ (fails_of_result hasked)
    · obtain ⟨lists, hanswers, hurls⟩ := answers_of_result hasked
      rw [hfinal]
      exact .delivered ⟨henter, rfl⟩ hanswers hurls

/-- Two worlds with the same tables; only the log and what the clients keep may differ. -/
def Untouched (w w' : World κ) : Prop :=
  w' = { w with journal := w'.journal, client := w'.client }

/-- Collaborators that are asked for instances keep to a relation between the worlds before and
after. -/
structure Host.AsksWithin (host : Host κ) (R : World κ → World κ → Prop) : Prop where
  instances : ∀ b service w, R w (w.after (host.instances b service))
  enter : ∀ lease w, R w (w.after (host.enter lease))
  leave : ∀ lease w, R w (w.after (host.leave lease))

theorem untouched_disregardsLog : DisregardsLog (Untouched (κ := κ)) where
  refl _ := rfl
  trans h h' := by
    rw [Untouched] at h h'
    rw [Untouched, h', h]
  note _ _ := rfl

/-- A refresh that fails keeps to whatever the collaborators that it asks keep to. -/
theorem Fails.refresh_keepsTo {host : Host κ} {R : World κ → World κ → Prop}
    (hR : DisregardsLog R) (hhost : host.AsksWithin R) {watcher : Watcher} {event : Event}
    {cause : Failure} {w v y : World κ}
    (henter : w.Ends (host.enter (.discovery (w.registry watcher.registry).discovery)) true v)
    (hfails : Fails host (w.registry watcher.registry).discovery v watcher.services cause y) :
    R w (w.after (watcher.refresh host event)) := by
  obtain ⟨hentered, rfl⟩ := henter
  obtain ⟨herror, -⟩ := hfails.ends watcher.subscribed
  have hways := watcher.refresh_cases host event w
  dsimp only at hways
  generalize (w.registry watcher.registry).discovery = d at *
  have hasked := hR.trans (hhost.enter (.discovery d) w) (instanceUrls_keepsTo hhost.instances
    hR.refl hR.trans d watcher.subscribed watcher.services _)
  rcases hways with ⟨hgone, -⟩ | ⟨cause', -, hfinal⟩ | ⟨urls, hok, -⟩
  · rw [hentered] at hgone
    cases hgone
  · rw [hfinal]
    exact hR.trans (hR.trans hasked (hR.note _ _)) (hhost.leave _ _)
  · rw [herror] at hok
    cases hok

namespace Registry

/-- A subscription to instances is answered with all of them or not at all.  The sink that is
called, by the call that subscribes or by its watcher later, is given the URLs of the instances
that the services list, service by service.  When a service cannot be asked, the sink is not
called: the call fails with the first failure, and a refresh that fails leaves all tables as
they are, unless the collaborators that it asks change them. -/
theorem snapshots_of_subscribe (host : Host κ) (id : Ref .registry) {url : Url}
    (hurl : isMetadataUrl url = false) (sink : Ref .sink) (w : World κ) :
    let result := w.result (subscribe host id url sink).run
    (∃ y, Opens host id url sink (w.after (dropSubscription id url sink)) result y ∧
      w.after (subscribe host id url sink).run = match result with
        | .error _ => y
        | .ok _ => y.after (MetadataStore.subscribeUrl (y.registry id).metadata url)) ∧
    ∀ (watcher : Watcher) (event : Event) (v : World κ),
      let d := (v.registry watcher.registry).discovery
      let final := v.after (watcher.refresh host event)
      Refreshes host watcher event v final ∧
        (host.AsksWithin Untouched → ∀ cause x y, v.Ends (host.enter (.discovery d)) true x →
          Fails host d x watcher.services cause y → Untouched v final) := by
  intro result
  constructor
  · have hopens := opens_of_deliverInstances host id url sink
      (w.after (dropSubscription id url sink))
    rw [← result_answer_instances hurl, ← after_answer_instances hurl] at hopens
    rcases subscribe_cases host id url sink w with
      ⟨stop, hanswer, hresult, hfinal⟩ | ⟨hanswer, hresult, hfinal⟩
    · have hstopped : result = .error stop := hresult
      rw [hanswer] at hopens
      rw [hstopped, hfinal]
      exact ⟨_, hopens, rfl⟩
    · have hdone : result = .ok () := hresult
      rw [hanswer] at hopens
      rw [hdone, hfinal]
      exact ⟨_, hopens, rfl⟩
  · intro watcher event v d final
    exact ⟨refreshes host watcher event v, fun hhost cause x y henter hfails =>
      hfails.refresh_keepsTo untouched_disregardsLog hhost henter⟩

/-! ## A service that breaks down -/

section Faltering

def furnished (service : String) : Instance :=
  ((Instance.ofAddress service "h1" 80).withMetadata "z" "1").withMetadata "k" "2"

/-- The client's state says whether the second service is down, and keeps the lists that the
sinks have been given. -/
def faltering : Host (Bool × List (List Url)) :=
  { Host.quiet with
    lookup := fun _ _ _ => pure (.ok (some " b,a,, b"))
    instances := fun _ service => do
      return if (← get).client.1 ∧ service = "a" then .error (.collaborator "a is down")
        else .ok [furnished service, .ofAddress service "h2" 81]
    deliver := fun delivery => do
      modify fun w => { w with client := (w.client.1, w.client.2 ++ [delivery.urls]) }
      return none }

theorem faltering_asksWithin : faltering.AsksWithin Untouched where
  instances _ _ _ := rfl
  enter _ _ := rfl
  leave _ _ := rfl

def wanted : Url :=
  ((Url.ofParts "consumer" "c" none "p").withParameter "interface" "//Svc").withParameter
    "protocol" "dubbo"

def shown (host : String) (port : UInt16) (parameters : List (String × String)) : Url :=
  ⟨"dubbo", host, some port, "Svc", ⟨parameters⟩⟩

/-- A registry whose source asks a backend. -/
def equipped : World (Bool × List (List Url)) :=
  (World.initial (false, [])).after
    (create (.ofParts "registry" "r" none "") "group" ⟨9⟩ (.backed ⟨5⟩) ⟨3⟩)

def opened : World (Bool × List (List Url)) :=
  equipped.after (subscribe faltering ⟨0⟩ wanted ⟨7⟩).run

/-- The second service has broken down. -/
def breached : World (Bool × List (List Url)) :=
  { opened with client := (true, opened.client.2) }

def wantedWatcher : Watcher := ⟨1, ⟨0⟩, wanted, ["b", "a"], ⟨7⟩⟩

theorem snapshots_of_subscribe_faltering :
    let change : Event := .raise "source" (.membership "a" [])
    isMetadataUrl wanted = false ∧
      (∃ y, Opens faltering ⟨0⟩ wanted ⟨7⟩ (equipped.after (dropSubscription ⟨0⟩ wanted ⟨7⟩))
        (.ok ()) y) ∧
      opened.client.2 = [[shown "h1" 80 [("k", "2"), ("z", "1")], shown "h2" 81 [],
        shown "h1" 80 [("k", "2"), ("z", "1")], shown "h2" 81 []]] ∧
      (∃ y, Opens faltering ⟨0⟩ wanted ⟨8⟩ (breached.after (dropSubscription ⟨0⟩ wanted ⟨8⟩))
        (.error (.failed (.collaborator "a is down"))) y) ∧
      Untouched breached (breached.after (wantedWatcher.refresh faltering change)) ∧
      (breached.after (wantedWatcher.refresh faltering change)).client = breached.client := by
  intro change
  have hgeneral : isMetadataUrl wanted = false := by decide
  obtain ⟨⟨y, hopens, -⟩, hrefreshes⟩ := snapshots_of_subscribe faltering ⟨0⟩ hgeneral ⟨7⟩ equipped
  obtain ⟨⟨y', hopens', -⟩, -⟩ := snapshots_of_subscribe faltering ⟨0⟩ hgeneral ⟨8⟩ breached
  have hresult : equipped.result (subscribe faltering ⟨0⟩ wanted ⟨7⟩).run = .ok () := by
    decide +kernel
  have hresult' : breached.result (subscribe faltering ⟨0⟩ wanted ⟨8⟩).run =
      .error (.failed (.collaborator "a is down")) := by
    decide +kernel
  rw [hresult] at hopens
  rw [hresult'] at hopens'
  have hfails : Fails faltering (.backed ⟨5⟩) breached ["b", "a"] (.collaborator "a is down")
      breached :=
    .intro (show ["b", "a"] = ["b"] ++ "a" :: [] from rfl) (.next ⟨rfl, rfl⟩ (.done _)) ⟨rfl, rfl⟩
  have hkept := (hrefreshes wantedWatcher change breached).2 faltering_asksWithin _ _ _
    ⟨rfl, rfl⟩ hfails
  exact ⟨hgeneral, ⟨y, hopens⟩, by decide +kernel, ⟨y', hopens'⟩, hkept, by decide +kernel⟩

end Faltering

end Registry

end ServiceDirectory
