import ServiceDirectory.Proofs.Registry.Snapshots

/-!
# What a delivered URL names

A delivered URL has the address of its instance and the subscribed interface as its path.  Who
reads its interface gets the subscribed one, as long as the instance does not tell one of its own:
the metadata of an instance become the parameters of its URL, and `interface` is the parameter that
overrides the path.
-/

namespace ServiceDirectory

variable {κ : Type}

/-! ## Reading an instance off its URL -/

/-- Both kinds of maps read a list of entries alike. -/
theorem OrderedMap.lookupIn_eq_lookup (entries : List (String × String)) (k : String) :
    lookupIn entries k = entries.lookup k := by
  induction entries with
  | nil => rfl
  | cons entry rest ih =>
    obtain ⟨k₀, v₀⟩ := entry
    rw [SortedMap.lookup_cons_eq_ite, ← ih]
    rfl

/-- The interface that an instance tells of itself. -/
def Instance.ownInterface (x : Instance) : Option String :=
  (x.metadata.get? Url.interfaceKey).filter (· ≠ "")

theorem Instance.ownInterface_eq_some_iff {x : Instance} {name : String} :
    x.ownInterface = some name ↔ x.metadata.get? Url.interfaceKey = some name ∧ name ≠ "" := by
  simp [ownInterface, Option.filter_eq_some_iff]

theorem Instance.ownInterface_eq_none_iff {x : Instance} :
    x.ownInterface = none ↔ ∀ name, x.metadata.get? Url.interfaceKey = some name → name = "" := by
  simp [ownInterface, Option.filter_eq_none_iff]

/-- The URL names what an instance was asked for, unless the instance tells an interface of its
own, and it leads to the instance. -/
structure Names (subscribed : Url) (x : Instance) (u : Url) : Prop where
  address : u.address = x.address
  path : Url.Unslashed subscribed.serviceInterface.toList u.path.toList
  own : ∀ name, x.metadata.get? Url.interfaceKey = some name → name ≠ "" →
    u.serviceInterface = name
  asked : (∀ name, x.metadata.get? Url.interfaceKey = some name → name = "") →
    Url.Unslashed subscribed.serviceInterface.toList u.serviceInterface.toList

section Portrayed

variable {subscribed u : Url} {x : Instance}

theorem Portrays.parameter_eq (h : Portrays subscribed x u) (key : String) :
    u.parameter? key = x.metadata.get? key := by
  rw [Url.parameter?, OrderedMap.get?, h.parameters, OrderedMap.lookupIn_eq_lookup, SortedMap.get?]

/-- The interface is read where the metadata have been written. -/
theorem Portrays.serviceInterface_eq (h : Portrays subscribed x u) :
    u.serviceInterface = x.ownInterface.getD u.path := by
  rw [Url.serviceInterface, h.parameter_eq, Instance.ownInterface]

theorem Portrays.address_eq (h : Portrays subscribed x u) : u.address = x.address := by
  rw [Url.address, h.host, h.port]
  rfl

theorem Portrays.names (h : Portrays subscribed x u) : Names subscribed x u where
  address := h.address_eq
  path := h.path
  own := fun name htold hne => by
    rw [h.serviceInterface_eq, Instance.ownInterface_eq_some_iff.2 ⟨htold, hne⟩, Option.getD_some]
  asked := fun hsilent => by
    rw [h.serviceInterface_eq, Instance.ownInterface_eq_none_iff.2 hsilent, Option.getD_none]
    exact h.path

end Portrayed

/-! ## Deliveries -/

/-- The sink of a watcher is given a list, and the outcome is that of the sink: the services have
been asked one after the other, and each instance that they listed has its URL. -/
inductive Gives (host : Host κ) (d : Discovery) (watcher : Watcher) (w : World κ) :
    Option Payload → World κ → Prop
  | intro {lists : List (List Instance)} {urls : List Url} {notice : Notice}
    {outcome : Option Payload} {y z : World κ}
    (hanswers : Answers host d w watcher.services lists y)
    (hnames : List.Forall₂ (Names watcher.subscribed) lists.flatten urls)
    (hdeliver : World.Ends (y.note notice)
      (host.deliver ⟨watcher.subscribed, watcher.sink, urls, watcher⟩) outcome z) :
    Gives host d watcher w outcome z

theorem gives_of_answers {host : Host κ} {d : Discovery} {watcher : Watcher} {w y : World κ}
    {lists : List (List Instance)} {urls : List Url}
    (hanswers : Answers host d w watcher.services lists y)
    (hurls : List.Forall₂ (Portrays watcher.subscribed) lists.flatten urls) (notice : Notice) :
    let delivery := host.deliver ⟨watcher.subscribed, watcher.sink, urls, watcher⟩
    Gives host d watcher w ((y.note notice).result delivery) ((y.note notice).after delivery) :=
  .intro hanswers (hurls.imp fun _ _ h => h.names) ⟨rfl, rfl⟩

/-- How a watcher takes a change: it gives no list to its sink, or it gives one. -/
inductive GivesAgain (host : Host κ) (watcher : Watcher) (w : World κ) : World κ → Prop
  | gone {v : World κ}
    (henter : w.Ends (host.enter (.discovery (w.registry watcher.registry).discovery)) false v) :
    GivesAgain host watcher w v
  | unanswered {cause : Failure} {v y : World κ}
    (henter : w.Ends (host.enter (.discovery (w.registry watcher.registry).discovery)) true v)
    (hfails : Fails host (w.registry watcher.registry).discovery v watcher.services cause y) :
    GivesAgain host watcher w
      ((y.note (.refreshFailed watcher.subscribed.fullString cause.message)).after
        (host.leave (.discovery (w.registry watcher.registry).discovery)))
  | given {outcome : Option Payload} {v z : World κ}
    (henter : w.Ends (host.enter (.discovery (w.registry watcher.registry).discovery)) true v)
    (hgives : Gives host (w.registry watcher.registry).discovery watcher v outcome z) :
    GivesAgain host watcher w
      (z.after (host.leave (.discovery (w.registry watcher.registry).discovery)))

theorem givesAgain (host : Host κ) (watcher : Watcher) (event : Event) (w : World κ) :
    GivesAgain host watcher w (w.after (watcher.refresh host event)) := by
  have hrefreshes := refreshes host watcher event w
  generalize w.after (watcher.refresh host event) = final at hrefreshes ⊢
  cases hrefreshes with
  | gone henter => exact .gone henter
  | unanswered henter hfails => exact .unanswered henter hfails
  | delivered henter hanswers hurls => exact .given henter (gives_of_answers hanswers hurls _)

namespace Registry

variable {host : Host κ} {id : Ref .registry} {url : Url} {sink : Ref .sink} {w : World κ}

/-- How a call that subscribes to instances ends: it gives no list to the sink, or it gives one. -/
inductive GivesFirst (host : Host κ) (id : Ref .registry) (url : Url) (sink : Ref .sink)
    (w : World κ) : Except Stop Unit → World κ → Prop
  | stopped {stop : Stop} {y : World κ}
    (hcollect : w.Ends (watchAndCollect host id url sink).run (.error stop) y) :
    GivesFirst host id url sink w (.error stop) y
  | panicked {services : List String} {d : Discovery} {watcher : Watcher} {payload : Payload}
    {x z : World κ} (hwatching : Watching host id url sink w services d watcher x)
    (hgives : Gives host d watcher x (some payload) z) :
    GivesFirst host id url sink w (.error (.panicked payload)) z
  | recorded {services : List String} {d : Discovery} {watcher : Watcher} {x z : World κ}
    (hwatching : Watching host id url sink w services d watcher x)
    (hgives : Gives host d watcher x none z) :
    GivesFirst host id url sink w (.ok ()) (z.after (setSubscriptions id
      ((z.registry id).subscriptions.add url.fullString ⟨sink, watcher⟩)))

/-- What has been collected is what the services list once they are watched. -/
theorem watching_of_collected {watcher : Watcher} {urls : List Url}
    (hcollect : w.result (watchAndCollect host id url sink).run = .ok (watcher, urls)) :
    ∃ d x lists, Watching host id url sink w watcher.services d watcher x ∧
      Answers host d x watcher.services lists (w.after (watchAndCollect host id url sink).run) ∧
      List.Forall₂ (Portrays url) lists.flatten urls := by
  rcases watchAndCollect_ways host id url sink w with
    ⟨cause, -, hstopped, -⟩ | ⟨services, hnames, hways⟩
  · exact absurd (hcollect.symm.trans hstopped) (by simp)
  rcases hways with ⟨stop, -, hstopped, -⟩ | ⟨cause, -, -, hstopped, -⟩ |
    ⟨urls', hwatch, hasked, hdone, hcollected⟩
  · exact absurd (hcollect.symm.trans hstopped) (by simp)
  · exact absurd (hcollect.symm.trans hstopped) (by simp)
  · obtain ⟨rfl, rfl⟩ := Prod.mk.inj (Except.ok.inj (hcollect.symm.trans hdone))
    obtain ⟨lists, hanswers, hurls⟩ := answers_of_result hasked
    rw [← hcollected] at hanswers
    exact ⟨_, _, lists, .intro ⟨hnames, rfl⟩ ⟨hwatch, rfl⟩, hanswers, hurls⟩

theorem Watching.watcher_eq {services : List String} {d : Discovery} {watcher : Watcher}
    {x : World κ} (h : Watching host id url sink w services d watcher x) :
    watcher.subscribed = url ∧ watcher.sink = sink := by
  cases h
  exact ⟨rfl, rfl⟩

theorem givesFirst (host : Host κ) (id : Ref .registry) (url : Url) (sink : Ref .sink)
    (w : World κ) :
    GivesFirst host id url sink w (w.result (deliverInstances host id url sink).run)
      (w.after (deliverInstances host id url sink).run) := by
  rcases deliverInstances_cases host id url sink w with
    ⟨stop, hcollect, hresult, hfinal⟩ | ⟨watcher, urls, hcollect, hways⟩
  · rw [hresult, hfinal]
    exact .stopped ⟨hcollect, rfl⟩
  · obtain ⟨d, x, lists, hwatching, hanswers, hurls⟩ := watching_of_collected hcollect
    obtain ⟨rfl, rfl⟩ := hwatching.watcher_eq
    have hgives := gives_of_answers hanswers hurls
      (.instancesDelivered watcher.subscribed.fullString watcher.services urls.length)
    dsimp only at hways hgives
    rcases hways with ⟨payload, houtcome, hresult, hfinal⟩ | ⟨houtcome, hresult, hfinal⟩
    · rw [houtcome] at hgives
      rw [hresult, hfinal]
      exact .panicked hwatching hgives
    · rw [houtcome] at hgives
      rw [hresult, hfinal]
      exact .recorded hwatching hgives

/-- The lists that are given for a subscription to instances, by the call that subscribes or by a
watcher later, hold URLs that lead to the instances and name what has been subscribed to, unless
an instance tells an interface of its own. -/
theorem names_of_subscribe (host : Host κ) (id : Ref .registry) {url : Url}
    (hurl : isMetadataUrl url = false) (sink : Ref .sink) (w : World κ) :
    let result := w.result (subscribe host id url sink).run
    (∃ y, GivesFirst host id url sink (w.after (dropSubscription id url sink)) result y ∧
      w.after (subscribe host id url sink).run = match result with
        | .error _ => y
        | .ok _ => y.after (MetadataStore.subscribeUrl (y.registry id).metadata url)) ∧
    ∀ (watcher : Watcher) (event : Event) (v : World κ),
      GivesAgain host watcher v (v.after (watcher.refresh host event)) := by
  have hgives := givesFirst host id url sink (w.after (dropSubscription id url sink))
  exact ⟨subscribe_of_deliverInstances hurl hgives, givesAgain host⟩

/-! ## An instance with an interface of its own -/

section Renaming

def renamed : Instance := (Instance.ofAddress "a" "h1" 80).withMetadata "interface" "Other"

/-- The client's state keeps the lists that the sinks have been given. -/
def wayward : Host (List (List Url)) :=
  { Host.quiet with
    lookup := fun _ _ _ => pure (.ok (some "a"))
    instances := fun _ _ => pure (.ok [renamed, .ofAddress "a" "h2" 81])
    deliver := fun delivery => do
      modify fun w => { w with client := w.client ++ [delivery.urls] }
      return none }

def interfaceSought : Url := .ofParts "consumer" "c" none "Svc"

def waywardStart : World (List (List Url)) :=
  (World.initial []).after
    (create (.ofParts "registry" "r" none "") "group" ⟨9⟩ (.backed ⟨5⟩) ⟨3⟩)

theorem wayward_delivers :
    (waywardStart.after (subscribe wayward ⟨0⟩ interfaceSought ⟨7⟩).run).client =
      [[⟨"consumer", "h1", some 80, "Svc", ⟨[("interface", "Other")]⟩⟩,
        ⟨"consumer", "h2", some 81, "Svc", ⟨[]⟩⟩]] := by
  decide +kernel

/-- The first URL that is delivered has another interface than the one subscribed to. -/
theorem exists_delivered_ne_serviceInterface :
    isMetadataUrl interfaceSought = false ∧
      ∃ u urls, (waywardStart.after (subscribe wayward ⟨0⟩ interfaceSought ⟨7⟩).run).client =
          [u :: urls] ∧
        u.address = renamed.address ∧
        ¬ Url.Unslashed interfaceSought.serviceInterface.toList u.serviceInterface.toList := by
  refine ⟨by decide, _, _, wayward_delivers, by decide, fun h => ?_⟩
  have hkept := Url.dropSlashes_eq_iff.2 h
  exact absurd hkept (by decide)

theorem names_of_subscribe_wayward :
    isMetadataUrl interfaceSought = false ∧
      (∃ y, GivesFirst wayward ⟨0⟩ interfaceSought ⟨7⟩
        (waywardStart.after (dropSubscription ⟨0⟩ interfaceSought ⟨7⟩)) (.ok ()) y) ∧
      renamed.ownInterface = some "Other" := by
  have hgeneral : isMetadataUrl interfaceSought = false := by decide
  obtain ⟨⟨y, hgives, -⟩, -⟩ := names_of_subscribe wayward ⟨0⟩ hgeneral ⟨7⟩ waywardStart
  have hresult : waywardStart.result (subscribe wayward ⟨0⟩ interfaceSought ⟨7⟩).run =
      .ok () := by
    decide +kernel
  rw [hresult] at hgives
  exact ⟨hgeneral, ⟨y, hgives⟩, by decide⟩

end Renaming

end Registry

end ServiceDirectory
