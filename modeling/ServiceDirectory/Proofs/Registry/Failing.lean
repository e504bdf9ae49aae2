import ServiceDirectory.Proofs.Registry.Reaching

/-!
# Subscriptions that fail

A call that subscribes ends what the sink has had before it tries anything that can stop it, and
nothing brings that back.  A watcher that the call has made is taken off the lists again when the
call fails, but not when it panics.  So it depends on what the sink has had, and on how the call
stops, whether it leaves everything as it was.
-/

namespace ServiceDirectory.Registry

variable {κ : Type} {id : Ref .registry} {counts : Observer → Bool} {host : Host κ}
  {w w' : World κ} {url : Url} {sink : Ref .sink}

/-! ## What is replaced -/

/-- Whether a record is one that a call for `url` and `sink` replaces. -/
def replaces (url : Url) (sink : Ref .sink) (key : String) (s : Subscription) : Bool :=
  !isMetadataUrl url && decide (key = url.fullString) && decide (s.sink = sink)

/-- The observers that go when the records of a call are replaced: their watchers, at the
leaves. -/
def isReplaced (w : World κ) (id : Ref .registry) (url : Url) (sink : Ref .sink)
    (n : Ref .notifier) (service : String) (o : Observer) : Bool :=
  decide (n ∈ (w.registry id).discovery.notifiers w) &&
    ((w.registry id).subscriptions.get url.fullString).any fun s =>
      replaces url sink url.fullString s && decide (o = .watcher s.watcher) &&
        decide (service ∈ s.services)

theorem get_dropped (hurl : isMetadataUrl url = false) (key : String) :
    ((w.after (dropSubscription id url sink)).registry id).subscriptions.get key =
      ((w.registry id).subscriptions.get key).filter fun s => !replaces url sink key s := by
  rw [registry_after_dropSubscription, SubscriptionTable.get_take]
  split
  · rename_i h
    simp [replaces, hurl, h]
  · rename_i h
    simp [replaces, Ne.symm h, List.filter_eq_self.2]

theorem observersAt_dropped (hurl : isMetadataUrl url = false) (n : Ref .notifier)
    (service : String) :
    (w.after (dropSubscription id url sink)).observersAt n service =
      (w.observersAt n service).filter fun o => !isReplaced w id url sink n service o := by
  rw [(dropSubscription_removal id url sink w).observers]
  show (if n ∈ _ then (w.observersAt n service).filter _ else w.observersAt n service) = _
  split
  · rename_i hn
    apply List.filter_congr
    intro o _
    have hgone : decide (∃ s ∈ ((w.registry id).subscriptions.take url.fullString sink).1,
        o = .watcher s.watcher ∧ service ∈ s.services) = isReplaced w id url sink n service o := by
      rw [isReplaced, decide_eq_true hn, Bool.true_and, Bool.eq_iff_iff, decide_eq_true_iff,
        List.any_eq_true]
      simp [replaces, hurl, and_assoc]
    rw [hgone]
  · rename_i hn
    simp [isReplaced, hn, List.filter_eq_self.2]

/-- Of a sink without a record for the URL, no record is replaced. -/
theorem replaces_eq_false {table : SubscriptionTable}
    (hnew : ∀ s ∈ table.get url.fullString, s.sink ≠ sink) {key : String} {s : Subscription}
    (hs : s ∈ table.get key) : replaces url sink key s = false := by
  by_cases hkey : key = url.fullString
  · subst hkey
    simp [replaces, hnew s hs]
  · simp [replaces, hkey]

theorem isReplaced_eq_false
    (hnew : ∀ s ∈ (w.registry id).subscriptions.get url.fullString, s.sink ≠ sink)
    (n : Ref .notifier) (service : String) (o : Observer) :
    isReplaced w id url sink n service o = false := by
  rw [isReplaced, Bool.and_eq_false_iff]
  right
  rw [List.any_eq_false]
  intro s hs
  simp [replaces_eq_false hnew hs]

/-! ## Deliveries that stop -/

/-- A delivery that fails leaves all that counts alone. -/
theorem deliverInstances_failed (hhost : host.KeepsTo (Aside id counts))
    (hcounts : ∀ watcher : Watcher, watcher.registry = id → counts (.watcher watcher) = true)
    (hgiven : SerialsGivenOut id w) {cause : Failure}
    (hfailed : w.result (deliverInstances host id url sink).run = .error (.failed cause)) :
    Aside id counts w (w.after (deliverInstances host id url sink).run) := by
  rcases deliverInstances_cases host id url sink w with
    ⟨stop, hcollect, hresult, hfinal⟩ |
      ⟨watcher, urls, -, ⟨payload, -, hresult, -⟩ | ⟨-, hresult, -⟩⟩
  · obtain rfl : stop = .failed cause := by
      rw [hresult] at hfailed
      injection hfailed
    rw [hfinal]
    exact watchAndCollect_failed hhost hcounts hgiven hcollect
  · rw [hresult] at hfailed
    cases hfailed
  · rw [hresult] at hfailed
    cases hfailed

/-- A delivery that panics leaves the watcher of the call on lists: on all its lists when the sink
has panicked, and on one at least when a backend has. -/
theorem deliverInstances_panicked (hhost : host.KeepsTo (Aside id counts))
    (hcounts : ∀ watcher : Watcher, watcher.registry = id → counts (.watcher watcher) = true)
    {payload : Payload}
    (hpanicked : w.result (deliverInstances host id url sink).run = .error (.panicked payload)) :
    ∃ watcher,
      Made host id counts url sink watcher w
        (w.after (deliverInstances host id url sink).run) ∧
      ((∀ n ∈ (w.registry id).discovery.notifiers w, ∀ service ∈ watcher.services,
          .watcher watcher ∈
            (w.after (deliverInstances host id url sink).run).observersAt n service) ∨
        host.WatchPanics payload ∧
          ∃ n ∈ (w.registry id).discovery.notifiers w, ∃ service ∈ watcher.services,
            .watcher watcher ∈
              (w.after (deliverInstances host id url sink).run).observersAt n service) := by
  rcases deliverInstances_cases host id url sink w with
    ⟨stop, hcollect, hresult, hfinal⟩ |
      ⟨watcher, urls, hcollect, ⟨payload', -, hresult, hfinal⟩ | ⟨-, hresult, -⟩⟩
  · obtain rfl : stop = .panicked payload := by
      rw [hresult] at hpanicked
      injection hpanicked
    obtain ⟨⟨watcher, hmade, hplaced⟩, hbackend⟩ :=
      watchAndCollect_panicked hhost hcounts hcollect
    rw [hfinal]
    exact ⟨watcher, hmade, Or.inr ⟨hbackend, hplaced⟩⟩
  · have hplace := watchAndCollect_ok hhost hcounts hcollect
    have htold := (Aside.note _ _).trans (hhost.deliver ⟨url, sink, urls, watcher⟩
      ((w.after (watchAndCollect host id url sink).run).note
        (.instancesDelivered url.fullString watcher.services urls.length)))
    have hleft := hplace.aside htold (hcounts watcher hplace.registry)
    rw [hfinal]
    exact ⟨watcher, hleft.toMade, Or.inl hleft.everywhere⟩
  · rw [hresult] at hpanicked
    cases hpanicked

/-! ## Calls that stop -/

/-- What a call that panics leaves on the lists: a watcher that it has made, which is on no record
and is the only observer to have come. -/
structure Stranded (host : Host κ) (id : Ref .registry) (counts : Observer → Bool) (url : Url)
    (sink : Ref .sink) (payload : Payload) (watcher : Watcher) (w w' : World κ) : Prop where
  about : watcher.registry = id ∧ watcher.subscribed = url ∧ watcher.sink = sink
  fresh : w.next ≤ watcher.serial
  services : (w.after (dropSubscription id url sink)).result
    (serviceNames host id url.serviceInterface).run = .ok watcher.services
  others : ∀ n service,
    (w'.observersAt n service).filter (fun o => counts o && o ≠ .watcher watcher) =
      ((w.observersAt n service).filter counts).filter fun o =>
        !isReplaced w id url sink n service o
  only : ∀ n service, .watcher watcher ∈ w'.observersAt n service →
    n ∈ (w.registry id).discovery.notifiers w ∧ service ∈ watcher.services
  somewhere : (w.registry id).discovery.notifiers w ≠ [] → watcher.services ≠ [] →
    ∃ n service, .watcher watcher ∈ w'.observersAt n service
  /-- A panic that is not a backend's is the sink's. -/
  everywhere : ¬host.WatchPanics payload →
    ∀ n ∈ (w.registry id).discovery.notifiers w, ∀ service ∈ watcher.services,
      .watcher watcher ∈ w'.observersAt n service

/-- What a call that stops leaves: the subscribed URLs as they were and the table without the
records that it replaces.  The lists have lost the watchers of these records and, after a panic,
have got one that the call has made. -/
structure Aftermath (host : Host κ) (id : Ref .registry) (counts : Observer → Bool) (url : Url)
    (sink : Ref .sink) (stop : Stop) (w w' : World κ) : Prop where
  subscribed : (w'.store (w.registry id).metadata).subscribed =
    (w.store (w.registry id).metadata).subscribed
  table : ∀ key, (w'.registry id).subscriptions.get key =
    ((w.registry id).subscriptions.get key).filter fun s => !replaces url sink key s
  metadata : isMetadataUrl url = true → ∀ n service,
    (w'.observersAt n service).filter counts = (w.observersAt n service).filter counts
  failed : ∀ cause, stop = .failed cause → ∀ n service,
    (w'.observersAt n service).filter counts =
      ((w.observersAt n service).filter counts).filter fun o =>
        !isReplaced w id url sink n service o
  panicked : ∀ payload, stop = .panicked payload → isMetadataUrl url = false →
    ∃ watcher, Stranded host id counts url sink payload watcher w w'

/-- The subscribed URLs, the table and the lists are what they were. -/
structure Unchanged (id : Ref .registry) (counts : Observer → Bool) (w w' : World κ) : Prop where
  subscribed : (w'.store (w.registry id).metadata).subscribed =
    (w.store (w.registry id).metadata).subscribed
  table : ∀ key, (w'.registry id).subscriptions.get key = (w.registry id).subscriptions.get key
  observers : ∀ n service,
    (w'.observersAt n service).filter counts = (w.observersAt n service).filter counts

/-- A call that stops like this loses nothing and leaves nothing behind.  Either it is about the
metadata service, or the sink has no record for the URL and there is no list on which a panic
could leave a watcher. -/
def Harmless (host : Host κ) (id : Ref .registry) (url : Url) (sink : Ref .sink) (stop : Stop)
    (w : World κ) : Prop :=
  isMetadataUrl url = true ∨
    (∀ s ∈ (w.registry id).subscriptions.get url.fullString, s.sink ≠ sink) ∧
      ∀ payload, stop = .panicked payload →
        (w.registry id).discovery.notifiers w = [] ∨
          (w.after (dropSubscription id url sink)).result
            (serviceNames host id url.serviceInterface).run = .ok []

/-- A call about the metadata service replaces nothing and makes no watcher. -/
theorem aftermath_answer_metadata (hhost : host.KeepsTo (Aside id counts))
    (hrecords : host.KeepsTo (RecordsKept id)) (hurl : isMetadataUrl url = true) (stop : Stop) :
    Aftermath host id counts url sink stop w (w.after (answer host id url sink).run) := by
  have hkept := RecordsKept.disregardsWatching (κ := κ) id
  have hrecordsKept := deliverMetadata_keepsTo hrecords hkept.refl hkept.trans hkept.note
    id url sink w
  have haside := deliverMetadata_keepsTo hhost Aside.refl Aside.trans Aside.note id url sink w
  rw [answer_metadata hurl]
  refine ⟨hrecordsKept.subscribed, fun key => ?_, fun _ => haside.observers, ?_, ?_⟩
  · rw [hrecordsKept.registry]
    simp [replaces, hurl, List.filter_eq_self.2]
  · intro _ _ n service
    rw [haside.observers]
    simp [isReplaced, replaces, hurl, List.filter_eq_self.2]
  · intro _ _ hother
    rw [hurl] at hother
    cases hother

/-- The watcher that is left behind is one that the call has made when the records to be replaced
had gone. -/
theorem stranded_of_panicked (hhost : host.KeepsTo (Aside id counts))
    (hcounts : ∀ watcher : Watcher, watcher.registry = id → counts (.watcher watcher) = true)
    (hgiven : SerialsGivenOut id w) (hurl : isMetadataUrl url = false) {payload : Payload}
    (hpanicked : (w.after (dropSubscription id url sink)).result
      (deliverInstances host id url sink).run = .error (.panicked payload)) :
    ∃ watcher, Stranded host id counts url sink payload watcher w
      ((w.after (dropSubscription id url sink)).after (deliverInstances host id url sink).run) := by
  obtain ⟨watcher, hmade, hplaces⟩ := deliverInstances_panicked hhost hcounts hpanicked
  have hfresh := hmade.fresh
  rw [next_after_dropSubscription] at hfresh
  -- Its number is fresh, so the watcher is none of those that were on the lists before.
  have habsent : ∀ n service, .watcher watcher ∉ w.observersAt n service := by
    intro n service hmem
    exact Nat.not_lt.2 hfresh (hgiven n service watcher hmade.registry hmem)
  have honly := hmade.varies.only
  rw [leaves_after_dropSubscription] at hplaces
  simp only [leaves_after_dropSubscription, observersAt_dropped hurl, List.mem_filter] at honly
  refine ⟨watcher, ⟨hmade.registry, hmade.subscribed, hmade.sink⟩, hfresh, hmade.services,
    ?_, ?_, ?_, ?_⟩
  · intro n service
    rw [hmade.varies.rest.observers, observersAt_dropped hurl, List.filter_filter,
      List.filter_filter]
    apply List.filter_congr
    intro o ho
    have hother : o ≠ .watcher watcher := fun hsame => habsent n service (hsame ▸ ho)
    simp [hother, Bool.and_comm]
  · intro n service hmem
    exact (honly n service hmem).resolve_left fun hbefore => habsent n service hbefore.1
  · intro hleaves hservices
    rcases hplaces with hall | ⟨-, n, -, service, -, hmem⟩
    · obtain ⟨n, hn⟩ := List.exists_mem_of_ne_nil _ hleaves
      obtain ⟨service, hservice⟩ := List.exists_mem_of_ne_nil _ hservices
      exact ⟨n, service, hall n hn service hservice⟩
    · exact ⟨n, service, hmem⟩
  · intro hbackends
    exact hplaces.resolve_right fun hbackend => hbackends hbackend.1

/-- Any other call drops what the sink has had, and its delivery leaves the rest alone. -/
theorem aftermath_answer_instances (hhost : host.KeepsTo (Aside id counts))
    (hrecords : host.KeepsTo (RecordsKept id))
    (hcounts : ∀ watcher : Watcher, watcher.registry = id → counts (.watcher watcher) = true)
    (hgiven : SerialsGivenOut id w) (hurl : isMetadataUrl url = false) {stop : Stop}
    (hstop : w.result (answer host id url sink).run = .error stop) :
    Aftermath host id counts url sink stop w (w.after (answer host id url sink).run) := by
  rw [result_answer_instances hurl] at hstop
  rw [after_answer_instances hurl]
  have hkept : RecordsKept id (w.after (dropSubscription id url sink))
      ((w.after (dropSubscription id url sink)).after (deliverInstances host id url sink).run) := by
    rcases deliverInstances_records hrecords url sink (w.after (dropSubscription id url sink)) with
      ⟨_, -, hkept⟩ | ⟨_, _, hok, -⟩
    · exact hkept
    · rw [hok] at hstop
      cases hstop
  refine ⟨?_, fun key => ?_, fun hother => ?_, ?_, ?_⟩
  · have hsubscribed := hkept.subscribed
    rwa [registry_after_dropSubscription, store_after_dropSubscription] at hsubscribed
  · rw [hkept.registry]
    exact get_dropped hurl key
  · rw [hurl] at hother
    cases hother
  · rintro cause rfl n service
    have haside := deliverInstances_failed hhost hcounts (hgiven.dropSubscription url sink) hstop
    rw [haside.observers, observersAt_dropped hurl, List.filter_filter, List.filter_filter]
    simp only [Bool.and_comm]
  · rintro payload rfl -
    exact stranded_of_panicked hhost hcounts hgiven hurl hstop

/-- A call that subscribes stops only where its answer stops, before it records anything. -/
theorem answer_error_of_subscribe {stop : Stop}
    (hstop : w.result (subscribe host id url sink).run = .error stop) :
    w.result (answer host id url sink).run = .error stop ∧
      w.after (subscribe host id url sink).run = w.after (answer host id url sink).run := by
  rcases subscribe_cases host id url sink w with ⟨stop', hanswer, hresult, hfinal⟩ |
    ⟨-, hresult, -⟩
  · rw [hresult] at hstop
    injection hstop with hstop
    exact ⟨hstop ▸ hanswer, hfinal⟩
  · rw [hresult] at hstop
    cases hstop

theorem aftermath_subscribe (hhost : host.KeepsTo (Aside id counts))
    (hrecords : host.KeepsTo (RecordsKept id))
    (hcounts : ∀ watcher : Watcher, watcher.registry = id → counts (.watcher watcher) = true)
    (hgiven : SerialsGivenOut id w) {stop : Stop}
    (hstop : w.result (subscribe host id url sink).run = .error stop) :
    Aftermath host id counts url sink stop w (w.after (subscribe host id url sink).run) := by
  obtain ⟨hanswer, hfinal⟩ := answer_error_of_subscribe hstop
  rw [hfinal]
  cases hurl : isMetadataUrl url with
  | true => exact aftermath_answer_metadata hhost hrecords hurl stop
  | false => exact aftermath_answer_instances hhost hrecords hcounts hgiven hurl hanswer

/-! ## When nothing has changed -/

namespace Aftermath

variable {stop : Stop}

/-- Where the table has lost nothing, the sink had no record for the URL. -/
theorem new_of_unchanged (h : Aftermath host id counts url sink stop w w')
    (hunchanged : Unchanged id counts w w') (hurl : isMetadataUrl url = false) :
    ∀ s ∈ (w.registry id).subscriptions.get url.fullString, s.sink ≠ sink := by
  have hkept := (h.table url.fullString).symm.trans (hunchanged.table url.fullString)
  rw [List.filter_eq_self] at hkept
  intro s hs hsink
  simpa [replaces, hurl, hsink] using hkept s hs

/-- Where the lists are the same, no watcher has been left on them. -/
theorem nowhere_of_unchanged (h : Aftermath host id counts url sink stop w w')
    (hunchanged : Unchanged id counts w w')
    (hcounts : ∀ watcher : Watcher, watcher.registry = id → counts (.watcher watcher) = true)
    (hgiven : SerialsGivenOut id w) (hurl : isMetadataUrl url = false) {payload : Payload}
    (hstop : stop = .panicked payload) :
    (w.registry id).discovery.notifiers w = [] ∨
      (w.after (dropSubscription id url sink)).result
        (serviceNames host id url.serviceInterface).run = .ok [] := by
  obtain ⟨watcher, hstranded⟩ := h.panicked payload hstop hurl
  by_contra hsome
  obtain ⟨hleaves, hresolved⟩ := not_or.1 hsome
  obtain ⟨n, service, hmem⟩ := hstranded.somewhere hleaves fun hnone =>
    hresolved (hnone ▸ hstranded.services)
  have hcount := hcounts watcher hstranded.about.1
  have hbefore : .watcher watcher ∈ (w.observersAt n service).filter counts := by
    rw [← hunchanged.observers]
    exact List.mem_filter.2 ⟨hmem, hcount⟩
  exact Nat.not_lt.2 hstranded.fresh
    (hgiven n service watcher hstranded.about.1 (List.mem_filter.1 hbefore).1)

/-- Where nothing is replaced and there is no list for a watcher to be left on, nothing has
changed. -/
theorem unchanged_of_new (h : Aftermath host id counts url sink stop w w')
    (hurl : isMetadataUrl url = false)
    (hnew : ∀ s ∈ (w.registry id).subscriptions.get url.fullString, s.sink ≠ sink)
    (hnowhere : ∀ payload, stop = .panicked payload →
      (w.registry id).discovery.notifiers w = [] ∨
        (w.after (dropSubscription id url sink)).result
          (serviceNames host id url.serviceInterface).run = .ok []) :
    Unchanged id counts w w' := by
  refine ⟨h.subscribed, fun key => ?_, fun n service => ?_⟩
  · rw [h.table, List.filter_eq_self]
    intro s hs
    rw [replaces_eq_false hnew hs]
    rfl
  -- After a failure the lists are known; after a panic they are but for one watcher, which is on
  -- no list here.
  have hstays : ∀ l : List Observer,
      (l.filter fun o => !isReplaced w id url sink n service o) = l := by
    simp [isReplaced_eq_false hnew]
  cases stop with
  | failed cause => rw [h.failed cause rfl, hstays]
  | panicked payload =>
    obtain ⟨watcher, hstranded⟩ := h.panicked payload rfl hurl
    have habsent : .watcher watcher ∉ w'.observersAt n service := by
      intro hmem
      obtain ⟨hn, hservice⟩ := hstranded.only n service hmem
      rcases hnowhere payload rfl with hleaves | hresolved
      · rw [hleaves] at hn
        cases hn
      · rw [hstranded.services] at hresolved
        injection hresolved with hservices
        rw [hservices] at hservice
        cases hservice
    have hothers := hstranded.others n service
    rw [hstays] at hothers
    rw [← hothers]
    apply List.filter_congr
    intro o ho
    have hother : o ≠ .watcher watcher := fun hsame => habsent (hsame ▸ ho)
    simp [hother]

/-- A call that stops has changed nothing just when it is harmless. -/
theorem unchanged_iff (h : Aftermath host id counts url sink stop w w')
    (hcounts : ∀ watcher : Watcher, watcher.registry = id → counts (.watcher watcher) = true)
    (hgiven : SerialsGivenOut id w) :
    Unchanged id counts w w' ↔ Harmless host id url sink stop w := by
  rw [Harmless]
  cases hurl : isMetadataUrl url with
  | true =>
    refine iff_of_true ⟨h.subscribed, fun key => ?_, h.metadata hurl⟩ (Or.inl rfl)
    rw [h.table]
    simp [replaces, hurl]
  | false =>
    rw [or_iff_right (by decide)]
    constructor
    · intro hunchanged
      exact ⟨h.new_of_unchanged hunchanged hurl, fun payload hstop =>
        h.nowhere_of_unchanged hunchanged hcounts hgiven hurl hstop⟩
    · rintro ⟨hnew, hnowhere⟩
      exact h.unchanged_of_new hurl hnew hnowhere

end Aftermath

/-- Whatever the registry has been through, a call that subscribes and does not complete leaves
this behind, while its collaborators leave alone what is asked about.  The subscribed URLs, the
table and the lists are all what they were just when the call is harmless. -/
theorem subscribe_error (hhost : host.KeepsTo (Aside id counts))
    (hrecords : host.KeepsTo (RecordsKept id))
    (hcounts : ∀ watcher : Watcher, watcher.registry = id → counts (.watcher watcher) = true)
    {start : World κ} (hstart : Unused id start) (hruns : Runs id start w) {stop : Stop}
    (hstop : w.result (subscribe host id url sink).run = .error stop) :
    let w' := w.after (subscribe host id url sink).run
    Aftermath host id counts url sink stop w w' ∧
      (Unchanged id counts w w' ↔ Harmless host id url sink stop w) := by
  intro w'
  have hgiven := hruns.serialsGivenOut hstart
  have haftermath : Aftermath host id counts url sink stop w w' :=
    aftermath_subscribe hhost hrecords hcounts hgiven hstop
  exact ⟨haftermath, haftermath.unchanged_iff hcounts hgiven⟩

/-! ## Subscriptions that are lost, and watchers that are left

The configuration of these collaborators answers until it breaks. -/

/-- Quiet collaborators whose configuration is up while the client's state says so. -/
def breaking : Host Bool :=
  { Host.quiet with
    lookup := fun _ key _ => do
      return if (← get).client then .ok (some key) else .error (.collaborator "config down") }

theorem breaking_keepsTo {R : World Bool → World Bool → Prop} (hrefl : ∀ w, R w w) :
    breaking.KeepsTo R :=
  ⟨fun _ _ _ w => hrefl w, fun _ _ _ w => hrefl w, fun _ _ w => hrefl w, fun _ w => hrefl w⟩

theorem breaking_actsWithin {R : World Bool → World Bool → Prop} (hrefl : ∀ w, R w w) :
    breaking.ActsWithin R where
  onEvent _ _ := hrefl
  deliver _ := hrefl
  handOff _ _ := hrefl
  instances _ _ := hrefl
  enter _ := hrefl
  leave _ := hrefl
  command _ _ := hrefl
  services _ := hrefl
  watch _ _ _ := hrefl
  lookup _ _ _ := hrefl

/-- The same collaborators, but a sink that is told subscribes once more. -/
def eager : Host Bool :=
  { breaking with
    deliver := fun delivery => do
      discard (subscribe breaking ⟨0⟩ delivery.subscribed delivery.sink).run
      return none }

/-- The same collaborators, but the sinks panic. -/
def startled : Host Bool := { breaking with deliver := fun _ => pure (some (.text "boom")) }

/-- One sink has subscribed; then the configuration has broken. -/
def broken (host : Host Bool) : World Bool :=
  { (ready true).after (subscribe host ⟨0⟩ (.ofParts "consumer" "h" none "a") ⟨7⟩).run with
    client := false }

theorem breaking_orderly :
    Nesting.Orderly (Move (κ := Bool) ⟨0⟩) (fun M host => host.ActsWithin M) 0 breaking :=
  breaking_actsWithin fun _ => .refl

theorem eager_orderly :
    Nesting.Orderly (Move (κ := Bool) ⟨0⟩) (fun M host => host.ActsWithin M) 1 eager where
  toReactsWithin := {
    (breaking_actsWithin fun _ => Relation.ReflTransGen.refl).toReactsWithin with
    deliver delivery w := .single (.subscribe breaking_orderly ⟨0⟩ _ delivery.sink w) }
  command _ _ _ := .refl
  services _ _ := .refl
  watch _ _ _ _ := .refl
  lookup _ _ _ _ := .refl

theorem broken_runs {host : Host Bool} {depth : Nat}
    (hhost : Nesting.Orderly (Move ⟨0⟩) (fun M host => host.ActsWithin M) depth host) :
    Runs ⟨0⟩ (ready true) (broken host) :=
  .tail (.single (.subscribe ⟨depth, hhost⟩ ⟨0⟩ _ ⟨7⟩ _))
    (.elsewhere ⟨Nat.le_refl _, fun _ _ _ _ hmem => hmem⟩)

/-- A sink that subscribes from within its first delivery comes to have two records.  When the
configuration has broken, the failing call of another sink leaves everything as it was. -/
theorem subscribe_error_of_new_sink :
    let url : Url := .ofParts "consumer" "h" none "a"
    subscriptionCount (broken eager) ⟨0⟩ url = 2 ∧
      (broken eager).result (subscribe breaking ⟨0⟩ url ⟨8⟩).run =
        .error (.failed (.collaborator "config down")) ∧
      Unchanged ⟨0⟩ (fun _ => true) (broken eager)
        ((broken eager).after (subscribe breaking ⟨0⟩ url ⟨8⟩).run) := by
  intro url
  have hstop : (broken eager).result (subscribe breaking ⟨0⟩ url ⟨8⟩).run =
      .error (.failed (.collaborator "config down")) := by decide
  have hhost : breaking.KeepsTo (Aside ⟨0⟩ fun _ => true) := breaking_keepsTo Aside.refl
  have herror := subscribe_error hhost
    (breaking_keepsTo (RecordsKept.disregardsWatching ⟨0⟩).refl) (fun _ _ => rfl)
    (ready_unused true) (broken_runs eager_orderly) hstop
  exact ⟨by decide, hstop, herror.2.2 (Or.inr ⟨by decide, fun _ hother => nomatch hother⟩)⟩

/-- A failed call ends the subscription that the sink had: its record and its watcher are gone,
while the URL is still among the subscribed ones.  And a sink that panics when it is told for the
first time leaves a watcher behind that is on no record. -/
theorem subscribe_error_of_known_sink :
    let url : Url := .ofParts "consumer" "h" none "a"
    let lost := (broken breaking).after (subscribe breaking ⟨0⟩ url ⟨7⟩).run
    let left := (ready true).after (subscribe startled ⟨0⟩ url ⟨7⟩).run
    (Runs ⟨0⟩ (ready true) (broken breaking) ∧
      (broken breaking).result (subscribe breaking ⟨0⟩ url ⟨7⟩).run =
        .error (.failed (.collaborator "config down")) ∧
      (subscriptionCount (broken breaking) ⟨0⟩ url = 1 ∧ subscriptionCount lost ⟨0⟩ url = 0) ∧
      (((broken breaking).observersAt ⟨0⟩ "a").length = 1 ∧ lost.observersAt ⟨0⟩ "a" = []) ∧
      (lost.store ⟨1⟩).subscribedUrls = [url.fullString] ∧
      ¬Unchanged ⟨0⟩ (fun _ => true) (broken breaking) lost) ∧
    ((ready true).result (subscribe startled ⟨0⟩ url ⟨7⟩).run =
        .error (.panicked (.text "boom")) ∧
      subscriptionCount left ⟨0⟩ url = 0 ∧
      ((ready true).observersAt ⟨0⟩ "a" = [] ∧ (left.observersAt ⟨0⟩ "a").length = 1) ∧
      ¬Unchanged ⟨0⟩ (fun _ => true) (ready true) left) := by
  intro url lost left
  refine ⟨⟨broken_runs breaking_orderly, by decide, by decide, by decide, by decide,
    fun hunchanged => ?_⟩, by decide, by decide, by decide, fun hunchanged => ?_⟩
  · have hkept := congrArg List.length (hunchanged.table url.fullString)
    revert hkept
    decide
  · have hkept := congrArg List.length (hunchanged.observers ⟨0⟩ "a")
    revert hkept
    decide

end ServiceDirectory.Registry
