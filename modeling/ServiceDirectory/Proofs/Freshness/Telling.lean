import ServiceDirectory.Proofs.Freshness.Evolution

/-!
# Telling watchers

A watcher that is told of a change does not use what the event carries.  It asks the source
again, and so the delivery that it starts is current, whatever happened since the event was
raised.  What the sink does within the delivery is one more run of steps.

A notifier tells one observer after the other, and each may set off further changes.  A
watcher that has been told stays settled while the rest of the list is told.
-/

namespace ServiceDirectory

variable {κ : Type}

/-! ## The ways through -/

/-- A watcher delivers what the source answers, unless the source is gone or does not. -/
theorem Watcher.refresh_cases (host : Host κ) (watcher : Watcher) (event : Event) (w : World κ) :
    let d := (w.registry watcher.registry).discovery
    let url := watcher.subscribed.fullString
    let v := w.after (host.enter (.discovery d))
    let ask := (instanceUrls host d watcher.subscribed watcher.services).run
    let final := w.after (watcher.refresh host event)
    (w.result (host.enter (.discovery d)) = false ∧ final = v) ∨
    (∃ cause, v.result ask = .error cause ∧
      final = ((v.after ask).note (.refreshFailed url cause.message)).after
        (host.leave (.discovery d))) ∨
    (∃ urls, v.result ask = .ok urls ∧
      final = (((v.after ask).note (.subscriptionRefreshed url event.source urls.length)).after
        (host.deliver ⟨watcher.subscribed, watcher.sink, urls, watcher⟩)).after
          (host.leave (.discovery d))) := by
  intro d url v ask final
  have hfinal : final = w.after (watcher.refresh host event) := rfl
  rw [Watcher.refresh, World.after_bind, World.after_get, World.result_get, World.after_bind] at hfinal
  cases hentered : w.result (host.enter (.discovery d)) with
  | false =>
    rw [hentered] at hfinal
    exact Or.inl ⟨rfl, hfinal⟩
  | true =>
    rw [hentered, if_pos rfl, World.after_bind] at hfinal
    refine Or.inr ?_
    cases hasked : v.result ask with
    | error cause =>
      refine Or.inl ⟨cause, rfl, ?_⟩
      rw [hfinal, hasked]
      rfl
    | ok urls =>
      refine Or.inr ⟨urls, rfl, ?_⟩
      rw [hfinal, hasked]
      rfl

/-- Nothing is asked of a source that is gone. -/
theorem Watcher.after_refresh_of_gone {host : Host κ} {watcher : Watcher} {w : World κ}
    (h : w.result (host.enter (.discovery (w.registry watcher.registry).discovery)) = false)
    (event : Event) :
    w.after (watcher.refresh host event) =
      w.after (host.enter (.discovery (w.registry watcher.registry).discovery)) := by
  rw [refresh, World.after_bind, World.after_get, World.result_get, World.after_bind, h]
  rfl

/-- A panic that is contained is logged, and that is all. -/
theorem after_contain (event : Event) (priority : World κ → Int)
    (reaction : Run κ (Option Payload)) (w : World κ) :
    w.after (contain event priority reaction) = w.after reaction ∨
      ∃ notice, w.after (contain event priority reaction) = (w.after reaction).note notice := by
  rw [contain, World.after_bind]
  cases w.result reaction with
  | none => exact Or.inl rfl
  | some payload => exact Or.inr ⟨_, rfl⟩

/-! ## What is started and handed over -/

variable {σ : Type}

theorem World.latest?_starting (w : World (Outside σ)) (delivery : Delivery) (watcher : Watcher) :
    (w.starting delivery).latest? watcher =
      if delivery.watcher = some watcher then some delivery.urls else w.latest? watcher := by
  by_cases h : delivery.watcher = some watcher
  · simp [World.latest?, World.starting, h]
  · simp [World.latest?, World.starting, h]

namespace Site

variable {S : Site}

theorem Still.starting {delivery : Delivery} (w : World (Outside σ))
    (hother : ∀ watcher : Watcher, watcher.registry = S.registry →
      delivery.watcher ≠ some watcher) : S.Still w (w.starting delivery) := by
  refine Still.withClient w rfl (fun _ _ _ h => h) ?_ fun _ h => h
  intro watcher hregistry
  exact (w.latest?_starting delivery watcher).trans (if_neg (hother watcher hregistry))

theorem Still.handing (w : World (Outside σ)) (task : Task) : S.Still w (w.handing task) :=
  Still.withClient w rfl (fun _ _ _ h => h) (fun _ _ => rfl) fun _ h => List.mem_append_left _ h

/-- A delivery that carries what the source lists now settles its watcher. -/
theorem starting_tells (watcher : Watcher) (sink : Ref .sink) (w : World (Outside σ)) :
    S.Tells (· = watcher) w (w.starting ⟨watcher.subscribed, sink,
      S.urls w watcher.subscribed watcher.services, watcher⟩) := by
  intro hsound
  have hsame : ∀ x, S.Same w (w.starting ⟨watcher.subscribed, sink,
      S.urls w watcher.subscribed watcher.services, watcher⟩) x :=
    fun _ => ⟨Iff.rfl, fun _ => Iff.rfl⟩
  have hgrows : S.Grows w (w.starting ⟨watcher.subscribed, sink,
      S.urls w watcher.subscribed watcher.services, watcher⟩) :=
    ⟨Nat.le_refl _, fun _ _ => rfl, fun _ _ _ h => h⟩
  constructor
  · exact hsound.withClient rfl
  · refine hsound.evolves hgrows (fun _ h => h) (fun x _ _ => Or.inr (hsame x)) ?_
    intro x _ _ hsettle
    have hready : S.Ready w x := by
      rcases hsettle with hsettled | ⟨-, hready⟩
      · exact hsettled.ready
      · exact hready
    refine Or.inr ⟨hready.grows hgrows (hsame x).told, ?_⟩
    rw [World.latest?_starting]
    by_cases hx : x = watcher
    · subst hx
      rw [if_pos rfl]
      exact Or.inl rfl
    · have hother : some watcher ≠ some x := fun h => hx (Option.some.inj h).symm
      rw [if_neg hother]
      exact (hsettle.resolve_right fun h => hx h.1).current

/-- A task that is waiting settles the watchers that it will tell. -/
theorem handing_tells (task : Task) (w : World (Outside σ)) :
    S.Tells (fun watcher => ∃ service ∈ watcher.services, S.TellsOf task service) w
      (w.handing task) := by
  intro hsound
  have hstill : S.Still w (w.handing task) := Still.handing w task
  refine ⟨hstill.sound hsound, hsound.evolves hstill.grows (fun _ h => h)
    (fun _ hregistry _ => Or.inr (hstill.same hregistry)) ?_⟩
  rintro watcher hregistry - (hsettled | ⟨htold, hready⟩)
  · exact Or.inr (hstill.settled hregistry hsettled)
  · have hwaiting : task ∈ (w.handing task).client.pending :=
      List.mem_append_right _ (List.mem_singleton.2 rfl)
    exact Or.inr ⟨hready.grows hstill.grows (hstill.same hregistry).told,
      Or.inr ⟨task, hwaiting, htold⟩⟩

theorem contain_tells {told : Watcher → Prop} {event : Event}
    {priority : World (Outside σ) → Int} {reaction : Run (Outside σ) (Option Payload)}
    {w : World (Outside σ)} (h : S.Tells told w (w.after reaction)) :
    S.Tells told w (w.after (contain event priority reaction)) := by
  rcases after_contain event priority reaction w with hfinal | ⟨notice, hfinal⟩
  · rw [hfinal]
    exact h
  · rw [hfinal]
    exact h.trans_leads (Still.note _ notice).leads

section Behaving

variable {host : Host (Outside σ)}

/-! ## Asking the source -/

theorem still_instanceUrls {M : World (Outside σ) → World (Outside σ) → Prop}
    (hhost : S.Behaves M host) (d : Discovery) (url : Url) (services : List String)
    (w : World (Outside σ)) : S.Still w (w.after (instanceUrls host d url services).run) :=
  instanceUrls_keepsTo hhost.instances Still.refl Still.trans d url services w

/-- The source answers with what it lists. -/
theorem result_instances {M : World (Outside σ) → World (Outside σ) → Prop}
    (hhost : S.Behaves M host) {w : World (Outside σ)} (hsound : S.Sound w) (service : String) :
    w.result (S.discovery.instances host service).run = .ok (S.listed w service) := by
  have hnotifier := hsound.notifier
  unfold listed
  cases hd : S.discovery with
  | memory m => rfl
  | backed b => exact hhost.instances_ok (w.source b).backend service w
  | composite c sources =>
    rw [hd] at hnotifier
    cases hnotifier

theorem result_instanceUrls {M : World (Outside σ) → World (Outside σ) → Prop}
    (hhost : S.Behaves M host) (url : Url) (services : List String) {w : World (Outside σ)}
    (hsound : S.Sound w) :
    w.result (instanceUrls host S.discovery url services).run = .ok (S.urls w url services) := by
  induction services generalizing w with
  | nil => rfl
  | cons service rest ih =>
    have hstill : S.Still w (w.after (S.discovery.instances host service).run) :=
      S.discovery.instances_keepsTo hhost.instances Still.refl Still.trans service w
    have hrest := ih (hstill.sound hsound)
    rw [instanceUrls, World.result_bind_of_ok (result_instances hhost hsound service),
      World.result_bind_of_ok hrest, World.result_pure_except, hstill.urls_eq]
    rfl

/-! ## The observers of a service -/

variable (hhost : S.Behaves S.Leads host)

include hhost

/-- A delivery settles its watcher, whatever the sink does, when it carries what the source
lists. -/
theorem deliver_tells (watcher : Watcher) (sink : Ref .sink) {urls : List Url}
    (w : World (Outside σ))
    (hurls : watcher.registry = S.registry →
      urls = S.urls w watcher.subscribed watcher.services) :
    S.Tells (· = watcher) w
      (w.after (host.deliver ⟨watcher.subscribed, sink, urls, watcher⟩)) := by
  have hreaction := hhost.deliver ⟨watcher.subscribed, sink, urls, watcher⟩ w
  by_cases hregistry : watcher.registry = S.registry
  · rw [hurls hregistry] at hreaction ⊢
    exact (starting_tells watcher sink w).trans_leads hreaction
  · have hother : ∀ x : Watcher, x.registry = S.registry → some watcher ≠ some x := by
      intro x hx heq
      rw [Option.some.inj heq] at hregistry
      exact hregistry hx
    have hstill : S.Still w (w.starting ⟨watcher.subscribed, sink, urls, watcher⟩) :=
      Still.starting w hother
    refine (hstill.leads.trans hreaction).mono ?_
    rintro - x hx - rfl
    exact absurd hx hregistry

theorem refresh_tells (watcher : Watcher) (event : Event) (w : World (Outside σ)) :
    S.Tells (· = watcher) w (w.after (watcher.refresh host event)) := by
  have hways := watcher.refresh_cases host event w
  dsimp only at hways
  generalize hd : (w.registry watcher.registry).discovery = d at hways
  have hentered : S.Still w (w.after (host.enter (.discovery d))) := hhost.enter _ w
  have hsource : watcher.registry = S.registry → S.Sound w → d = S.discovery := by
    intro hregistry hsound
    rw [← hd, hregistry]
    exact hsound.discovery
  generalize hv : w.after (host.enter (.discovery d)) = v at hentered hways
  have hasked := still_instanceUrls hhost d watcher.subscribed watcher.services v
  have hanswer : watcher.registry = S.registry → S.Sound w →
      v.result (instanceUrls host d watcher.subscribed watcher.services).run =
        .ok (S.urls (v.after (instanceUrls host d watcher.subscribed watcher.services).run)
          watcher.subscribed watcher.services) := by
    intro hregistry hsound
    rw [hasked.urls_eq, hsource hregistry hsound]
    exact result_instanceUrls hhost _ _ (hentered.sound hsound)
  generalize v.after (instanceUrls host d watcher.subscribed watcher.services).run = u
    at hasked hanswer hways
  have hbefore : S.Still w u := hentered.trans hasked
  rcases hways with ⟨hgone, -⟩ | ⟨cause, hresult, hfinal⟩ | ⟨urls, hresult, hfinal⟩
  · rw [hhost.enter_true] at hgone
    cases hgone
  · rw [hfinal]
    refine ((hbefore.trans (Still.note u _)).trans (hhost.leave _ _)).leads.mono ?_
    rintro hsound x hregistry - rfl
    rw [hanswer hregistry hsound] at hresult
    cases hresult
  · rw [hfinal]
    intro hsound
    have hcurrent : watcher.registry = S.registry →
        urls = S.urls u watcher.subscribed watcher.services := by
      intro hregistry
      rw [hanswer hregistry hsound] at hresult
      exact (Except.ok.inj hresult).symm
    have hdelivered := deliver_tells hhost watcher watcher.sink
      (u.note (.subscriptionRefreshed watcher.subscribed.fullString event.source urls.length))
      hcurrent
    have htold := hdelivered.trans_leads (hhost.leave (.discovery d) _).leads
    exact ((hbefore.trans (Still.note u _)).leads.trans_tells htold) hsound

theorem react_tells (event : Event) (o : Observer) (w : World (Outside σ)) :
    S.Tells (fun watcher => o = .watcher watcher) w (w.after (o.react host event)) := by
  cases o with
  | client listener =>
    refine Tells.mono (hhost.onEvent listener event w) ?_
    rintro - watcher - - ⟨⟩
  | watcher refresher =>
    refine (refresh_tells hhost refresher event w).mono ?_
    rintro - watcher - - ⟨rfl⟩
    rfl

/-- A notifier tells every ready watcher of the service, however the earlier ones react. -/
theorem notify_tells (n : Ref .notifier) (event : Event) (w : World (Outside σ)) :
    S.Tells (fun watcher => n = S.notifier ∧ ∃ service ∈ watcher.services, ∃ instances,
      event.content = .membership service instances) w
      (w.after (Notifier.notify host n event)) := by
  rw [Notifier.notify]
  cases hcontent : event.content with
  | membership service instances =>
    dsimp only
    rw [World.after_bind, World.after_get, World.result_get]
    cases hlist : (w.audience n).list? service with
    | none =>
      refine (Leads.refl w).mono ?_
      rintro - watcher - hready ⟨rfl, service', hservice, instances', ⟨⟩⟩
      have hmem := (hready service hservice).told
      simp [World.observersAt, Audience.observers, hlist] at hmem
    | some observers =>
      dsimp only
      rw [World.after_bind, World.after_note]
      have hone : ∀ o ∈ observers, ∀ v, S.Tells (fun watcher => o = .watcher watcher) v
          (v.after (discard (o.invoke host event))) := by
        intro o _ v
        rw [World.after_discard]
        exact contain_tells (react_tells hhost event o v)
      have htold := Leads.forM observers hone
        (w.note (.changeNotified service observers.length instances.length))
      refine ((Still.note w _).leads.trans_tells htold).mono ?_
      rintro - watcher - hready ⟨rfl, service', hservice, instances', ⟨⟩⟩
      have hmem := (hready service hservice).told
      simp only [World.observersAt, Audience.observers, hlist, Option.getD_some] at hmem
      exact ⟨.watcher watcher, hmem, rfl⟩
  | _ =>
    refine (Leads.refl w).mono ?_
    rintro - watcher - - ⟨-, service, -, instances, ⟨⟩⟩

end Behaving

end Site

end ServiceDirectory
