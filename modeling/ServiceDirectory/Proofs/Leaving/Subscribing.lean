import ServiceDirectory.Proofs.Leaving.Joining

/-!
# A call that takes a seat

The watcher of the call is busy from the moment it is made until the call ends.  By then it is on
record, or it is on no list, or the call has been torn down.  What has happened meanwhile, at the
backends and in the first delivery, has kept to the books on its own.
-/

namespace ServiceDirectory.Seat

open Registry

variable {σ : Type} {S : Seat}

variable (S) in
/-- A call has made its watcher in `v` and has come to `u` with it. -/
structure Underway (watcher : Watcher) (v u : World (Notebook σ)) : Prop where
  owns : S.Owns watcher
  serial : watcher.serial = v.next
  tends : S.TendsBut (· = watcher)
    (fun n service => n ∈ (v.registry S.registry).discovery.notifiers v ∧
      service ∈ watcher.services)
    { v with next := v.next + 1 } u

variable (S) in
/-- How a call for the seat that has made its watcher ends. -/
structure Ends (watcher : Watcher) (result : Except Stop Unit) (v u w : World (Notebook σ)) :
    Prop where
  discovery : (w.registry S.registry).discovery = (u.registry S.registry).discovery
  wiring : Discovery.notifier? w = Discovery.notifier? u
  next_le : u.next ≤ w.next
  unlisted : S.Unlisted u → S.Unlisted w
  calls : w.client.calls = u.client.calls
  watched : ∀ x n service, .watcher x ∈ w.observersAt n service →
    .watcher x ∈ u.observersAt n service
  /-- When the call completes, it has put in its record. -/
  records : S.records w =
    S.records u ++ if result = .ok () then [⟨S.sink, watcher⟩] else []
  /-- When the call fails, its watcher is on no list. -/
  unwatched : ∀ cause, result = .error (.failed cause) →
    (∀ n service, .watcher watcher ∉ v.observersAt n service) →
      ∀ n service, .watcher watcher ∉ w.observersAt n service

namespace Underway

variable {watcher : Watcher} {v u u' w : World (Notebook σ)}

theorem and_then (h : S.Underway watcher v u) (h' : S.Tends u u') : S.Underway watcher v u' :=
  ⟨h.owns, h.serial, h.tends.trans h'.but⟩

/-- The watcher is on no lists but those it has been made for. -/
theorem only (h : S.Underway watcher v u)
    (hfresh : ∀ n service, .watcher watcher ∉ v.observersAt n service) {n : Ref .notifier}
    {service : String} (hmem : .watcher watcher ∈ u.observersAt n service) :
    n ∈ (v.registry S.registry).discovery.notifiers u ∧ service ∈ watcher.services := by
  have hserial : watcher.serial < v.next + 1 := by
    rw [h.serial]
    exact Nat.lt_succ_self _
  rcases h.tends.placed watcher h.owns hserial n service hmem with hbefore | ⟨-, hplace⟩
  · exact absurd hbefore (hfresh n service)
  · rw [Discovery.notifiers_congr h.tends.wiring]
    exact hplace

theorem unwatch (h : S.Underway watcher v u) (d : Discovery) (services : List String) :
    S.Underway watcher v (u.after (Registry.unwatch d services watcher)) :=
  ⟨h.owns, h.serial, h.tends.trans ((TendsBut.tolerates watcher _).unwatch d services u)⟩

/-- A call that is not torn down puts its watcher on record or takes it off all lists, so the
watcher is an exception no longer. -/
theorem kempt (h : S.Underway watcher v u) {result : Except Stop Unit}
    (hends : S.Ends watcher result v u w)
    (hwhole : ∀ payload, result ≠ .error (.panicked payload))
    (hfresh : ∀ n service, .watcher watcher ∉ v.observersAt n service) {except : Watcher → Prop}
    (hu : S.Kempt (fun x => except x ∨ x = watcher) u) : S.Kempt except w := by
  refine ⟨fun x hx n service hmem => ?_, fun x hx n service hmem => ?_⟩
  · exact Nat.lt_of_lt_of_le (hu.given x hx n service (hends.watched x n service hmem))
      hends.next_le
  have hmemu := hends.watched x n service hmem
  rcases hu.due x hx n service hmemu with (hexcept | rfl) | hdue
  · exact Or.inl hexcept
  · -- The busy watcher is on record, or nowhere.
    obtain ⟨hn, hservice⟩ := h.only hfresh hmemu
    cases result with
    | ok _ =>
      refine Or.inr ⟨?_, hservice, ⟨S.sink, x⟩, ?_, rfl⟩
      · show n ∈ Discovery.notifiers w (w.registry S.registry).discovery
        rw [hends.discovery, h.tends.discovery, Discovery.notifiers_congr hends.wiring]
        exact hn
      · show _ ∈ S.records w
        rw [hends.records]
        simp
    | error stop =>
      cases stop with
      | failed cause => exact absurd hmem (hends.unwatched cause rfl hfresh n service)
      | panicked payload => exact absurd rfl (hwhole payload)
  · refine Or.inr (hdue.mono hends.discovery hends.wiring fun s hs => ?_)
    show s ∈ S.records w
    rw [hends.records]
    exact List.mem_append_left _ hs

/-- Whether the watcher is on record by now or on no list, the books are kept; and when the call
has been torn down, that is in the books too. -/
theorem close (h : S.Underway watcher v u) {result : Except Stop Unit}
    (hends : S.Ends watcher result v u w) : S.Tends v (w.jotting (.closed result)) where
  discovery := hends.discovery.trans h.tends.discovery
  wiring := hends.wiring.trans h.tends.wiring
  next_le := Nat.le_trans (Nat.le_of_succ_le h.tends.next_le) hends.next_le
  unlisted hv := hends.unlisted (h.tends.unlisted hv)
  calls := by
    show _ <:+ Entry.closed result :: w.client.calls
    rw [hends.calls]
    exact h.tends.calls.trans (List.suffix_cons _ _)
  counted base hv := by
    have hu := h.tends.counted base hv
    show (S.records w).length = completed base (.closed result :: w.client.calls)
    rw [hends.records, hends.calls]
    cases result with
    | error stop => simpa [completed] using hu
    | ok _ => simpa [completed] using hu
  placed x hx hserial n service hmem := by
    have hother : x ≠ watcher := by
      rintro rfl
      exact Nat.ne_of_lt hserial h.serial
    rcases h.tends.placed x hx (Nat.lt_succ_of_lt hserial) n service
        (hends.watched x n service hmem) with hbefore | ⟨hsame, -⟩
    · exact Or.inl hbefore
    · exact absurd hsame hother
  kempt htorn except _ hserial hv := by
    have htorn' : torn (.closed result :: u.client.calls) = torn v.client.calls := by
      rw [← hends.calls]
      exact htorn
    have hgrown : torn v.client.calls ≤ torn u.client.calls := torn_le_of_suffix h.tends.calls
    have hstays : torn u.client.calls ≤ torn (.closed result :: u.client.calls) :=
      torn_le_of_suffix (List.suffix_cons _ _)
    have hwhole : ∀ payload, result ≠ .error (.panicked payload) := by
      rintro payload rfl
      have hmore : torn (.closed (.error (.panicked payload)) :: u.client.calls) =
          torn u.client.calls + 1 := List.countP_cons_of_pos rfl
      omega
    have hu : S.Kempt (fun x => except x ∨ x = watcher) u := by
      refine h.tends.kempt (by show torn _ = torn v.client.calls; omega) _ (fun x => Or.inr) ?_
        ⟨fun x hx n service hmem => Nat.lt_succ_of_lt (hv.given x hx n service hmem),
          fun x hx n service hmem => (hv.due x hx n service hmem).imp_left Or.inl⟩
      rintro x (hx | rfl)
      · exact Nat.lt_succ_of_lt (hserial x hx)
      · exact Nat.lt_succ_of_le (Nat.le_of_eq h.serial)
    have hfresh : ∀ n service, .watcher watcher ∉ v.observersAt n service :=
      fun n service hmem => Nat.ne_of_lt (hv.given watcher h.owns n service hmem) h.serial
    have hw := h.kempt hends hwhole hfresh hu
    exact ⟨hw.given, hw.due⟩

end Underway

/-! ## The ways the call ends -/

section Ending

theorem Tends.fail (w : World (Notebook σ)) (cause : Failure) :
    S.Tends w (w.jotting (.closed (.error (.failed cause)))) := by
  refine ⟨rfl, rfl, Nat.le_refl _, id, List.suffix_cons _ _, fun base hw => hw,
    fun _ _ _ _ _ hmem => Or.inl hmem, fun _ _ _ _ hw => ⟨hw.given, hw.due⟩⟩

variable {watcher : Watcher} {v u w : World (Notebook σ)}

theorem Ends.of_error {stop : Stop}
    (hunwatched : ∀ cause, stop = .failed cause →
      (∀ n service, .watcher watcher ∉ v.observersAt n service) →
        ∀ n service, .watcher watcher ∉ u.observersAt n service) :
    S.Ends watcher (.error stop) v u u where
  discovery := rfl
  wiring := rfl
  next_le := Nat.le_refl _
  unlisted := id
  calls := rfl
  watched _ _ _ h := h
  records := by simp
  unwatched cause hcause := hunwatched cause (by simpa using hcause)

/-- The record is put in, and the URL is kept in the metadata store. -/
theorem Ends.of_ok {url : Url} (hurl : url.fullString = S.url) (watcher : Watcher)
    (v u : World (Notebook σ)) :
    let recorded := u.after (setSubscriptions S.registry
      ((u.registry S.registry).subscriptions.add url.fullString ⟨S.sink, watcher⟩))
    S.Ends watcher (.ok ()) v u (recorded.after
      (MetadataStore.subscribeUrl (recorded.registry S.registry).metadata url)) := by
  intro recorded
  have hdiscovery := discovery_recorded (S := S) S.registry
    ((u.registry S.registry).subscriptions.add url.fullString ⟨S.sink, watcher⟩) u
  have hrecords : S.records recorded = S.records u ++ [⟨S.sink, watcher⟩] :=
    records_recorded_of_takes ⟨rfl, hurl, rfl⟩ watcher u
  rw [MetadataStore.after_subscribeUrl]
  refine ⟨hdiscovery, rfl, Nat.le_refl _, id, rfl, fun _ _ _ h => h, ?_, fun _ h => nomatch h⟩
  rw [if_pos rfl]
  exact hrecords

end Ending

section Subscribing

variable {host : Host (Notebook σ)} (hhost : host.KeepsNotebook S.Leads) {url : Url}
  (hurl : url.fullString = S.url)

include hhost

/-- Watching puts the busy watcher on the lists it has been made for, and takes it off all of them
when it fails. -/
theorem Underway.watchEach {watcher : Watcher} (howns : S.Owns watcher)
    (v : World (Notebook σ)) (hserial : watcher.serial = v.next) :
    let start : World (Notebook σ) := { v with next := v.next + 1 }
    let watch := (Registry.watchEach host (v.registry S.registry).discovery watcher []
      watcher.services).run
    S.Underway watcher v (start.after watch) ∧
      ∀ cause, start.result watch = .error (.failed cause) →
        (∀ n service, .watcher watcher ∉ v.observersAt n service) →
          ∀ n service, .watcher watcher ∉ (start.after watch).observersAt n service := by
  intro start watch
  refine ⟨⟨howns, hserial, ?_⟩, fun cause hfailed hfresh n service => ?_⟩
  · exact (TendsBut.tolerates watcher _).watchEach
      (fun b service hook w => (hhost.watch b service hook w).tends.but) _ [] watcher.services
      start fun n hn service hservice => ⟨hn, hservice⟩
  · have hgiven : watcher.serial < start.next := by
      show watcher.serial < v.next + 1
      omega
    refine not_mem_of_watchEach_failed (P := fun w => watcher.serial < w.next) (w := start)
      (fun next w hw => ?_) hgiven (fun n service hmem => absurd hmem (hfresh n service)) hfailed n
      service
    have hadd := (TendsBut.tolerates (S := S) watcher (fun n service =>
      n ∈ (v.registry S.registry).discovery.notifiers w ∧ service = next)).addObserver
      (fun b service hook w => (hhost.watch b service hook w).tends.but) _ next w
      fun n hn => ⟨hn, rfl⟩
    exact ⟨Nat.lt_of_lt_of_le hw hadd.next_le, Discovery.notifiers_congr hadd.wiring _,
      fun n service hmem => (hadd.placed watcher howns hw n service hmem).imp_right And.right⟩

/-- What the first delivery does is up to the sink; the call that made the watcher goes on. -/
theorem Underway.deliver {watcher : Watcher} {v u : World (Notebook σ)}
    (h : S.Underway watcher v u) (notice : Notice) (delivery : Delivery) :
    S.Underway watcher v ((u.note notice).after (host.deliver delivery)) :=
  h.and_then (((Still.note u notice).leads.tends.trans (.serving delivery _)).trans
    (hhost.deliver delivery _).tends)

include hurl

/-- Watching and collecting, when it is done. -/
theorem watchAndCollect_underway {w : World (Notebook σ)} {watcher : Watcher} {urls : List Url}
    (hok : w.result (watchAndCollect host S.registry url S.sink).run = .ok (watcher, urls)) :
    ∃ v, S.Tends w v ∧
      S.Underway watcher v (w.after (watchAndCollect host S.registry url S.sink).run) := by
  have hresolve := Registry.serviceNames_keepsTo hhost.lookup S.registry url.serviceInterface w
  rcases watchAndCollect_cases host S.registry url S.sink w with
    ⟨_, hresult, -⟩ | ⟨services, ⟨_, -, hresult, -⟩ | ⟨_, -, hresult, -⟩ |
      ⟨_, -, -, hresult, hfinal⟩⟩
  · rw [hresult] at hok
    cases hok
  · rw [hresult] at hok
    cases hok
  · rw [hresult] at hok
    cases hok
  · rw [hresult] at hok
    cases hok
    refine ⟨_, hresolve.tends, ?_⟩
    rw [hfinal]
    generalize w.after (Registry.serviceNames host S.registry url.serviceInterface).run = v
    have howns : S.Owns (nextWatcher v S.registry url S.sink services) := ⟨rfl, hurl, rfl⟩
    exact (Underway.watchEach hhost howns v rfl).1.and_then
      (instanceUrls_keepsTo hhost.instances .refl .trans _ url services _).tends

/-- Watching and collecting, when it is not done. -/
theorem watchAndCollect_stopped {w : World (Notebook σ)} {stop : Stop}
    (hstop : w.result (watchAndCollect host S.registry url S.sink).run = .error stop) :
    S.Tends w ((w.after (watchAndCollect host S.registry url S.sink).run).jotting
      (.closed (.error stop))) := by
  have hresolve := (Registry.serviceNames_keepsTo hhost.lookup S.registry url.serviceInterface
    w).tends
  rcases watchAndCollect_cases host S.registry url S.sink w with
    ⟨cause, hresult, hfinal⟩ | ⟨services, hways⟩
  · rw [hresult] at hstop
    cases hstop
    rw [hfinal]
    exact hresolve.trans (.fail _ cause)
  dsimp only at hways
  generalize w.after (Registry.serviceNames host S.registry url.serviceInterface).run = v at *
  have howns : S.Owns (nextWatcher v S.registry url S.sink services) := ⟨rfl, hurl, rfl⟩
  obtain ⟨hunderway, hunwatched⟩ := Underway.watchEach hhost howns v rfl
  refine hresolve.trans ?_
  rcases hways with ⟨stop', hwatch, hresult, hfinal⟩ | ⟨cause, -, hresult, hfinal⟩ |
    ⟨_, -, -, hresult, -⟩
  · rw [hresult] at hstop
    cases hstop
    rw [hfinal]
    refine hunderway.close (.of_error fun cause hcause => hunwatched cause ?_)
    rw [← hcause]
    exact hwatch
  · rw [hresult] at hstop
    cases hstop
    rw [hfinal]
    have hcollected := hunderway.and_then (instanceUrls_keepsTo hhost.instances .refl .trans
      (v.registry S.registry).discovery url services _).tends
    refine (hcollected.unwatch (v.registry S.registry).discovery services).close
      (.of_error fun _ _ hfresh => ?_)
    exact not_mem_after_unwatch fun n service hmem => hcollected.only hfresh hmem
  · rw [hresult] at hstop
    cases hstop

/-- The call, once it has taken out the record of the seat. -/
theorem subscribe_tends (hgeneral : isMetadataUrl url = false) (w : World (Notebook σ)) :
    S.Tends (w.after (dropSubscription S.registry url S.sink))
      ((w.after (Registry.subscribe host S.registry url S.sink).run).jotting (.closed
        (w.result (Registry.subscribe host S.registry url S.sink).run))) := by
  have hanswer := result_answer_instances hgeneral host S.registry S.sink w
  have hanswered := after_answer_instances hgeneral host S.registry S.sink w
  have hways := subscribe_cases host S.registry url S.sink w
  dsimp only at hways
  rw [hanswer, hanswered] at hways
  generalize w.after (dropSubscription S.registry url S.sink) = dropped at *
  have hdelivered := deliverInstances_cases host S.registry url S.sink dropped
  dsimp only at hdelivered
  rcases hways with ⟨stop, hstopped, hresult, hfinal⟩ | ⟨hdone, hresult, hfinal⟩
  · rw [hresult, hfinal]
    rcases hdelivered with ⟨stop', hcollect, hended, hafter⟩ |
      ⟨watcher, urls, hcollect, ⟨payload, -, hended, hafter⟩ | ⟨-, hended, -⟩⟩
    · obtain rfl : stop' = stop := Except.error.inj (hended.symm.trans hstopped)
      rw [hafter]
      exact watchAndCollect_stopped hhost hurl hcollect
    · obtain rfl : .panicked payload = stop := Except.error.inj (hended.symm.trans hstopped)
      obtain ⟨v, htends, hunderway⟩ := watchAndCollect_underway hhost hurl hcollect
      rw [hafter]
      refine htends.trans ?_
      exact (Underway.deliver hhost hunderway _ _).close (.of_error fun _ h => nomatch h)
    · exact nomatch hended.symm.trans hstopped
  · rw [hresult, hfinal]
    rcases hdelivered with ⟨stop, -, hended, -⟩ |
      ⟨watcher, urls, hcollect, ⟨payload, -, hended, -⟩ | ⟨-, -, hafter⟩⟩
    · exact nomatch hended.symm.trans hdone
    · exact nomatch hended.symm.trans hdone
    · obtain ⟨v, htends, hunderway⟩ := watchAndCollect_underway hhost hurl hcollect
      rw [hafter]
      exact htends.trans ((Underway.deliver hhost hunderway _ _).close (.of_ok hurl watcher v _))

theorem subscribe_leads (hgeneral : isMetadataUrl url = false) (w : World (Notebook σ)) :
    S.Leads w (((w.jotting .opened).after
      (Registry.subscribe host S.registry url S.sink).run).jotting (.closed
        ((w.jotting .opened).result (Registry.subscribe host S.registry url S.sink).run))) := by
  have hdropped : S.Tends w
      ((w.jotting .opened).after (dropSubscription S.registry url S.sink)) :=
    .drop hurl (fun _ _ => rfl) w
  have hcalls := congrArg Notebook.calls
    (client_dropped S.registry url S.sink (w.jotting .opened))
  have hsubscribed := subscribe_tends hhost hurl hgeneral (w.jotting .opened)
  generalize (w.jotting .opened).after (dropSubscription S.registry url S.sink) = v at *
  refine ⟨hdropped.trans hsubscribed, fun hbegun => ?_⟩
  -- A call that subscribes has begun.
  have hmore : begun v.client.calls = begun w.client.calls + 1 := by
    rw [hcalls]
    exact List.countP_cons_of_pos rfl
  have hstays := begun_le_of_suffix hsubscribed.calls
  omega

end Subscribing

end ServiceDirectory.Seat
