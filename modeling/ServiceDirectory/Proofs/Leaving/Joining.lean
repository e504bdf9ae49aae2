import ServiceDirectory.Proofs.Leaving.Telling

/-!
# Taking and leaving a seat

A call that subscribes takes out the record of the seat first, and puts the new one in when the
sink has returned from its first delivery.  In between, its watcher is on lists without being on
record.  So a call that unsubscribes within that delivery finds nothing to take out, and the record
that is put in afterwards is there to stay.
-/

namespace ServiceDirectory

variable {κ σ : Type}

open Registry

namespace Seat

variable {S : Seat}

/-! ## Taking records out -/

/-- What is left on lists of the watchers of the seat is the exceptions. -/
theorem Kempt.except_of_mem_dropped {except : Watcher → Prop} {w : World κ}
    (h : S.Kempt except w) {id : Ref .registry} {url : Url} {sink : Ref .sink}
    (htakes : S.Takes id url sink) {x : Watcher} (hx : S.Owns x) {n : Ref .notifier}
    {service : String}
    (hmem : .watcher x ∈ (w.after (dropSubscription id url sink)).observersAt n service) :
    except x := by
  rcases h.due x hx n service (mem_of_mem_dropped hmem) with hexcept | hdue
  · exact hexcept
  · obtain ⟨rfl, hurl, rfl⟩ := htakes
    obtain ⟨hn, hservice, s, hs, rfl⟩ := hdue
    obtain ⟨hget, hsink⟩ := List.mem_filter.1 hs
    rw [(dropSubscription_removal _ url _ w).observers, if_pos hn] at hmem
    have hstays := (List.mem_filter.1 hmem).2
    rw [Bool.not_eq_true', decide_eq_false_iff_not] at hstays
    refine absurd ⟨s, SubscriptionTable.mem_fst_take.2 ⟨?_, of_decide_eq_true hsink⟩, rfl, hservice⟩
      hstays
    rw [hurl]
    exact hget

theorem unlisted_dropped (id : Ref .registry) (url : Url) (sink : Ref .sink)
    (w : World (Notebook σ)) (hw : S.Unlisted w) :
    S.Unlisted (w.after (dropSubscription id url sink)) := by
  rw [(dropSubscription_removal id url sink w).elsewhere]
  exact hw

theorem Still.drop {id : Ref .registry} {url : Url} {sink : Ref .sink}
    (hother : ¬S.Takes id url sink) (w : World (Notebook σ)) :
    S.Still w (w.after (dropSubscription id url sink)) where
  records := records_dropped hother w
  discovery := discovery_dropped id url sink w
  wiring := wiring_dropped id url sink w
  next_le := Nat.le_of_eq (next_dropped id url sink w).symm
  watched _ _ _ _ hmem := mem_of_mem_dropped hmem
  unlisted := unlisted_dropped id url sink w
  calls := by rw [client_dropped]
  heard := by rw [Seat.heard, Seat.heard, client_dropped]

/-- The record of another seat is put in. -/
theorem Still.record {id : Ref .registry} {url : Url} {sink : Ref .sink}
    (hother : ¬S.Takes id url sink) (watcher : Watcher) (w : World (Notebook σ)) :
    S.Still w (w.after (setSubscriptions id
      ((w.registry id).subscriptions.add url.fullString ⟨sink, watcher⟩))) where
  records := records_recorded hother watcher w
  discovery := discovery_recorded id _ w
  wiring := rfl
  next_le := Nat.le_refl _
  watched _ _ _ _ h := h
  unlisted := fun h => h
  calls := rfl
  heard := rfl

/-! ## Other seats -/

theorem unsubscribeOther_leads {id : Ref .registry} {url : Url} {sink : Ref .sink}
    (hother : ¬S.Takes id url sink) (w : World (Notebook σ)) :
    S.Leads w (w.after (Registry.unsubscribe id url sink)) :=
  (Still.drop hother w).leads.trans (unsubscribed_keepsTo (leads_disregardsLog S)
    (fun m u => (Still.unsubscribeUrl m url u).leads) id sink w)

theorem subscribeOther_leads {host : Host (Notebook σ)} (hhost : host.KeepsNotebook S.Leads)
    {id : Ref .registry} {url : Url} {sink : Ref .sink}
    (hother : S.Takes id url sink → isMetadataUrl url = true) (w : World (Notebook σ)) :
    S.Leads w (w.after (Registry.subscribe host id url sink).run) := by
  have hnot : isMetadataUrl url = false → ¬S.Takes id url sink := fun hurl htakes =>
    Bool.false_ne_true (hurl.symm.trans (hother htakes))
  refine Host.SubscribesWithin.subscribe ⟨leads_disregardsLog S, fun h => h.tends.next_le, ?_,
    hhost.lookup, hhost.watch, hhost.instances, ?_, fun w => (Still.fresh w).leads,
    fun hurl w => (Still.drop (hnot hurl) w).leads,
    fun hurl watcher w _ _ _ => (Still.record (hnot hurl) watcher w).leads,
    fun m w => (Still.subscribeUrl m url w).leads⟩ w
  · intro hurl serial services
    have hother : ∀ x, S.Owns x → Observer.watcher ⟨serial, id, url, services, sink⟩ ≠ .watcher x := by
      intro x hx hsame
      obtain rfl := Observer.watcher.inj hsame
      exact hnot hurl hx
    exact (Leads.tolerates hother _).past (fun h => h.tends.next_le) serial
  · intro urls watcher w hwatcher
    refine deliver_leads hhost ?_ w
    cases watcher with
    | none => rfl
    | some x =>
      obtain ⟨hurl, rfl, rfl, rfl⟩ := hwatcher x rfl
      exact decide_eq_false (hnot hurl)

/-! ## The seat itself -/

/-- Where the records of the seat are taken out, the count starts again. -/
theorem Tends.drop {url : Url} (hurl : url.fullString = S.url) {entry : Entry}
    (hentry : ∀ base earlier, completed base (entry :: earlier) = 0) (w : World (Notebook σ)) :
    S.Tends w ((w.jotting entry).after (dropSubscription S.registry url S.sink)) := by
  have htakes : S.Takes S.registry url S.sink := ⟨rfl, hurl, rfl⟩
  have hdiscovery := discovery_dropped (S := S) S.registry url S.sink (w.jotting entry)
  have hwiring := wiring_dropped S.registry url S.sink (w.jotting entry)
  have hnext := next_dropped S.registry url S.sink (w.jotting entry)
  have hunlisted := unlisted_dropped (S := S) S.registry url S.sink (w.jotting entry)
  have hrecords := records_dropped_of_takes htakes (w.jotting entry)
  have hcalls := congrArg Notebook.calls
    (client_dropped S.registry url S.sink (w.jotting entry))
  have hmem : ∀ x n service, .watcher x ∈ ((w.jotting entry).after
      (dropSubscription S.registry url S.sink)).observersAt n service →
      .watcher x ∈ w.observersAt n service := fun _ _ _ hmem =>
    mem_of_mem_dropped (w := w.jotting entry) hmem
  have hexcept : ∀ except, S.Kempt except w → ∀ x, S.Owns x → ∀ n service,
      .watcher x ∈ ((w.jotting entry).after
        (dropSubscription S.registry url S.sink)).observersAt n service → except x := by
    intro except hw x hx n service hmem
    have hjotted : S.Kempt except (w.jotting entry) := ⟨hw.given, hw.due⟩
    exact hjotted.except_of_mem_dropped htakes hx hmem
  generalize (w.jotting entry).after (dropSubscription S.registry url S.sink) = v at *
  refine ⟨hdiscovery, hwiring, Nat.le_of_eq hnext.symm, hunlisted, ?_, fun base _ => ?_,
    fun x _ _ n service h => Or.inl (hmem x n service h), fun _ except _ _ hw =>
      ⟨fun x hx n service h => ?_, fun x hx n service h =>
        Or.inl (hexcept except hw x hx n service h)⟩⟩
  · rw [hcalls]
    exact List.suffix_cons _ _
  · rw [hrecords, hcalls]
    exact (hentry base _).symm
  · rw [hnext]
    exact hw.given x hx n service (hmem x n service h)

theorem unsubscribe_leads {url : Url} (hurl : url.fullString = S.url) (w : World (Notebook σ)) :
    S.Leads w ((w.jotting .left).after (Registry.unsubscribe S.registry url S.sink)) := by
  have htends : S.Tends w ((w.jotting .left).after (dropSubscription S.registry url S.sink)) :=
    Tends.drop hurl (fun _ _ => rfl) w
  have hgone : S.Gone w →
      S.Gone ((w.jotting .left).after (dropSubscription S.registry url S.sink)) := fun hw =>
    ⟨records_dropped_of_takes ⟨rfl, hurl, rfl⟩ (w.jotting .left),
      fun x hx n service hmem => hw.unwatched x hx n service
        (mem_of_mem_dropped (w := w.jotting .left) hmem),
      htends.unlisted hw.unlisted⟩
  have hclient := client_dropped S.registry url S.sink (w.jotting .left)
  have hforgotten := unsubscribed_keepsTo (leads_disregardsLog S)
    (fun m u => (Still.unsubscribeUrl m url u).leads) S.registry S.sink (w.jotting .left)
  generalize (w.jotting .left).after (dropSubscription S.registry url S.sink) = v at *
  refine Leads.trans ⟨htends, fun _ hw => ⟨hgone hw, ?_⟩⟩ hforgotten
  rw [Seat.heard, hclient]
  rfl

end Seat

end ServiceDirectory
