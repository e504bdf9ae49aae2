import ServiceDirectory.Proofs.Discovery.Adding
import ServiceDirectory.Proofs.Sharing.Board

/-!
# Who hears of a change

A listener that has been added to one source, for one service, hears of that service from every
source on the dispatcher, since a bridge does not ask where an event comes from.  But it hears
nothing else, and nothing twice: each of its calls is covered by an answer that a backend has given
to a report of a source on the dispatcher.
-/

namespace ServiceDirectory.Board

open Dispatcher

variable {σ : Type} {B : Board} {w v w' : World (Minutes σ)} {held : List Lease} {owed : List Event}
  {event : Event}

/-! ## From one world to the next -/

theorem Posts.meanwhile {pairs : List (String × Listener)} (h : B.Posts pairs w)
    (hsame : w'.dispatcher B.dispatcher = w.dispatcher B.dispatcher) : B.Posts pairs w' :=
  ⟨h.records.meanwhile hsame, h.absent, h.alone⟩

/-- What clients put down may change, as long as the calls are covered. -/
theorem Sound.withClient (h : B.Sound held owed w) {held' : List Lease} {owed' : List Event}
    {client : Minutes σ} (hheld : client.held = held')
    (hcaptured : ∀ task ∈ client.waiting, B.Captured σ task)
    (hcovered : ∀ event, client.heard.count (B.listener, event) +
      (B.pending client.waiting ++ owed').count event ≤
        client.reported.countP (B.announces event)) : B.Sound held' owed' { w with client } where
  source := h.source
  posts := h.posts.imp fun _ hposts => hposts.meanwhile rfl
  placed := h.placed
  nodup := h.nodup
  captured := hcaptured
  holds := hheld
  covered := hcovered

theorem Sound.still (h : B.Sound held owed w) (hstill : B.Still w w') : B.Sound held owed w' where
  source c hc := hstill.source c hc ▸ h.source c hc
  posts := h.posts.imp fun _ hposts => hposts.meanwhile hstill.dispatcher
  placed n service hmem := h.placed n service (hstill.absent n service hmem)
  nodup := hstill.observers B.service ▸ h.nodup
  captured := hstill.waiting ▸ h.captured
  holds := hstill.held.trans h.holds
  covered := by
    rw [hstill.heard, hstill.waiting, hstill.reported]
    exact h.covered

/-- Fewer calls are easier to cover. -/
theorem Sound.drop {more : List Event} (h : B.Sound held (more ++ owed) w) :
    B.Sound held owed w := by
  refine h.withClient h.holds h.captured fun event => ?_
  have hcovered := h.covered event
  simp only [List.count_append] at hcovered ⊢
  omega

theorem leads_disregardsLog (B : Board) : DisregardsLog (κ := Minutes σ) B.Leads where
  refl _ _ _ h := h
  trans h h' held owed hsound := h' held owed (h held owed hsound)
  note _ _ _ _ h :=
    h.still ⟨fun _ _ => rfl, rfl, fun _ => rfl, fun _ _ hmem => hmem, rfl, rfl, rfl, rfl⟩

theorem Leads.settles (h : B.Leads w w') (event : Event) : B.Settles event w w' :=
  fun held owed hsound => h held owed hsound.drop

theorem Leads.trans_settles (h : B.Leads w v) (h' : B.Settles event v w') :
    B.Settles event w w' :=
  fun held owed hsound => h' held owed (h held _ hsound)

theorem Settles.trans_leads (h : B.Settles event w v) (h' : B.Leads v w') :
    B.Settles event w w' :=
  fun held owed hsound => h' held owed (h held owed hsound)

theorem due_of_concerns (h : B.concerns event = true) : B.due event = [event] := if_pos h

theorem due_of_not_concerns (h : B.concerns event = false) : B.due event = [] :=
  if_neg (by simp [h])

/-! ## What is put down -/

theorem hearing_leads {l : Ref .listener} (hl : l ≠ B.listener) (event : Event)
    (w : World (Minutes σ)) : B.Leads w (w.hearing l event) := by
  intro held owed h
  refine h.withClient h.holds h.captured fun event' => ?_
  have hother : (B.listener, event') ≠ (l, event) := fun heq => hl (congrArg Prod.fst heq).symm
  rw [List.count_cons_of_ne (Ne.symm hother)]
  exact h.covered event'

/-- A call that was due has been made. -/
theorem hearing_settles (hconcerns : B.concerns event = true) (w : World (Minutes σ)) :
    B.Settles event w (w.hearing B.listener event) := by
  intro held owed h
  rw [due_of_concerns hconcerns] at h
  refine h.withClient h.holds h.captured fun event' => ?_
  have hcovered := h.covered event'
  rw [List.count_append, List.count_append, List.count_singleton] at hcovered
  have hpair : ((B.listener, event) == (B.listener, event')) = (event == event') := by
    rw [beq_eq_decide, beq_eq_decide]
    simp
  dsimp only
  rw [List.count_cons, hpair, List.count_append]
  omega

/-- A task has been handed over, and its call is due when it is run. -/
theorem holding_settles {task : Task} (hcaptured : B.Captured σ task) (w : World (Minutes σ)) :
    B.Settles task.event w (w.holding (w.client.waiting ++ [task])) := by
  intro held owed h
  refine h.withClient h.holds (fun task' htask' => ?_) fun event' => ?_
  · rcases List.mem_append.1 htask' with hold | hnew
    · exact h.captured task' hold
    · rw [List.mem_singleton.1 hnew]
      exact hcaptured
  · have hpending : B.pending (w.client.waiting ++ [task]) =
        B.pending w.client.waiting ++ B.due task.event := by
      simp [pending]
    show _ + (B.pending (w.client.waiting ++ [task]) ++ owed).count event' ≤ _
    rw [hpending, List.append_assoc]
    exact h.covered event'

/-- A task has been taken from those that are waiting, and its call is owed. -/
theorem Sound.take (h : B.Sound held owed w) {before after : List Task} {task : Task}
    (hwaiting : w.client.waiting = before ++ task :: after) :
    B.Sound held (B.due task.event ++ owed) (w.holding (before ++ after)) := by
  refine h.withClient h.holds (fun task' htask' => h.captured task' ?_) fun event' => ?_
  · rw [hwaiting]
    rcases List.mem_append.1 htask' with hbefore | hafter
    · exact List.mem_append_left _ hbefore
    · exact List.mem_append_right _ (List.mem_cons_of_mem _ hafter)
  · have hcovered := h.covered event'
    rw [hwaiting] at hcovered
    simp only [pending, List.flatMap_append, List.flatMap_cons, List.count_append] at hcovered ⊢
    omega

theorem Sound.entering (h : B.Sound held owed w) (lease : Lease) :
    B.Sound (lease :: held) owed (w.entering lease true) :=
  h.withClient (congrArg (lease :: ·) h.holds) h.captured h.covered

theorem Sound.leaving {lease : Lease} (h : B.Sound (lease :: held) owed w) :
    B.Sound held owed w.leaving :=
  h.withClient (congrArg List.tail h.holds) h.captured h.covered

/-- What a backend answers to a report covers a call for the event of the source. -/
theorem Sound.answering {b : Ref .backend} (h : B.Sound (.backend b :: held) owed w) {c : Wire}
    (hc : c ∈ B.sources) (service : String) (instances : List Instance) :
    B.Sound (.backend b :: held)
      (B.due (.raise c.name (.membership service instances)) ++ owed)
      (w.answering c.backend service (.ok instances)) := by
  rw [World.answering_of_report h.holds]
  refine h.withClient h.holds h.captured fun event' => ?_
  have hcovered := h.covered event'
  rw [List.countP_cons]
  simp only [List.count_append] at hcovered ⊢
  by_cases hservice : service = B.service
  · subst hservice
    have hdue : B.due (.raise c.name (.membership B.service instances)) =
        [.raise c.name (.membership B.service instances)] :=
      due_of_concerns (concerns_iff.2 ⟨instances, rfl⟩)
    rw [hdue, List.count_singleton]
    by_cases hevent : Event.raise c.name (.membership B.service instances) = event'
    · have hannounces : B.announces event' (c.backend, B.service, instances) = true :=
        announces_iff.2 ⟨c, hc, rfl, rfl, hevent.symm⟩
      rw [if_pos hannounces]
      split_ifs <;> omega
    · rw [if_neg (by simpa using hevent)]
      omega
  · have hnone : B.due (.raise c.name (.membership service instances)) = [] :=
      due_of_not_concerns (by simp [concerns, Event.raise, hservice])
    rw [hnone, List.count_nil]
    omega

theorem answering_leads (b : Ref .backend) (service : String)
    (answer : Except Failure (List Instance)) (w : World (Minutes σ)) :
    B.Leads w (w.answering b service answer) := by
  intro held owed h
  rcases w.answering_cases b service answer with hsame | ⟨instances, hmore⟩
  · rw [hsame]
    exact h
  · rw [hmore]
    refine h.withClient h.holds h.captured fun event' => ?_
    rw [List.countP_cons]
    exact Nat.le_add_right_of_le (h.covered event')

/-! ## Listeners -/

section Behaving

variable {host : Host (Minutes σ)} (hhost : host.KeepsMinutes B.Leads)

include hhost

theorem instances_lead (b : Ref .backend) (service : String) (w : World (Minutes σ)) :
    B.Leads w (w.after (host.instances b service)) :=
  (leads_disregardsLog B).trans (answering_leads b service _ w) (hhost.instances b service w)

/-- A watcher asks and delivers, and calls no listener. -/
theorem refresh_leads (watcher : Watcher) (event : Event) (w : World (Minutes σ)) :
    B.Leads w (w.after (watcher.refresh host event)) := by
  intro held owed h
  have hR := leads_disregardsLog (σ := σ) B
  have hways := watcher.refresh_cases host event w
  dsimp only at hways
  cases hentered : w.result
      (host.enter (.discovery (w.registry watcher.registry).discovery)) with
  | false =>
    have hgone := hhost.enter (.discovery (w.registry watcher.registry).discovery) w
    rw [hentered] at hgone
    rw [Watcher.after_refresh_of_gone hentered]
    exact hgone held owed h
  | true =>
    generalize (w.registry watcher.registry).discovery = d at hentered hways
    have hheld := hhost.enter (.discovery d) w
    rw [hentered] at hheld
    have hasked := hR.trans hheld (instanceUrls_keepsTo (instances_lead hhost) hR.refl hR.trans d
      watcher.subscribed watcher.services _) _ owed (h.entering (.discovery d))
    rcases hways with ⟨hgone, -⟩ | ⟨cause, -, hfinal⟩ | ⟨urls, -, hfinal⟩
    · cases hentered.symm.trans hgone
    · rw [hfinal]
      exact hhost.leave _ _ held owed (hR.note _ _ _ owed hasked).leaving
    · rw [hfinal]
      exact hhost.leave _ _ held owed
        (hhost.deliver _ _ _ owed (hR.note _ _ _ owed hasked)).leaving

theorem react_leads {o : Observer} (ho : o ≠ .client B.listener) (event : Event)
    (w : World (Minutes σ)) : B.Leads w (w.after (o.react host event)) := by
  cases o with
  | client l =>
    have hl : l ≠ B.listener := fun heq => ho (congrArg Observer.client heq)
    exact (leads_disregardsLog B).trans (hearing_leads hl event w) (hhost.onEvent l event w)
  | watcher watcher => exact refresh_leads hhost watcher event w

theorem react_settles (hconcerns : B.concerns event = true) (w : World (Minutes σ)) :
    B.Settles event w (w.after (Observer.react host event (.client B.listener))) :=
  (hearing_settles hconcerns w).trans_leads (hhost.onEvent B.listener event w)

theorem observers_lead {observers : List Observer}
    (h : ∀ o ∈ observers, o ≠ .client B.listener) (event : Event) :
    ∀ l ∈ observers.map Listener.observer, ∀ v : World (Minutes σ),
      B.Leads v (v.after (l.react host event)) := by
  intro l hl v
  obtain ⟨o, ho, rfl⟩ := List.mem_map.1 hl
  exact react_leads hhost (h o ho) event v

omit hhost in
/-- One listener among others makes the call that is owed. -/
theorem told_settles {before after : List Listener} {l : Listener}
    (hbefore : ∀ l' ∈ before, ∀ v, B.Leads v (v.after (l'.react host event)))
    (hone : ∀ v, B.Settles event v (v.after (l.react host event)))
    (hafter : ∀ l' ∈ after, ∀ v, B.Leads v (v.after (l'.react host event)))
    (h : Told host event w (before ++ l :: after) w') : B.Settles event w w' := by
  have hR := leads_disregardsLog (σ := σ) B
  obtain ⟨u, hfirst, hrest⟩ := told_append.1 h
  apply (hfirst.keepsTo hR hbefore).trans_settles
  cases hrest with
  | returned _ hrest => exact (hone u).trans_leads (hrest.keepsTo hR hafter)
  | panicked _ hrest =>
    exact ((hone u).trans_leads (hR.note _ _)).trans_leads (hrest.keepsTo hR hafter)

omit hhost in
theorem told_of_notify {service : String} {instances : List Instance}
    (hcontent : event.content = .membership service instances) (n : Ref .notifier)
    (w : World (Minutes σ)) :
    ∃ v, B.Leads w v ∧ Told host event v ((w.observersAt n service).map Listener.observer)
      (w.after (Notifier.notify host n event)) := by
  obtain ⟨v, hv, htold⟩ := told_notify hcontent n w
  refine ⟨v, ?_, htold⟩
  rcases hv with rfl | ⟨notice, rfl⟩
  · exact (leads_disregardsLog B).refl v
  · exact (leads_disregardsLog B).note w notice

/-- The notifier of the source calls the listener once if it is on the list. -/
theorem notify_settles (hconcerns : B.concerns event = true) (w : World (Minutes σ)) :
    B.Settles event w (w.after (Notifier.notify host B.home.notifier event)) := by
  intro held owed h
  obtain ⟨instances, hcontent⟩ := concerns_iff.1 hconcerns
  obtain ⟨v, hnoted, htold⟩ := told_of_notify hcontent B.home.notifier w
  refine hnoted.trans_settles ?_ held owed h
  by_cases hlisted : Observer.client B.listener ∈ w.observersAt B.home.notifier B.service
  · obtain ⟨before, after, hlist⟩ := List.append_of_mem hlisted
    have hnodup : (before ++ Observer.client B.listener :: after).Nodup := hlist ▸ h.nodup
    have hothers : ∀ o ∈ before ++ after, o ≠ .client B.listener := by
      rintro o ho rfl
      exact (List.nodup_middle.1 hnodup).notMem ho
    rw [hlist, List.map_append, List.map_cons] at htold
    refine told_settles ?_ ?_ ?_ htold
    · exact observers_lead hhost (fun o ho => hothers o (List.mem_append_left _ ho)) event
    · exact react_settles hhost hconcerns
    · exact observers_lead hhost (fun o ho => hothers o (List.mem_append_right _ ho)) event
  · refine Leads.settles (htold.keepsTo (leads_disregardsLog B) ?_) event
    refine observers_lead hhost ?_ event
    rintro o ho rfl
    exact hlisted ho

/-- Any other notifier does not have the listener on the list of the service. -/
theorem notify_leads {n : Ref .notifier}
    (hother : n = B.home.notifier → B.concerns event = false) (w : World (Minutes σ)) :
    B.Leads w (w.after (Notifier.notify host n event)) := by
  intro held owed h
  cases hcontent : event.content with
  | membership service instances =>
    have habsent : ∀ o ∈ w.observersAt n service, o ≠ .client B.listener := by
      rintro o ho rfl
      obtain ⟨hn, rfl⟩ := h.placed n service ho
      have hconcerns : B.concerns event = true := concerns_iff.2 ⟨instances, hcontent⟩
      rw [hother hn] at hconcerns
      cases hconcerns
    obtain ⟨v, hnoted, htold⟩ := told_of_notify hcontent n w
    have htold := htold.keepsTo (leads_disregardsLog B) (observers_lead hhost habsent event)
    exact htold held owed (hnoted held owed h)
  | _ =>
    rw [Notifier.notify, hcontent]
    exact h

/-- A listener of the dispatcher, unless it is the bridge of the source. -/
theorem Posts.react_leads {pairs : List (String × Listener)} (hposts : B.Posts pairs w)
    {pair : String × Listener} (hpair : pair ∈ pairs)
    (hother : pair = B.home.pair → B.concerns event = false) (v : World (Minutes σ)) :
    B.Leads v (v.after (pair.2.react host event)) := by
  obtain ⟨kind, l⟩ := pair
  cases l with
  | observer o =>
    refine Board.react_leads hhost ?_ event v
    rintro rfl
    exact hposts.absent _ hpair rfl
  | bridge serial n =>
    refine notify_leads hhost ?_ v
    rintro rfl
    apply hother
    rw [hposts.records.kind_of_bridge hpair, hposts.alone _ hpair serial rfl]
    rfl

theorem Posts.turns_lead {pairs turns : List (String × Listener)} (hposts : B.Posts pairs w)
    (hturns : ∀ pair ∈ turns, pair ∈ pairs)
    (hother : B.home.pair ∈ turns → B.concerns event = false) :
    ∀ l ∈ turns.map Prod.snd, ∀ v : World (Minutes σ), B.Leads v (v.after (l.react host event)) := by
  intro l hl v
  obtain ⟨pair, hpair, rfl⟩ := List.mem_map.1 hl
  refine hposts.react_leads hhost (hturns pair hpair) ?_ v
  rintro rfl
  exact hother hpair

/-! ## Tasks and reports -/

/-- Whenever a task is run, the bridge of the source has one turn at most. -/
theorem run_settles {task : Task} (hcaptured : B.Captured σ task) (w : World (Minutes σ)) :
    B.Settles task.event w (w.after (task.run host)) := by
  have hR := leads_disregardsLog (σ := σ) B
  obtain ⟨x, pairs, hposts, hbuckets⟩ := hcaptured
  obtain ⟨turns, hturns, hrun⟩ := hposts.records.told_run host task.event w
  have htold : Told host task.event w (turns.map Prod.snd) (w.after (task.run host)) :=
    hrun task.buckets (hbuckets ▸ List.Perm.refl _)
  have hsubset : ∀ pair ∈ turns, pair ∈ pairs := fun _ hpair => hturns.subset hpair
  -- The listener can be reached only by the one turn of the bridge, and for its service.
  by_cases hcalls : B.home.pair ∈ turns ∧ B.concerns task.event = true
  · obtain ⟨hbridge, hconcerns⟩ := hcalls
    have hnodup : turns.Nodup :=
      hturns.called.nodup_iff.2 (hposts.records.pairs_nodup.filter _)
    obtain ⟨before, after, rfl⟩ := List.append_of_mem hbridge
    have hothers := (List.nodup_middle.1 hnodup).notMem
    rw [List.map_append, List.map_cons] at htold
    refine told_settles (hposts.turns_lead hhost (fun pair hpair => ?_) fun hpair => ?_) ?_
      (hposts.turns_lead hhost (fun pair hpair => ?_) fun hpair => ?_) htold
    · exact hsubset pair (List.mem_append_left _ hpair)
    · exact absurd (List.mem_append_left _ hpair) hothers
    · exact notify_settles hhost hconcerns
    · exact hsubset pair (List.mem_append_right _ (List.mem_cons_of_mem _ hpair))
    · exact absurd (List.mem_append_right _ hpair) hothers
  · refine Leads.settles (htold.keepsTo hR (hposts.turns_lead hhost hsubset fun hbridge => ?_)) _
    exact Bool.eq_false_iff.2 fun hconcerns => hcalls ⟨hbridge, hconcerns⟩

/-- A dispatch makes the call or leaves it to a task. -/
theorem dispatch_settles (event : Event) (w : World (Minutes σ)) :
    B.Settles event w (w.after (dispatch host B.dispatcher event)) := by
  intro held owed h
  obtain ⟨pairs, hposts⟩ := h.posts
  have hcaptured : B.Captured σ (captured w B.dispatcher event) := ⟨w, pairs, hposts, rfl⟩
  rw [after_dispatch]
  cases (w.dispatcher B.dispatcher).executor with
  | direct => exact run_settles hhost hcaptured w held owed h
  | external executor =>
    exact (holding_settles hcaptured w).trans_leads (hhost.handOff executor _ w) held owed h

theorem dispatch_leads (hother : B.concerns event = false) (w : World (Minutes σ)) :
    B.Leads w (w.after (dispatch host B.dispatcher event)) := by
  intro held owed h
  refine dispatch_settles hhost event w held owed ?_
  rw [due_of_not_concerns hother]
  exact h

/-- A report asks the backend of its source, and the answer covers the call. -/
theorem report_leads {c : Wire} (hc : c ∈ B.sources) (service : String) (w : World (Minutes σ)) :
    B.Leads w (w.after (c.hook.fire host service)) := by
  intro held owed h
  have hR := leads_disregardsLog (σ := σ) B
  have hheld := hhost.enter (.backend c.backend) w
  cases hentered : w.result (host.enter (.backend c.backend)) with
  | false =>
    rw [hentered] at hheld
    rw [WatchHook.after_fire_of_gone hentered]
    exact hheld held owed h
  | true =>
    rw [hentered] at hheld
    have hheld := hheld _ owed (h.entering (.backend c.backend))
    have hways := c.hook.fire_cases host service w
    dsimp only at hways
    -- The answer is put down while the backend is held on to, so it covers what is dispatched.
    rcases hways with ⟨hgone, -⟩ | ⟨cause, -, hfinal⟩ | ⟨instances, hasked, hfinal⟩
    · cases hentered.symm.trans hgone
    · rw [hfinal]
      have hfailed := instances_lead hhost c.backend service _ _ owed hheld
      exact hhost.leave _ _ held owed (hR.note _ _ _ owed hfailed).leaving
    · rw [hfinal]
      have hanswered := hhost.instances c.backend service
        (w.after (host.enter (.backend c.backend)))
      have hcovered := hheld.answering hc service instances
      rw [← hasked] at hcovered
      have hnoted := hR.trans hanswered
        (hR.note _ (.changeReported c.hook.source service instances.length)) _ _ hcovered
      have hdispatched := dispatch_settles hhost
        (.raise c.name (.membership service instances)) _ _ owed hnoted
      rw [← B.shared c hc] at hdispatched
      exact hhost.leave _ _ held owed hdispatched.leaving

end Behaving

end ServiceDirectory.Board
