import ServiceDirectory.Proofs.Sharing.Hearing

/-!
# Events cross over

Listeners join and leave, backends report, tasks are run, and other listeners are registered.
None of this makes the listener hear of anything but answers that have been given to sources on
the dispatcher, and of none of them twice.  By induction on the depth, collaborators that make
such moves themselves do not either.

That the answers are those of its own source cannot be had: two sources that know the same
service, on one dispatcher, tell each other's listeners.
-/

namespace ServiceDirectory.Board

open Dispatcher

variable {σ : Type} {B : Board} {w w' : World (Minutes σ)}

/-! ## Joining and leaving -/

theorem add_leads {n : Ref .notifier} {service : String} {o : Observer}
    (hplace : o = .client B.listener → n = B.home.notifier ∧ service = B.service)
    (w : World (Minutes σ)) : B.Leads w (w.after (Notifier.add n service o)) := by
  intro held owed h
  refine ⟨h.source, h.posts.imp fun _ hposts => hposts.meanwhile rfl, fun n' service' hmem => ?_,
    ?_, h.captured, h.holds, h.covered⟩
  · rw [World.observersAt_add] at hmem
    split_ifs at hmem with hnew
    · obtain ⟨rfl, rfl, -⟩ := hnew
      rcases List.mem_append.1 hmem with hold | hadded
      · exact h.placed n service hold
      · exact hplace (List.mem_singleton.1 hadded).symm
    · exact h.placed n' service' hmem
  · rw [World.observersAt_add]
    split_ifs with hnew
    · exact List.concat_eq_append ▸ h.nodup.concat hnew.2.2
    · exact h.nodup

theorem remove_leads (n : Ref .notifier) (service : String) (o : Observer)
    (w : World (Minutes σ)) : B.Leads w (w.after (Notifier.remove n service o)) := by
  intro held owed h
  refine ⟨h.source, h.posts.imp fun _ hposts => hposts.meanwhile rfl, fun n' service' hmem => ?_,
    ?_, h.captured, h.holds, h.covered⟩
  · rw [World.observersAt_remove] at hmem
    split_ifs at hmem
    · exact h.placed n' service' (List.mem_of_mem_filter hmem)
    · exact h.placed n' service' hmem
  · rw [World.observersAt_remove]
    split_ifs
    · exact h.nodup.filter _
    · exact h.nodup

theorem setWatched_leads (b : Ref .backed) (service : String) (w : World (Minutes σ)) :
    B.Leads w (w.after (BackedSource.setWatched b service)) := by
  intro held owed h
  refine ⟨fun c hc => ?_, h.posts.imp fun _ hposts => hposts.meanwhile rfl, h.placed, h.nodup,
    h.captured, h.holds, h.covered⟩
  obtain ⟨watched, hsource⟩ := h.source c hc
  show ∃ watched', (World.setSource w b _).source c.id = ⟨_, _, _, _, watched'⟩
  rw [World.source_setSource]
  by_cases hsame : b = c.id
  · rw [if_pos hsame, hsame, hsource]
    exact ⟨_, rfl⟩
  · rw [if_neg hsame]
    exact ⟨watched, hsource⟩

theorem join_leads {host : Host (Minutes σ)} (hhost : host.KeepsMinutes B.Leads) {c : Wire}
    (hc : c ∈ B.sources) {service : String} {o : Observer}
    (hplace : o = .client B.listener → c = B.home ∧ service = B.service)
    (w : World (Minutes σ)) :
    B.Leads w (w.after (BackedSource.addObserver host c.id service o).run) := by
  intro held owed h
  have hR := leads_disregardsLog (σ := σ) B
  obtain ⟨watched, hsource⟩ := h.source c hc
  have hways := BackedSource.addObserver_cases host c.id service o w
  simp only [hsource] at hways
  have hadded : B.Leads w (w.after (Notifier.add c.notifier service o)) := by
    refine add_leads (fun ho => ?_) w
    obtain ⟨rfl, rfl⟩ := hplace ho
    exact ⟨rfl, rfl⟩
  have hasked := hR.trans hadded (hhost.watch c.backend service
    (BackedSource.hook ⟨c.name, c.backend, B.dispatcher, c.notifier, watched⟩) _)
  rcases hways with ⟨-, -, hfinal⟩ | ⟨-, -, -, hfinal⟩ | ⟨cause, -, -, hfinal⟩ |
    ⟨payload, -, -, hfinal⟩
  · rw [hfinal]
    exact hadded held owed h
  · rw [hfinal]
    exact hR.note _ _ held owed (setWatched_leads c.id service _ held owed (hasked held owed h))
  · rw [hfinal]
    exact remove_leads c.notifier service o _ held owed (hasked held owed h)
  · rw [hfinal]
    exact hasked held owed h

/-! ## Other uses of the dispatcher -/

/-- A request on the dispatcher that registers no bridge and not the listener. -/
theorem request_leads {r : Request}
    (hr : ∀ l, r = .add l → ∃ o, l = .observer o ∧ o ≠ .client B.listener)
    (w : World (Minutes σ)) : B.Leads w (w.after (r.perform B.dispatcher).run) := by
  intro held owed h
  obtain ⟨pairs, hposts⟩ := h.posts
  have hposts' : ∃ pairs', B.Posts pairs' (w.after (r.perform B.dispatcher).run) := by
    cases hkind : w.declaredKind r.listener with
    | none => exact ⟨pairs, hposts.records.refused r hkind, hposts.absent, hposts.alone⟩
    | some kind =>
      refine ⟨r.revise kind.name pairs, hposts.records.revised r kind hkind, ?_, ?_⟩
      · intro pair hpair
        rcases Request.mem_of_mem_revise hpair with hold | ⟨-, hnew⟩
        · exact hposts.absent pair hold
        · obtain ⟨o, hlistener, ho⟩ := hr _ hnew
          rw [hlistener]
          exact fun heq => ho (Listener.observer.inj heq)
      · intro pair hpair serial hbridge
        rcases Request.mem_of_mem_revise hpair with hold | ⟨-, hnew⟩
        · exact hposts.alone pair hold serial hbridge
        · obtain ⟨o, hlistener, -⟩ := hr _ hnew
          rw [hlistener] at hbridge
          cases hbridge
  obtain ⟨dispatchers, journal, hafter⟩ := Request.after_perform w B.dispatcher r
  rw [hafter] at hposts' ⊢
  exact ⟨h.source, hposts', h.placed, h.nodup, h.captured, h.holds, h.covered⟩

/-! ## Runs -/

theorem Move.leads {P : Host (Minutes σ) → Prop}
    (hP : ∀ host, P host → host.KeepsMinutes B.Leads) (h : B.Move P w w') : B.Leads w w' := by
  cases h with
  | elsewhere hstill => exact fun _ _ h => h.still hstill
  | join hhost hc service o hplace => exact join_leads (hP _ hhost) hc hplace w
  | @leave c _ service o => exact remove_leads (w.source c.id).notifier service o w
  | report hhost hc service => exact report_leads (hP _ hhost) hc service w
  | run hhost before after task _ hwaiting =>
    intro held owed h
    have htaken := h.take hwaiting
    have hcaptured : B.Captured σ task := by
      refine h.captured task ?_
      rw [hwaiting]
      exact List.mem_append_right _ List.mem_cons_self
    exact run_settles (hP _ hhost) hcaptured _ held owed htaken
  | dispatch hhost event hother => exact dispatch_leads (hP _ hhost) hother w
  | register o ho =>
    refine request_leads (fun l hl => ?_) w
    cases hl
    exact ⟨o, rfl, ho⟩
  | deregister l =>
    refine request_leads (fun l' hl' => ?_) w
    cases hl'

/-- By induction on the depth, all that happens leads from worlds in order to worlds in order. -/
theorem leads_nested (B : Board) :
    Nesting.KeepsTo B.Move (fun M host => host.KeepsMinutes M) (B.Leads (σ := σ)) :=
  ⟨(leads_disregardsLog B).refl, (leads_disregardsLog B).trans, Host.KeepsMinutes.mono, Move.leads⟩

theorem Ready.sound (h : B.Ready w) : B.Sound w.client.held [] w where
  source := h.source
  posts := h.posts
  placed n service hmem := absurd hmem (h.absent n service)
  nodup := h.nodup
  captured task htask := by
    rw [h.waiting] at htask
    cases htask
  holds := rfl
  covered event := by
    have hnone : w.client.heard.count (B.listener, event) = 0 :=
      List.count_eq_zero.2 (h.heard event)
    rw [hnone, h.waiting]
    exact Nat.zero_le _

/-- A listener that is added to one source for one service hears of what backends have answered
to reports of that service, to any source on the dispatcher, and of nothing else.  It does not
hear of an answer twice. -/
theorem heard_of_runs {start : World (Minutes σ)} (hready : B.Ready start)
    (hruns : B.Runs start w) :
    (∀ event, (B.listener, event) ∈ w.client.heard →
      ∃ c ∈ B.sources, ∃ instances,
        event = .raise c.name (.membership B.service instances) ∧
        (c.backend, B.service, instances) ∈ w.client.reported) ∧
    ∀ event, w.client.heard.count (B.listener, event) ≤
      w.client.reported.countP (B.announces event) := by
  have hsound : B.Sound start.client.held [] w :=
    (leads_nested B).runs hruns _ [] hready.sound
  have hcovered : ∀ event, w.client.heard.count (B.listener, event) ≤
      w.client.reported.countP (B.announces event) :=
    fun event => Nat.le_of_add_right_le (hsound.covered event)
  refine ⟨fun event hheard => ?_, hcovered⟩
  have hpos : 0 < w.client.reported.countP (B.announces event) :=
    Nat.lt_of_lt_of_le (List.count_pos_iff.2 hheard) (hcovered event)
  obtain ⟨answer, hanswer, hannounces⟩ := List.countP_pos_iff.1 hpos
  obtain ⟨b, service, instances⟩ := answer
  obtain ⟨c, hc, rfl, rfl, hevent⟩ := announces_iff.1 hannounces
  exact ⟨c, hc, instances, hevent, hanswer⟩

/-! ## Two sources that know one service -/

section Crossing

/-- Collaborators that keep the minutes and do nothing else.  Every backend has one instance of
every service. -/
def recording : Host (Minutes Unit) where
  onEvent l event := do
    modify fun w => w.hearing l event
    return none
  deliver _ := pure none
  handOff _ task := modify fun w => w.holding (w.client.waiting ++ [task])
  command _ _ := pure (.ok ())
  services _ := pure (.ok [])
  instances b service := do
    let answer := .ok [.ofAddress service "host" (.ofNat b.serial)]
    modify fun w => w.answering b service answer
    return answer
  watch _ _ _ := pure (.ok ())
  lookup _ _ _ := pure (.ok none)
  enter lease := do
    modify fun w => w.entering lease true
    return true
  leave _ := modify World.leaving

theorem recording_orderly (B : Board) : B.Orderly 0 recording where
  onEvent _ _ _ := .refl
  deliver _ _ := .refl
  handOff _ _ _ := .refl
  command _ _ _ := .refl
  services _ _ := .refl
  instances _ _ _ := .refl
  watch _ _ _ _ := .refl
  lookup _ _ _ _ := .refl
  enter _ _ := .refl
  leave _ _ := .refl

def one : Wire := ⟨⟨4⟩, "one", ⟨10⟩, ⟨0⟩, ⟨1⟩, 3⟩

def two : Wire := ⟨⟨6⟩, "two", ⟨20⟩, ⟨0⟩, ⟨2⟩, 5⟩

/-- The listener is added to the first source. -/
def mixed : Board where
  dispatcher := ⟨0⟩
  sources := [one, two]
  home := one
  service := "svc"
  listener := ⟨30⟩
  home_mem := List.mem_cons_self
  shared := by decide

theorem two_mem : two ∈ mixed.sources := List.mem_cons_of_mem _ List.mem_cons_self

/-- A dispatcher and two notifiers. -/
def unwired (executor : Executor) : World (Minutes Unit) :=
  (World.initial ⟨[], [], [], [], ()⟩).after do
    discard (Dispatcher.create executor)
    discard Notifier.create
    discard Notifier.create

/-- Two sources have been made on the dispatcher. -/
def wired (executor : Executor) : World (Minutes Unit) :=
  ((unwired executor).after (BackedSource.create "one" ⟨10⟩ ⟨0⟩ ⟨1⟩).run).after
    (BackedSource.create "two" ⟨20⟩ ⟨0⟩ ⟨2⟩).run

theorem wired_posts (executor : Executor) : mixed.Posts [one.pair, two.pair] (wired executor) where
  records := by
    have hcreated : Records ⟨0⟩ [] ((World.initial (⟨[], [], [], [], ()⟩ : Minutes Unit)).after
        (Dispatcher.create executor)) := .created executor rfl
    have hunwired : Records ⟨0⟩ [] (unwired executor) := hcreated.meanwhile rfl
    exact (hunwired.bridged "one" ⟨10⟩ ⟨1⟩).bridged "two" ⟨20⟩ ⟨2⟩
  absent := by decide
  alone := by
    intro pair hpair serial hbridge
    rcases List.mem_pair.1 hpair with rfl | rfl
    · exact (Listener.bridge.inj hbridge).1.symm
    · cases hbridge

theorem wired_ready (executor : Executor) : mixed.Ready (wired executor) where
  source := by
    intro c hc
    rcases List.mem_pair.1 hc with rfl | rfl
    · exact ⟨[], rfl⟩
    · exact ⟨[], rfl⟩
  posts := ⟨_, wired_posts executor⟩
  absent := by
    intro n service hmem
    have hnobody : (wired executor).audience n = .empty := by
      show ((OrderedMap.empty.insert ⟨1⟩ .empty).insert ⟨2⟩ .empty).getD n .empty = Audience.empty
      rw [OrderedMap.getD_insert, OrderedMap.getD_insert]
      split_ifs <;> rfl
    rw [World.observersAt, hnobody] at hmem
    cases hmem
  nodup := List.nodup_nil
  waiting := rfl
  heard event hmem := by cases hmem

/-- The listener has been added to the first source, and another one to the second. -/
def attended (executor : Executor) : World (Minutes Unit) :=
  let joined := (wired executor).after
    (BackedSource.addObserver recording one.id "svc" (.client ⟨30⟩)).run
  joined.after (BackedSource.addObserver recording two.id "svc" (.client ⟨31⟩)).run

theorem attended_runs (executor : Executor) : mixed.Runs (wired executor) (attended executor) := by
  have hhost : ∃ depth, mixed.Orderly depth recording := ⟨0, recording_orderly mixed⟩
  have hother : (.client ⟨31⟩ : Observer) ≠ .client mixed.listener := by decide
  have hfirst : mixed.Runs (wired executor) _ :=
    .single (.join hhost mixed.home_mem "svc" (.client ⟨30⟩) (fun _ => ⟨rfl, rfl⟩) _)
  exact hfirst.tail (.join hhost two_mem "svc" (.client ⟨31⟩) (fun heq => absurd heq hother) _)

/-- What the second source tells. -/
def crossed : Event := .raise "two" (.membership "svc" [.ofAddress "svc" "host" 20])

theorem after_notify_crossed {n : Ref .notifier} {l : Ref .listener} {y : World (Minutes Unit)}
    (hlist : (y.audience n).list? "svc" = some [.client l]) :
    y.after (Notifier.notify recording n crossed) =
      (y.note (.changeNotified "svc" 1 1)).hearing l crossed := by
  rw [Notifier.notify, crossed, Event.raise]
  dsimp only
  rw [World.after_bind, World.after_get, World.result_get, hlist]
  rfl

/-- Both bridges pass it on, and both listeners are called. -/
theorem heard_of_crossed {x y : World (Minutes Unit)}
    (hposts : mixed.Posts [one.pair, two.pair] x)
    (hlists : (y.audience one.notifier).list? "svc" = some [.client ⟨30⟩] ∧
      (y.audience two.notifier).list? "svc" = some [.client ⟨31⟩]) :
    (y.after ((captured x ⟨0⟩ crossed).run recording)).client =
      { y.client with heard := (⟨31⟩, crossed) :: (⟨30⟩, crossed) :: y.client.heard } := by
  obtain ⟨turns, hturns, hrun⟩ := hposts.records.told_run recording crossed y
  have hboth : InTurn y.priority crossed.kind [one.pair, two.pair] [one.pair, two.pair] :=
    ⟨of_decide_eq_true rfl, of_decide_eq_true rfl⟩
  obtain rfl := hturns.unique hboth
  have htold : Told recording crossed y [one.bridge, two.bridge]
      (y.after ((captured x ⟨0⟩ crossed).run recording)) := hrun _ (List.Perm.refl _)
  have hrest := told_bridge_cons.1 (told_bridge_cons.1 htold)
  have hnext := after_notify_crossed
    (y := (y.note (.changeNotified "svc" 1 1)).hearing ⟨30⟩ crossed) hlists.2
  rw [after_notify_crossed hlists.1, hnext] at hrest
  generalize y.after ((captured x ⟨0⟩ crossed).run recording) = final at hrest ⊢
  cases hrest
  rfl

/-- The second source has reported a change. -/
def fired (executor : Executor) : World (Minutes Unit) :=
  (attended executor).after (two.hook.fire recording "svc")

theorem fired_runs (executor : Executor) : mixed.Runs (wired executor) (fired executor) :=
  (attended_runs executor).tail
    (.report ⟨0, recording_orderly mixed⟩ two_mem "svc" (attended executor))

/-- The second source holds on to its backend, which has answered. -/
def answered (w : World (Minutes Unit)) : World (Minutes Unit) :=
  ((w.entering (.backend ⟨20⟩) true).answering ⟨20⟩ "svc" (.ok [.ofAddress "svc" "host" 20])).note
    (.changeReported "two" "svc" 1)

theorem after_fire (w : World (Minutes Unit)) :
    w.after (two.hook.fire recording "svc") =
      ((answered w).after (dispatch recording ⟨0⟩ crossed)).leaving := rfl

/-- A task that is handed over is waiting, and that is all. -/
theorem after_fire_deferred {w : World (Minutes Unit)}
    (hdeferred : (w.dispatcher ⟨0⟩).executor = .external ⟨0⟩) (hidle : w.client.waiting = []) :
    w.after (two.hook.fire recording "svc") =
      ((answered w).holding [captured (answered w) ⟨0⟩ crossed]).leaving := by
  have hanswered : ((answered w).dispatcher ⟨0⟩).executor = .external ⟨0⟩ := hdeferred
  rw [after_fire, after_dispatch, hanswered]
  show ((answered w).holding (w.client.waiting ++ _)).leaving = _
  rw [hidle, List.nil_append]

theorem dispatcher_join (b : Ref .backed) (service : String) (o : Observer)
    (id : Ref .dispatcher) (w : World (Minutes Unit)) :
    (w.after (BackedSource.addObserver recording b service o).run).dispatcher id =
      w.dispatcher id := by
  rcases BackedSource.addObserver_cases recording b service o w with
    ⟨-, -, hfinal⟩ | ⟨-, -, -, hfinal⟩ | ⟨cause, -, -, hfinal⟩ | ⟨payload, -, -, hfinal⟩
  all_goals
    rw [hfinal]
    rfl

theorem attended_posts (executor : Executor) :
    mixed.Posts [one.pair, two.pair] (attended executor) := by
  have hfirst := (wired_posts executor).meanwhile (dispatcher_join one.id "svc" (.client ⟨30⟩) _ _)
  exact hfirst.meanwhile (dispatcher_join two.id "svc" (.client ⟨31⟩) _ _)

theorem Posts.answered {pairs : List (String × Listener)} {w : World (Minutes Unit)}
    (h : mixed.Posts pairs w) : mixed.Posts pairs (answered w) :=
  h.meanwhile rfl

/-- The listener hears from a source to which it has not been added, of what a backend has
answered that is not the one of its own source. -/
theorem exists_heard_of_stranger :
    mixed.Ready (wired .direct) ∧ ∃ w, mixed.Runs (wired .direct) w ∧
      (mixed.listener, crossed) ∈ w.client.heard ∧ crossed.source ≠ mixed.home.name ∧
      ∀ answer ∈ w.client.reported, answer.1 ≠ mixed.home.backend := by
  let asked : World (Minutes Unit) := answered (attended .direct)
  let told : World (Minutes Unit) := asked.after ((captured asked ⟨0⟩ crossed).run recording)
  have hclient : told.client =
      { asked.client with heard := [(⟨31⟩, crossed), (⟨30⟩, crossed)] } :=
    heard_of_crossed (attended_posts .direct).answered (by decide +kernel)
  have hfired : fired .direct = told.leaving := by
    rw [fired, after_fire, after_dispatch]
    rfl
  have hheard : (fired .direct).client.heard = [(⟨31⟩, crossed), (⟨30⟩, crossed)] := by
    rw [hfired]
    exact congrArg Minutes.heard hclient
  have hreported : (fired .direct).client.reported =
      [(⟨20⟩, "svc", [.ofAddress "svc" "host" 20])] := by
    rw [hfired]
    exact congrArg Minutes.reported hclient
  refine ⟨wired_ready .direct, fired .direct, fired_runs .direct, ?_, by decide, ?_⟩
  · rw [hheard]
    exact List.mem_cons_of_mem _ List.mem_cons_self
  · rw [hreported]
    decide

/-- The same with an executor that runs the task later.  The call is covered by the answer of the
other backend, and by no more than this one. -/
theorem heard_of_runs_deferred :
    ∃ w, mixed.Ready (wired (.external ⟨0⟩)) ∧ mixed.Runs (wired (.external ⟨0⟩)) w ∧
      w.client.heard = [(⟨31⟩, crossed), (⟨30⟩, crossed)] ∧
      (∃ c ∈ mixed.sources, ∃ instances,
        crossed = .raise c.name (.membership mixed.service instances) ∧
        (c.backend, mixed.service, instances) ∈ w.client.reported) ∧
      w.client.heard.count (mixed.listener, crossed) ≤
        w.client.reported.countP (mixed.announces crossed) := by
  let start : World (Minutes Unit) := attended (.external ⟨0⟩)
  let task : Task := captured (answered start) ⟨0⟩ crossed
  let taken : World (Minutes Unit) := ((answered start).holding [task]).leaving.holding []
  let told : World (Minutes Unit) := taken.after (task.run recording)
  have hready := wired_ready (.external ⟨0⟩)
  have hfired : fired (.external ⟨0⟩) = ((answered start).holding [task]).leaving :=
    after_fire_deferred rfl rfl
  have hruns : mixed.Runs (wired (.external ⟨0⟩)) told := by
    have hwaiting := fired_runs (.external ⟨0⟩)
    rw [hfired] at hwaiting
    exact hwaiting.tail (.run ⟨0, recording_orderly mixed⟩ [] [] task _ rfl)
  have hclient : told.client =
      { taken.client with heard := [(⟨31⟩, crossed), (⟨30⟩, crossed)] } :=
    heard_of_crossed (attended_posts (.external ⟨0⟩)).answered (by decide +kernel)
  have hheard : told.client.heard = [(⟨31⟩, crossed), (⟨30⟩, crossed)] :=
    congrArg Minutes.heard hclient
  obtain ⟨hknown, hcovered⟩ := heard_of_runs hready hruns
  refine ⟨told, hready, hruns, hheard, hknown crossed ?_, hcovered crossed⟩
  rw [hheard]
  exact List.mem_cons_of_mem _ List.mem_cons_self

end Crossing

end ServiceDirectory.Board
