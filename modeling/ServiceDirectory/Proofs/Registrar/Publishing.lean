import ServiceDirectory.Proofs.Registrar.Overhearing

/-!
# What a publishing registrar lets be heard

A listener for all events hears the calls of a publishing registrar from outside: an event before a
registration, and an event after each call that has succeeded.  In between the delegate is at work,
and whatever it makes the dispatcher tell is heard in between too.
-/

namespace ServiceDirectory

variable {κ : Type}

open Dispatcher

/-! ## Traces -/

/-- A call of a delegate: its answer, and what is heard while it is at work. -/
structure Engagement where
  call : BackendCommand
  result : Except Failure Unit
  meanwhile : List Event

/-- What is seen of a publishing registrar: the listener hears an event, or the delegate is
called. -/
inductive Occurrence
  | heard (event : Event)
  | called (engagement : Engagement)

/-- The call on the registrar that has engaged its delegate. -/
def Engagement.trace (source : String) (e : Engagement) : List Occurrence :=
  (Registrar.opening source e.call).map .heard ++ .called e ::
    match e.result with
    | .ok _ => [.heard (Registrar.closing source e.call)]
    | .error _ => []

/-- A run in which an event is dispatched, or the delegate is called, one after the other. -/
inductive Happens (host : Host κ) (d : Ref .dispatcher) (notebook : κ → List Event)
    (delegate : Registrar) : World κ → List Occurrence → World κ → Prop
  | done (w : World κ) : Happens host d notebook delegate w [] w
  | heard {w w' : World κ} {event : Event} {rest : List Occurrence}
    (hheard : notebook (w.after (dispatch host d event)).client = notebook w.client ++ [event])
    (hrest : Happens host d notebook delegate (w.after (dispatch host d event)) rest w') :
    Happens host d notebook delegate w (.heard event :: rest) w'
  | called {w w' : World κ} {e : Engagement} {rest : List Occurrence}
    (hresult : w.result (delegate.perform host e.call).run = e.result)
    (hheard : notebook (w.after (delegate.perform host e.call).run).client =
      notebook w.client ++ e.meanwhile)
    (hrest : Happens host d notebook delegate (w.after (delegate.perform host e.call).run) rest
      w') :
    Happens host d notebook delegate w (.called e :: rest) w'

/-- A backend reports changes of a service by the hooks that it has been given, and may do more
besides. -/
inductive Reports (host : Host κ) (d : Ref .dispatcher) (root : Ref .listener)
    (notebook : κ → List Event) (service : String) : World κ → List Event → World κ → Prop
  | done (w : World κ) : Reports host d root notebook service w [] w
  | fired {w w' : World κ} {hook : WatchHook} {instances : List Instance} {changes : List Event}
    (hhook : hook.dispatcher = d)
    (henter : w.result (host.enter (.backend hook.backend)) = true)
    (hasked : (w.after (host.enter (.backend hook.backend))).result
      (host.instances hook.backend service) = .ok instances)
    (hrest : Reports host d root notebook service (w.after (hook.fire host service)) changes w') :
    Reports host d root notebook service w
      (.raise hook.source (.membership service instances) :: changes) w'
  | acted {w v w' : World κ} {changes : List Event} (hacted : Continues d root notebook w v)
    (hrest : Reports host d root notebook service v changes w') :
    Reports host d root notebook service w changes w'

/-- What a delegate does in a call on its registrar. -/
def Registrar.engage (host : Host κ) (d : Ref .dispatcher) (notebook : κ → List Event)
    (source : String) (delegate : Registrar) (c : BackendCommand) (w : World κ) : Engagement :=
  let v := w.after ((opening source c).forM (dispatch host d))
  let u := v.after (delegate.perform host c).run
  ⟨c, v.result (delegate.perform host c).run,
    (notebook u.client).drop (notebook v.client).length⟩

def Registrar.engageEach (host : Host κ) (d : Ref .dispatcher) (notebook : κ → List Event)
    (source : String) (delegate : Registrar) : List BackendCommand → World κ → List Engagement
  | [], _ => []
  | c :: rest, w => engage host d notebook source delegate c w ::
      engageEach host d notebook source delegate rest
        (w.after ((publishing source delegate d).perform host c).run)

section Tracing

variable {host host' : Host κ} {d : Ref .dispatcher} {root : Ref .listener}
  {notebook : κ → List Event} {source : String} {delegate : Registrar} {w w' v : World κ}

theorem Happens.append {first second : List Occurrence}
    (h : Happens host d notebook delegate w first v)
    (h' : Happens host d notebook delegate v second w') :
    Happens host d notebook delegate w (first ++ second) w' := by
  induction h with
  | done w => exact h'
  | heard hheard _ ih => exact .heard hheard (ih h')
  | called hresult hheard _ ih => exact .called hresult hheard (ih h')

theorem Host.Notes.happens_opening (hhost : host.Notes d root notebook) {events : List Event}
    (hevents : ∀ event ∈ events, event.kind.IsPublished) (delegate : Registrar)
    (hattends : Attends d root w) :
    Happens host d notebook delegate w (events.map .heard)
        (w.after (events.forM (dispatch host d))) ∧
      Attends d root (w.after (events.forM (dispatch host d))) := by
  induction events generalizing w with
  | nil => exact ⟨.done w, hattends⟩
  | cons event rest ih =>
    rw [World.after_forM_cons]
    have htold := (hhost.dispatch_continues event w).attends hattends
    obtain ⟨hhappens, hafter⟩ :=
      ih (fun other hother => hevents other (List.mem_cons_of_mem _ hother)) htold
    have hheard := hhost.heard hattends (hevents event List.mem_cons_self)
    exact ⟨.heard hheard hhappens, hafter⟩

/-- One call happens as its trace says. -/
theorem Host.Notes.happens_perform (hhost : host.Notes d root notebook)
    (hattends : Attends d root w) (source : String) (delegate : Registrar) (c : BackendCommand) :
    Happens host d notebook delegate w
      ((delegate.engage host d notebook source c w).trace source)
      (w.after ((Registrar.publishing source delegate d).perform host c).run) := by
  obtain ⟨hopening, hopened⟩ :=
    hhost.happens_opening (isPublished_opening source c) delegate hattends
  rw [Registrar.after_publishing, Engagement.trace]
  refine hopening.append (.called rfl ?_ ?_)
  · obtain ⟨meanwhile, hmeanwhile⟩ := (hhost.perform_continues delegate c
      (w.after ((Registrar.opening source c).forM (dispatch host d)))).notebook
    rw [Registrar.engage]
    dsimp only
    rw [← hmeanwhile, List.drop_left]
  · have hcalled := (hhost.perform_continues delegate c _).attends hopened
    rw [Registrar.engage]
    dsimp only
    cases World.result _ (delegate.perform host c).run with
    | error _ => exact .done _
    | ok _ => exact .heard (hhost.heard hcalled (isPublished_closing source c)) (.done _)

/-- And so does a run of calls. -/
theorem Host.Notes.happens_performEach (hhost : host.Notes d root notebook)
    (hattends : Attends d root w) (source : String) (delegate : Registrar)
    (calls : List BackendCommand) :
    Happens host d notebook delegate w
      ((delegate.engageEach host d notebook source calls w).flatMap fun e => e.trace source)
      (w.after ((Registrar.publishing source delegate d).performEach host calls)) := by
  induction calls generalizing w with
  | nil => exact .done w
  | cons c rest ih =>
    have hfirst := hhost.happens_perform hattends source delegate c
    have hafter := (hhost.perform_continues (.publishing source delegate d) c w).attends hattends
    exact hfirst.append (ih hafter)

theorem calls_engageEach (host : Host κ) (d : Ref .dispatcher) (notebook : κ → List Event)
    (source : String) (delegate : Registrar) (calls : List BackendCommand) (w : World κ) :
    (delegate.engageEach host d notebook source calls w).map Engagement.call = calls := by
  induction calls generalizing w with
  | nil => rfl
  | cons c rest ih => exact congrArg (c :: ·) (ih _)

theorem result_performEach_publishing (host : Host κ) (d : Ref .dispatcher)
    (notebook : κ → List Event) (source : String) (delegate : Registrar)
    (calls : List BackendCommand) (w : World κ) :
    w.result ((Registrar.publishing source delegate d).performEach host calls) =
      (delegate.engageEach host d notebook source calls w).map Engagement.result := by
  induction calls generalizing w with
  | nil => rfl
  | cons c rest ih =>
    rw [Registrar.performEach, World.result_bind, World.result_bind, ih,
      Registrar.result_publishing]
    rfl

/-- What a backend reports is heard while it is at work. -/
theorem Reports.heard {service : String} {changes : List Event}
    (h : Reports host d root notebook service w changes w') (hhost : host.Notes d root notebook)
    (hattends : Attends d root w) :
    ∃ meanwhile, notebook w'.client = notebook w.client ++ meanwhile ∧
      changes.Sublist meanwhile := by
  have hR := continues_disregardsLog d root notebook
  induction h with
  | done w => exact ⟨[], (List.append_nil _).symm, .slnil⟩
  | @fired w w' hook instances changes hhook henter hasked _ ih =>
    obtain ⟨before, after, hheard⟩ := hhost.fire_heard hattends hhook henter hasked
    obtain ⟨later, hlater, hchanges⟩ :=
      ih ((hook.fire_keepsTo hR hhost.reacts service w).attends hattends)
    refine ⟨before ++ Event.raise hook.source (.membership service instances) :: (after ++ later),
      ?_, ?_⟩
    · rw [hlater, hheard]
      simp
    · exact ((hchanges.trans (List.sublist_append_right _ _)).cons_cons _).trans
        (List.sublist_append_right _ _)
  | acted hacted _ ih =>
    obtain ⟨later, hlater, hchanges⟩ := ih (hacted.attends hattends)
    obtain ⟨earlier, hearlier⟩ := hacted.notebook
    refine ⟨earlier ++ later, ?_, hchanges.trans (List.sublist_append_right _ _)⟩
    rw [hlater, ← hearlier, List.append_assoc]

/-- The changes that a backend reports while it registers an instance are heard between the two
events of the registration. -/
theorem Host.Notes.register_heard (hhost : host.Notes d root notebook) (hattends : Attends d root w)
    (source : String) (b : Ref .backed) (x : Instance) {changes : List Event} :
    let first : Event := .raise source (.instanceChange .preRegistered x)
    let v := w.after (dispatch host d first)
    let register := host.command (v.source b).backend (.register x)
    Reports host d root notebook x.service v changes (v.after register) →
    ∃ meanwhile, changes.Sublist meanwhile ∧
      notebook (w.after ((Registrar.publishing source (.backed b) d).perform host
          (.register x)).run).client =
        notebook w.client ++ first :: meanwhile ++ match v.result register with
          | .ok _ => [.raise source (.instanceChange .registered x)]
          | .error _ => [] := by
  intro first v register hreports
  have hfirst : notebook v.client = notebook w.client ++ [first] :=
    hhost.heard hattends InstanceChange.preRegistered.isPublished
  have hopened : Attends d root v := (hhost.dispatch_continues first w).attends hattends
  obtain ⟨meanwhile, hmeanwhile, hchanges⟩ := hreports.heard hhost hopened
  refine ⟨meanwhile, hchanges, ?_⟩
  have hcalled : Attends d root (v.after register) := (hhost.command _ _ v).attends hopened
  let last : Event := .raise source (.instanceChange .registered x)
  have hlast : notebook ((v.after register).after (dispatch host d last)).client =
      notebook (v.after register).client ++ [last] :=
    hhost.heard hcalled InstanceChange.registered.isPublished
  have hperformed : w.after ((Registrar.publishing source (.backed b) d).perform host
      (.register x)).run = match v.result register with
        | .ok _ => (v.after register).after (dispatch host d last)
        | .error _ => v.after register :=
    Registrar.after_publishing host w source (.backed b) d (.register x)
  rw [hperformed]
  cases v.result register with
  | error _ =>
    dsimp only
    rw [hmeanwhile, hfirst]
    simp
  | ok _ =>
    dsimp only
    rw [hlast, hmeanwhile, hfirst]
    simp [last]

/-! ## Without the panics -/

theorem World.SameButLog.continues (h : w.SameButLog v) : Continues d root notebook w v := by
  obtain ⟨journal, rfl⟩ := h
  exact .elsewhere rfl rfl

theorem Continues.sameButLog (h : Continues d root notebook w v) (hsame : v.SameButLog w') :
    Continues d root notebook w w' :=
  (continues_disregardsLog d root notebook).trans h hsame.continues

theorem World.SameButLog.refl (w : World κ) : w.SameButLog w := ⟨w.journal, rfl⟩

theorem World.SameButLog.client_eq (h : w.SameButLog v) : v.client = w.client := by
  obtain ⟨journal, rfl⟩ := h
  rfl

section

variable (h : host.SameButPanics host')

include h

theorem Host.Notes.sameButPanics (hhost : host.Notes d root notebook) :
    host'.Notes d root notebook where
  own event w := by
    rw [(h.onEvent root event (.refl w)).client_eq, hhost.own]
  others l event w hl hkind := by
    rw [(h.onEvent l event (.refl w)).client_eq, hhost.others l event w hl hkind]
  reacts :=
    { onEvent := fun l event w => (hhost.reacts.onEvent l event w).sameButLog
        (h.onEvent _ _ (.refl w))
      deliver := fun delivery w => (hhost.reacts.deliver delivery w).sameButLog
        (h.deliver _ (.refl w))
      handOff := fun executor task w => (hhost.reacts.handOff executor task w).sameButLog
        (h.handOff _ _ (.refl w))
      instances := fun b service w => (hhost.reacts.instances b service w).sameButLog
        (h.instances _ _ (.refl w)).2
      enter := fun lease w => (hhost.reacts.enter lease w).sameButLog (h.enter _ (.refl w)).2
      leave := fun lease w => (hhost.reacts.leave lease w).sameButLog (h.leave _ (.refl w)) }
  command b c w := (hhost.command b c w).sameButLog (h.command b c (.refl w)).2

theorem engage_sameButPanics (hw : w.SameButLog v) (d : Ref .dispatcher)
    (notebook : κ → List Event) (source : String) (delegate : Registrar) (c : BackendCommand) :
    delegate.engage host' d notebook source c v = delegate.engage host d notebook source c w := by
  have hopened :=
    Dispatcher.dispatchEach_sameEffects h.toReactsAlike d (Registrar.opening source c) hw
  obtain ⟨hresult, hcalled⟩ := delegate.perform_sameRuns h c hopened
  rw [Registrar.engage, Registrar.engage, hopened.client_eq, hcalled.client_eq, hresult]

/-- The delegate answers and is heard in the same way, whoever panics. -/
theorem engageEach_sameButPanics (hw : w.SameButLog v) (d : Ref .dispatcher)
    (notebook : κ → List Event) (source : String) (delegate : Registrar)
    (calls : List BackendCommand) :
    delegate.engageEach host' d notebook source calls v =
      delegate.engageEach host d notebook source calls w := by
  induction calls generalizing w v with
  | nil => rfl
  | cons c rest ih =>
    have hcalled := (Registrar.publishing source delegate d).perform_sameRuns h c hw
    rw [Registrar.engageEach, Registrar.engageEach, engage_sameButPanics h hw d notebook source
      delegate c, ih hcalled.2]

end

/-- What a listener for all events hears of a publishing registrar.  Call by call, it hears that an
instance is about to be registered, then the delegate is called, and then it hears of the call, with
the instance as it was passed, if and only if the delegate has succeeded.  The answers are those of
the delegate.  When the delegate is a backed source, all changes that its backend reports while an
instance is registered are heard between the two events of the registration.  Listeners that panic
where they have returned, or return where they have panicked, change neither what is seen nor what
is answered. -/
theorem trace_of_calls (hhost : host.Notes d root notebook) (hattends : Attends d root w)
    (source : String) (delegate : Registrar) (calls : List BackendCommand) :
    let r := Registrar.publishing source delegate d
    let final := w.after (r.performEach host calls)
    Attends d root final ∧
    (∃ engagements : List Engagement,
      engagements.map Engagement.call = calls ∧
      w.result (r.performEach host calls) = engagements.map Engagement.result ∧
      Happens host d notebook delegate w (engagements.flatMap fun e => e.trace source) final ∧
      ∀ host' : Host κ, host.SameButPanics host' →
        w.result (r.performEach host' calls) = engagements.map Engagement.result ∧
        Happens host' d notebook delegate w (engagements.flatMap fun e => e.trace source)
          (w.after (r.performEach host' calls)) ∧
        final.SameButLog (w.after (r.performEach host' calls))) ∧
    ∀ (b : Ref .backed) (x : Instance) (changes : List Event), delegate = .backed b →
      let first : Event := .raise source (.instanceChange .preRegistered x)
      let v := w.after (dispatch host d first)
      let register := host.command (v.source b).backend (.register x)
      Reports host d root notebook x.service v changes (v.after register) →
      ∃ meanwhile, changes.Sublist meanwhile ∧
        notebook (w.after (r.perform host (.register x)).run).client =
          notebook w.client ++ first :: meanwhile ++ match v.result register with
            | .ok _ => [.raise source (.instanceChange .registered x)]
            | .error _ => [] := by
  intro r final
  refine ⟨?_, ⟨delegate.engageEach host d notebook source calls w,
    calls_engageEach host d notebook source delegate calls w,
    result_performEach_publishing host d notebook source delegate calls w,
    hhost.happens_performEach hattends source delegate calls, fun host' h => ?_⟩, ?_⟩
  · exact (hhost.performEach_continues r calls w).attends hattends
  · have hengaged := engageEach_sameButPanics h (.refl w) d notebook source delegate calls
    refine ⟨?_, ?_, (r.performEach_sameRuns h calls (.refl w)).2⟩
    · rw [← hengaged]
      exact result_performEach_publishing host' d notebook source delegate calls w
    · rw [← hengaged]
      exact (hhost.sameButPanics h).happens_performEach hattends source delegate calls
  · rintro b x changes rfl first v register hreports
    exact hhost.register_heard hattends source b x hreports

end Tracing

/-! ## A listener that panics at each event -/

section Startling

def newcomer : Instance := .ofAddress "svc" "h" 1

/-- The first listener keeps the notebook.  Whether a listener panics is settled beforehand. -/
def startling (panics : Ref .listener → Bool) : Host (List Event) :=
  { Host.quiet with
    onEvent := fun l event => do
      if l = ⟨1⟩ then modify fun w => { w with client := w.client ++ [event] }
      return if panics l then some (.text "boom") else none
    instances := fun _ _ => pure (.ok [newcomer]) }

def mockHook : WatchHook := ⟨⟨20⟩, ⟨0⟩, "mock"⟩

/-- The backend reports a change while it registers an instance, and cannot update one. -/
def reporting (panics : Ref .listener → Bool) : Host (List Event) :=
  { startling panics with
    command := fun _ c => match c with
      | .register x => do
        mockHook.fire (startling panics) x.service
        return .ok ()
      | .update _ => return .error (.collaborator "read only")
      | _ => return .ok () }

/-- Both listeners declare all events. -/
def wideAwake : World (List Event) :=
  (((World.initial []).after (create .direct)).setProfile ⟨1⟩ ⟨some .any, 1⟩).setProfile ⟨2⟩
    ⟨some .any, 0⟩

/-- Both have been registered. -/
def frequented : World (List Event) :=
  (wideAwake.after ((Request.add (.observer (.client ⟨1⟩))).perform ⟨0⟩).run).after
    ((Request.add (.observer (.client ⟨2⟩))).perform ⟨0⟩).run

/-- A backed source has been made on the dispatcher. -/
def overheard : World (List Event) :=
  (frequented.after Notifier.create).after (BackedSource.create "mock" ⟨20⟩ ⟨0⟩ ⟨1⟩).run

def overheardPairs : List (String × Listener) :=
  [("event", .observer (.client ⟨1⟩)), ("event", .observer (.client ⟨2⟩)),
    ("service-discovery-change", .bridge 2 ⟨1⟩)]

theorem overheard_attends : Attends ⟨0⟩ ⟨1⟩ overheard := by
  have hcreated : Records ⟨0⟩ [] ((World.initial ([] : List Event)).after (create .direct)) :=
    .created _ rfl
  have hrecords : Records ⟨0⟩ [] wideAwake := hcreated.meanwhile rfl
  have hadded := (hrecords.revised (.add (.observer (.client ⟨1⟩))) .any rfl).revised
    (.add (.observer (.client ⟨2⟩))) .any rfl
  have hnumbered : Records ⟨0⟩
      [("event", .observer (.client ⟨1⟩)), ("event", .observer (.client ⟨2⟩))]
      { frequented.after Notifier.create with next := 3 } := hadded.meanwhile rfl
  have hbridged : Records ⟨0⟩ overheardPairs overheard :=
    (hnumbered.revised (.add (.bridge 2 ⟨1⟩)) .membership rfl).meanwhile rfl
  refine ⟨rfl, overheardPairs, hbridged, fun kind => ?_⟩
  simp [overheardPairs, EventKind.any, EventKind.name]

variable (panics calm : Ref .listener → Bool)

theorem startling_reactsWithin :
    (startling panics).ReactsWithin (Continues ⟨0⟩ ⟨1⟩ id) where
  onEvent l event w := by
    by_cases hl : l = ⟨1⟩
    · subst hl
      exact ⟨fun h => h.elsewhere rfl, List.prefix_append _ _⟩
    · have hafter : w.after ((startling panics).onEvent l event) = w := by
        simp [startling, hl]
      rw [hafter]
      exact .elsewhere rfl rfl
  deliver _ _ := .elsewhere rfl rfl
  handOff _ _ _ := .elsewhere rfl rfl
  instances _ _ _ := .elsewhere rfl rfl
  enter _ _ := .elsewhere rfl rfl
  leave _ _ := .elsewhere rfl rfl

theorem reporting_notes : (reporting panics).Notes ⟨0⟩ ⟨1⟩ id where
  own _ _ := rfl
  others l event w hl _ := by
    have hafter : w.after ((reporting panics).onEvent l event) = w := by
      simp [reporting, startling, hl]
    rw [hafter]
  reacts := { startling_reactsWithin panics with }
  command b c w := by
    cases c with
    | register x =>
      exact mockHook.fire_keepsTo (continues_disregardsLog _ _ _) (startling_reactsWithin panics)
        x.service w
    | _ => exact .elsewhere rfl rfl

theorem startling_reactsAlike : (startling panics).ReactsAlike (startling calm) where
  onEvent l event := by
    by_cases hl : l = ⟨1⟩
    · subst hl
      rintro w _ ⟨journal, rfl⟩
      exact ⟨journal, rfl⟩
    · rintro w _ ⟨journal, rfl⟩
      refine ⟨journal, ?_⟩
      simp [startling, hl]
  deliver _ := .pure _ _
  handOff _ _ := .pure _ _
  instances _ _ := .pure _
  enter _ := .pure _
  leave _ := .pure _ _

theorem reporting_sameButPanics : (reporting panics).SameButPanics (reporting calm) where
  toReactsAlike := { startling_reactsAlike panics calm with }
  command b c := by
    cases c with
    | register x =>
      exact (mockHook.fire_sameEffects (startling_reactsAlike panics calm) x.service).then_pure _
    | _ => exact .pure _

theorem reporting_reports (b : Ref .backed) (w : World (List Event)) :
    Reports (reporting panics) ⟨0⟩ ⟨1⟩ id "svc" w [.raise "mock" (.membership "svc" [newcomer])]
      (w.after ((reporting panics).command (w.source b).backend (.register newcomer))) := by
  have halike : (reporting panics).ReactsAlike (startling panics) :=
    { startling_reactsAlike panics panics with }
  have hsame := mockHook.fire_sameEffects halike "svc" (.refl w)
  exact .fired rfl rfl rfl (.acted hsame.continues (.done _))

theorem trace_of_calls_overheard :
    let r := Registrar.publishing "reg" (.backed ⟨3⟩) ⟨0⟩
    let calls : List BackendCommand := [.register newcomer, .update newcomer, .stop]
    let results : List (Except Failure Unit) := [.ok (), .error (.collaborator "read only"), .ok ()]
    let startled := reporting fun _ => true
    let calm := reporting fun _ => false
    startled.Notes ⟨0⟩ ⟨1⟩ id ∧ Attends ⟨0⟩ ⟨1⟩ overheard ∧ startled.SameButPanics calm ∧
      (∃ engagements : List Engagement, engagements.map Engagement.result = results ∧
        Happens startled ⟨0⟩ id (.backed ⟨3⟩) overheard (engagements.flatMap fun e => e.trace "reg")
          (overheard.after (r.performEach startled calls)) ∧
        Happens calm ⟨0⟩ id (.backed ⟨3⟩) overheard (engagements.flatMap fun e => e.trace "reg")
          (overheard.after (r.performEach calm calls))) ∧
      ∃ meanwhile, .raise "mock" (.membership "svc" [newcomer]) ∈ meanwhile ∧
        (overheard.after (r.perform startled (.register newcomer)).run).client =
          .raise "reg" (.instanceChange .preRegistered newcomer) :: meanwhile ++
            [.raise "reg" (.instanceChange .registered newcomer)] := by
  intro r calls results startled calm
  have hnotes := reporting_notes fun _ => true
  have hsame := reporting_sameButPanics (fun _ => true) fun _ => false
  obtain ⟨-, ⟨engagements, -, hresult, hhappens, hcalm⟩, hnested⟩ :=
    trace_of_calls hnotes overheard_attends "reg" (.backed ⟨3⟩) calls
  refine ⟨hnotes, overheard_attends, hsame,
    ⟨engagements, hresult.symm, hhappens, (hcalm calm hsame).2.1⟩, ?_⟩
  obtain ⟨meanwhile, hchanges, hheard⟩ := hnested ⟨3⟩ newcomer
    [.raise "mock" (.membership "svc" [newcomer])] rfl (reporting_reports _ ⟨3⟩ _)
  exact ⟨meanwhile, List.singleton_sublist.1 hchanges, hheard⟩

end Startling

end ServiceDirectory
