import ServiceDirectory.Proofs.Dispatcher.Reacting

/-!
# What a dispatch captures

A dispatch makes one task, and the task keeps the registrations of the moment of the dispatch.
Between that moment and the end of the task the dispatcher may be given further requests, by
the listeners of the task too, and further events may be dispatched.  None of this changes whom
the task calls.  It is seen by the dispatches that come after it.
-/

namespace ServiceDirectory.Dispatcher

variable {κ : Type} {id : Ref .dispatcher} {host : Host κ}
  {pairs pairs' pairs'' : List (String × Listener)} {u v w : World κ}

/-! ## What comes after a moment -/

/-- What the requests on a dispatcher make of a list of pairs from a world on.  Between the
requests all else may change. -/
inductive Passes (id : Ref .dispatcher) (pairs : List (String × Listener)) (w : World κ) :
    List (String × Listener) → World κ → Prop
  | begin : Passes id pairs w pairs w
  | refused {pairs' : List (String × Listener)} {v : World κ} (h : Passes id pairs w pairs' v)
      (r : Request) (hkind : v.declaredKind r.listener = none) :
      Passes id pairs w pairs' (v.after (r.perform id).run)
  | revised {pairs' : List (String × Listener)} {v : World κ} (h : Passes id pairs w pairs' v)
      (r : Request) (kind : EventKind) (hkind : v.declaredKind r.listener = some kind) :
      Passes id pairs w (r.revise kind.name pairs') (v.after (r.perform id).run)
  | meanwhile {pairs' : List (String × Listener)} {v v' : World κ}
      (h : Passes id pairs w pairs' v) (hsame : v'.dispatcher id = v.dispatcher id) :
      Passes id pairs w pairs' v'

theorem Passes.records (h : Passes id pairs w pairs' v) (hrecords : Records id pairs w) :
    Records id pairs' v := by
  induction h with
  | begin => exact hrecords
  | refused _ r hkind ih => exact ih.refused r hkind
  | revised _ r kind hkind ih => exact ih.revised r kind hkind
  | meanwhile _ hsame ih => exact ih.meanwhile hsame

theorem Passes.trans (h : Passes id pairs w pairs' v) (h' : Passes id pairs' v pairs'' u) :
    Passes id pairs w pairs'' u := by
  induction h' with
  | begin => exact h
  | refused _ r hkind ih => exact ih.refused r hkind
  | revised _ r kind hkind ih => exact ih.revised r kind hkind
  | meanwhile _ hsame ih => exact ih.meanwhile hsame

/-- Whatever has been done to a dispatcher between two worlds has been done by requests. -/
def Leads (id : Ref .dispatcher) (w v : World κ) : Prop :=
  ∀ pairs, ∃ pairs', Passes id pairs w pairs' v

theorem Leads.elsewhere (h : v.dispatcher id = w.dispatcher id) : Leads id w v :=
  fun pairs => ⟨pairs, Passes.begin.meanwhile h⟩

theorem leads_disregardsLog (id : Ref .dispatcher) : DisregardsLog (κ := κ) (Leads id) where
  refl _ := .elsewhere rfl
  trans h h' pairs := by
    obtain ⟨pairs', hfirst⟩ := h pairs
    obtain ⟨pairs'', hsecond⟩ := h' pairs'
    exact ⟨pairs'', hfirst.trans hsecond⟩
  note _ _ := .elsewhere rfl

theorem Leads.request (r : Request) (w : World κ) : Leads id w (w.after (r.perform id).run) := by
  intro pairs
  cases hkind : w.declaredKind r.listener with
  | none => exact ⟨pairs, Passes.begin.refused r hkind⟩
  | some kind => exact ⟨_, Passes.begin.revised r kind hkind⟩

/-! ## Tasks -/

/-- The task of a dispatch. -/
def captured (w : World κ) (id : Ref .dispatcher) (event : Event) : Task :=
  ⟨(w.dispatcher id).roster.buckets.entries, event⟩

/-- A dispatch runs its task or hands it over, and does nothing else. -/
theorem after_dispatch (host : Host κ) (id : Ref .dispatcher) (event : Event) (w : World κ) :
    w.after (dispatch host id event) =
      match (w.dispatcher id).executor with
      | .direct => w.after ((captured w id event).run host)
      | .external executor => w.after (host.handOff executor (captured w id event)) := by
  rw [dispatch, World.after_bind, World.after_get, World.result_get]
  dsimp only
  cases (w.dispatcher id).executor <;> rfl

theorem InTurn.mem_iff {priority : Listener → Int} {kind : EventKind}
    {turns : List (String × Listener)} (h : InTurn priority kind pairs turns)
    (pair : String × Listener) :
    pair ∈ turns ↔ pair ∈ pairs ∧ pair.1 ∈ kind.ancestors.map EventKind.name := by
  rw [h.called.mem_iff, List.mem_filter, decide_eq_true_iff]

/-- Whom a task calls is settled when its event is dispatched.  Whenever it is run and whatever
the dispatcher has been asked until then, it calls the listeners of the pairs of that moment
which are above the event, each pair once, by the priorities of the start of the task and then
in the order of registration.  What has been added since is not called, and what has been
removed since is.  A dispatch that comes after a request goes by what the request has left. -/
theorem turns_of_captured (h : Records id pairs w) (host : Host κ) (event : Event) :
    let task := captured w id event
    pairs.Nodup ∧
    w.after (dispatch host id event) =
      (match (w.dispatcher id).executor with
        | .direct => w.after (task.run host)
        | .external executor => w.after (host.handOff executor task)) ∧
    ∀ pairs' v, Passes id pairs w pairs' v →
      (∃ turns, InTurn v.priority event.kind pairs turns ∧
        (∀ buckets : Buckets, buckets.Perm task.buckets →
          Told host event v (turns.map Prod.snd) (v.after (Task.run host ⟨buckets, event⟩))) ∧
        (∀ pair ∈ pairs', pair ∉ pairs → pair ∉ turns) ∧
        ∀ pair ∈ pairs, pair ∉ pairs' → pair.1 ∈ event.kind.ancestors.map EventKind.name →
          pair ∈ turns) ∧
      (host.ReactsWithin (Leads id) → Leads id v (v.after (task.run host))) ∧
      ∀ (r : Request) (kind : EventKind), v.declaredKind r.listener = some kind →
        ∀ (event' : Event) (y : World κ),
          ∃ turns, InTurn y.priority event'.kind (r.revise kind.name pairs') turns ∧
            Told host event' y (turns.map Prod.snd)
              (y.after ((captured (v.after (r.perform id).run) id event').run host)) := by
  intro task
  refine ⟨h.pairs_nodup, after_dispatch host id event w, fun pairs' v hpasses => ⟨?_, ?_, ?_⟩⟩
  · obtain ⟨turns, hturns, hrun⟩ := h.told_run host event v
    exact ⟨turns, hturns, hrun, fun pair _ hnew hmem => hnew (hturns.subset hmem),
      fun pair hpair _ hkind => (hturns.mem_iff pair).2 ⟨hpair, hkind⟩⟩
  · intro hhost
    exact Task.run_keepsTo (leads_disregardsLog id) hhost task v
  · intro r kind hkind event' y
    have hrevised : Records id (r.revise kind.name pairs') (v.after (r.perform id).run) :=
      (hpasses.records h).revised r kind hkind
    obtain ⟨turns, hturns, hrun⟩ := hrevised.told_run host event' y
    exact ⟨turns, hturns, hrun _ (List.Perm.refl _)⟩

/-! ## A listener that meddles -/

section Meddling

def elder : Listener := .observer (.client ⟨1⟩)

def meddler : Listener := .observer (.client ⟨2⟩)

def newcomer : Listener := .observer (.client ⟨3⟩)

def greeting : Event := .raise "source" (.generic "hello")

/-- The listeners keep a list of the calls.  One of them has another one removed, and panics. -/
def meddling : Host (List (Ref .listener)) :=
  { Host.quiet with
    onEvent := fun l _ => do
      modify fun w => { w with client := w.client ++ [l] }
      if l = ⟨2⟩ then
        discard ((Request.remove elder).perform ⟨0⟩).run
        return some (.text "boom")
      else return none }

/-- A dispatcher that defers its tasks, and three listeners for all events. -/
def introduced : World (List (Ref .listener)) :=
  let w := (World.initial []).after (create (.external ⟨0⟩))
  ((w.setProfile ⟨1⟩ ⟨some .any, 5⟩).setProfile ⟨2⟩ ⟨some .any, 7⟩).setProfile ⟨3⟩ ⟨some .any, 9⟩

/-- Two of the listeners have been registered. -/
def enrolled : World (List (Ref .listener)) :=
  (introduced.after ((Request.add elder).perform ⟨0⟩).run).after
    ((Request.add meddler).perform ⟨0⟩).run

def enrolledPairs : List (String × Listener) := [("event", elder), ("event", meddler)]

theorem enrolled_records : Records ⟨0⟩ enrolledPairs enrolled := by
  have hcreated : Records ⟨0⟩ [] ((World.initial ([] : List (Ref .listener))).after
    (create (.external ⟨0⟩))) := .created _ rfl
  have hdeclared : Records ⟨0⟩ [] introduced := hcreated.meanwhile rfl
  exact (hdeclared.revised (.add elder) .any rfl).revised (.add meddler) .any rfl

/-- The event has been dispatched, and then the second listener puts itself before the first. -/
def hastened : World (List (Ref .listener)) :=
  (enrolled.after (dispatch meddling ⟨0⟩ greeting)).setProfile ⟨2⟩ ⟨some .any, 1⟩

/-- A third listener has been registered. -/
def joined : World (List (Ref .listener)) :=
  hastened.after ((Request.add newcomer).perform ⟨0⟩).run

def joinedPairs : List (String × Listener) := enrolledPairs ++ [("event", newcomer)]

theorem hastened_passes : Passes ⟨0⟩ enrolledPairs enrolled enrolledPairs hastened :=
  Passes.begin.meanwhile rfl

theorem joined_passes : Passes ⟨0⟩ enrolledPairs enrolled joinedPairs joined :=
  hastened_passes.revised (.add newcomer) .any rfl

theorem meddling_reactsWithin : meddling.ReactsWithin (Leads ⟨0⟩) where
  onEvent l event w := by
    by_cases hl : l = ⟨2⟩
    · subst hl
      exact (leads_disregardsLog ⟨0⟩).trans
        (Leads.elsewhere (v := { w with client := w.client ++ [⟨2⟩] }) rfl)
        (.request (.remove elder) _)
    · have hafter : w.after (meddling.onEvent l event) = { w with client := w.client ++ [l] } := by
        simp [meddling, hl]
      rw [hafter]
      exact .elsewhere rfl
  deliver _ _ := .elsewhere rfl
  handOff _ _ _ := .elsewhere rfl
  instances _ _ _ := .elsewhere rfl
  enter _ _ := .elsewhere rfl
  leave _ _ := .elsewhere rfl

/-- The task is run after a listener has been added.  It calls the two of old, the one that has
put itself first and the one that is removed meanwhile.  A later task calls the third as well. -/
theorem turns_of_captured_meddling :
    let task := captured enrolled ⟨0⟩ greeting
    let done := joined.after (task.run meddling)
    Records ⟨0⟩ enrolledPairs enrolled ∧ Passes ⟨0⟩ enrolledPairs enrolled joinedPairs joined ∧
      Told meddling greeting joined [meddler, elder] done ∧ done.client = [⟨2⟩, ⟨1⟩] ∧
      Leads ⟨0⟩ joined done ∧
      Told meddling greeting joined [meddler, elder, newcomer]
        (joined.after ((captured joined ⟨0⟩ greeting).run meddling)) := by
  intro task done
  obtain ⟨-, -, hlater⟩ := turns_of_captured enrolled_records meddling greeting
  obtain ⟨⟨turns, hturns, hrun, -⟩, hleads, -⟩ := hlater _ _ joined_passes
  obtain ⟨-, -, hseen⟩ := hlater _ _ hastened_passes
  obtain ⟨turns', hturns', htold'⟩ := hseen (.add newcomer) .any rfl greeting joined
  have hcalled : InTurn joined.priority greeting.kind enrolledPairs
      [("event", meddler), ("event", elder)] := ⟨by decide, by decide⟩
  have hcalled' : InTurn joined.priority greeting.kind joinedPairs
      [("event", meddler), ("event", elder), ("event", newcomer)] := ⟨by decide, by decide⟩
  obtain rfl := hturns.unique hcalled
  obtain rfl := hturns'.unique hcalled'
  have htold : Told meddling greeting joined [meddler, elder] done := hrun _ (List.Perm.refl _)
  refine ⟨enrolled_records, joined_passes, htold, ?_, hleads meddling_reactsWithin, htold'⟩
  clear_value done
  cases htold with
  | returned hreact _ => cases hreact
  | panicked hreact hrest =>
    cases hrest with
    | panicked hreact _ => cases hreact
    | returned _ hrest =>
      cases hrest
      rfl

end Meddling

end ServiceDirectory.Dispatcher
