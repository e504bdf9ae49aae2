import ServiceDirectory.Dispatcher.Dispatch
import ServiceDirectory.Proofs.Dispatcher.Ledger
import ServiceDirectory.Proofs.World.After
import ServiceDirectory.Proofs.World.Fields

/-!
# Whom a dispatch calls

To its clients a dispatcher is a list of pairs, each of a kind and a listener, in the order in
which they were added.  An event is told to the listeners of the pairs whose kind is above it,
once for each pair, by the priorities of the moment and then by the places of the pairs.  That
the pairs are kept in buckets, and in which order a map gives its buckets, is not seen.
-/

namespace ServiceDirectory

variable {κ : Type}

namespace Dispatcher

/-! ## Requests -/

/-- A call that changes who listens on a dispatcher. -/
inductive Request
  | add (l : Listener)
  | remove (l : Listener)

namespace Request

def listener : Request → Listener
  | add l => l
  | remove l => l

def perform (id : Ref .dispatcher) : Request → Call κ Unit
  | add l => addListener id l
  | remove l => removeListener id l

/-- What a request makes of a list of pairs when its listener declares the kind of a name. -/
def revise (kind : String) (pairs : List (String × Listener)) :
    Request → List (String × Listener)
  | add l => Ledger.addPair pairs (kind, l)
  | remove l => pairs.filter fun pair => pair ≠ (kind, l)

/-- What it makes of a roster then. -/
def edit (priority : Listener → Int) (kind : String) (roster : Roster) : Request → Roster
  | add l => roster.add priority kind l
  | remove l => roster.remove priority kind l

variable {w : World κ} {id : Ref .dispatcher} {r : Request}

/-- A request about a listener that declares no kind is refused and changes nothing. -/
theorem perform_of_undeclared (h : w.declaredKind r.listener = none) :
    w.result (r.perform id).run = .error .undeclaredListener ∧ w.after (r.perform id).run = w := by
  cases r with
  | add l =>
    rw [listener] at h
    rw [perform, addListener, World.result_get_bind_except, World.after_get_bind_except, h]
    exact ⟨rfl, rfl⟩
  | remove l =>
    rw [listener] at h
    rw [perform, removeListener, World.result_get_bind_except, World.after_get_bind_except, h]
    exact ⟨rfl, rfl⟩

/-- Any other request is granted. -/
theorem perform_of_declared {kind : EventKind} (h : w.declaredKind r.listener = some kind) :
    w.result (r.perform id).run = .ok () ∧
      (w.after (r.perform id).run).dispatcher id =
        { w.dispatcher id with
          roster := r.edit w.priority kind.name (w.dispatcher id).roster } := by
  have hset : ∀ d : Dispatcher, (w.setDispatcher id d).dispatcher id = d := by
    intro d
    rw [World.dispatcher_setDispatcher, if_pos rfl]
  cases r with
  | add l =>
    rw [listener] at h
    rw [perform, addListener, World.result_get_bind_except, World.after_get_bind_except, h]
    exact ⟨rfl, hset _⟩
  | remove l =>
    rw [listener] at h
    rw [perform, removeListener, World.result_get_bind_except, World.after_get_bind_except, h]
    exact ⟨rfl, hset _⟩

/-- In either case all else is left as it is. -/
theorem after_perform (w : World κ) (id : Ref .dispatcher) (r : Request) :
    ∃ dispatchers journal, w.after (r.perform id).run = { w with dispatchers, journal } := by
  cases hkind : w.declaredKind r.listener with
  | none => exact ⟨w.dispatchers, w.journal, (perform_of_undeclared hkind).2⟩
  | some kind =>
    cases r with
    | add l =>
      rw [listener] at hkind
      rw [perform, addListener, World.after_get_bind_except, hkind]
      exact ⟨_, _, rfl⟩
    | remove l =>
      rw [listener] at hkind
      rw [perform, removeListener, World.after_get_bind_except, hkind]
      exact ⟨_, _, rfl⟩

/-- Only the listener of an addition is new among the pairs. -/
theorem mem_of_mem_revise {kind : String} {pairs : List (String × Listener)}
    {pair : String × Listener} (h : pair ∈ r.revise kind pairs) :
    pair ∈ pairs ∨ pair.1 = kind ∧ r = .add pair.2 := by
  cases r with
  | add l =>
    rw [revise, Ledger.addPair] at h
    split_ifs at h
    · exact Or.inl h
    · refine (List.mem_append.1 h).imp_right fun hnew => ?_
      rw [List.mem_singleton.1 hnew]
      exact ⟨rfl, rfl⟩
  | remove l => exact Or.inl (List.mem_of_mem_filter h)

theorem result_perform (w : World κ) (id : Ref .dispatcher) (r : Request) :
    w.result (r.perform id).run =
      if w.declaredKind r.listener = none then .error .undeclaredListener else .ok () := by
  cases hkind : w.declaredKind r.listener with
  | none => exact (perform_of_undeclared hkind).1
  | some kind => exact (perform_of_declared hkind).1

/-- The buckets follow the list of pairs. -/
theorem edit_keeps {roster : Roster} {ledger : Ledger} (h : roster.Keeps ledger)
    (priority : Listener → Int) (kind : String) (r : Request) :
    ∃ ledger' : Ledger, ledger'.pairs = r.revise kind ledger.pairs ∧
      (r.edit priority kind roster).Keeps ledger' := by
  cases r with
  | add l => exact ⟨_, ledger.pairs_add kind ⟨l, roster.next⟩, h.add priority kind l⟩
  | remove l => exact ⟨_, ledger.pairs_remove kind l, h.remove priority kind l⟩

end Request

/-- The requests that a dispatcher has been given since it was made leave these pairs.
Listeners may declare another kind or priority at any time, and all else may change too. -/
inductive Records (id : Ref .dispatcher) : List (String × Listener) → World κ → Prop
  | created {w : World κ} (executor : Executor) (hid : w.result (create executor) = id) :
      Records id [] (w.after (create executor))
  | refused {pairs : List (String × Listener)} {w : World κ} (h : Records id pairs w)
      (r : Request) (hkind : w.declaredKind r.listener = none) :
      Records id pairs (w.after (r.perform id).run)
  | revised {pairs : List (String × Listener)} {w : World κ} (h : Records id pairs w)
      (r : Request) (kind : EventKind) (hkind : w.declaredKind r.listener = some kind) :
      Records id (r.revise kind.name pairs) (w.after (r.perform id).run)
  | meanwhile {pairs : List (String × Listener)} {w w' : World κ} (h : Records id pairs w)
      (hsame : w'.dispatcher id = w.dispatcher id) : Records id pairs w'

theorem Records.keeps {id : Ref .dispatcher} {pairs : List (String × Listener)} {w : World κ}
    (h : Records id pairs w) :
    ∃ ledger : Ledger, ledger.pairs = pairs ∧ (w.dispatcher id).roster.Keeps ledger := by
  induction h with
  | @created w executor hid =>
    have hroster : ((w.after (create executor)).dispatcher id).roster = .empty := by
      show ((World.setDispatcher _ (w.result (create executor)) _).dispatcher id).roster = _
      rw [World.dispatcher_setDispatcher, if_pos hid]
    exact ⟨[], rfl, hroster ▸ Roster.keeps_empty⟩
  | refused _ r hkind ih =>
    rw [(Request.perform_of_undeclared hkind).2]
    exact ih
  | @revised _ w _ r kind hkind ih =>
    obtain ⟨ledger, rfl, hkeeps⟩ := ih
    rw [(Request.perform_of_declared hkind).2]
    exact Request.edit_keeps hkeeps w.priority kind.name r
  | meanwhile _ hsame ih => exact hsame ▸ ih

/-! ## Turns -/

/-- The pairs whose kind is above the kind of an event, by priority and then by place. -/
structure InTurn (priority : Listener → Int) (kind : EventKind)
    (pairs turns : List (String × Listener)) : Prop where
  called : turns.Perm (pairs.filter fun pair => pair.1 ∈ kind.ancestors.map EventKind.name)
  order : turns.Pairwise fun p q => priority p.2 < priority q.2 ∨
    (priority p.2 = priority q.2 ∧ pairs.idxOf p < pairs.idxOf q)

/-- There is one such order only. -/
theorem InTurn.unique {priority : Listener → Int} {kind : EventKind}
    {pairs turns turns' : List (String × Listener)} (h : InTurn priority kind pairs turns)
    (h' : InTurn priority kind pairs turns') : turns = turns' := by
  refine List.Perm.eq_of_pairwise ?_ h.order h'.order (h.called.trans h'.called.symm)
  intro p q _ _ hpq hqp
  omega

/-- What the buckets give for an event, in whatever order they are walked, are the listeners of
the pairs in turn. -/
theorem InTurn.exists_of_keeps {roster : Roster} {ledger : Ledger} (h : roster.Keeps ledger)
    (priority : Listener → Int) (kind : EventKind) :
    ∃ turns, InTurn priority kind ledger.pairs turns ∧
      ∀ buckets : Buckets, buckets.Perm roster.buckets.entries →
        (buckets.matching priority kind).map Registration.listener = turns.map Prod.snd := by
  obtain ⟨turns, hperm, horder, hlisteners⟩ := h.exists_sorted priority kind.isNamedAbove
  refine ⟨turns, ⟨?_, horder⟩, hlisteners⟩
  refine hperm.trans (List.Perm.of_eq (List.filter_congr fun pair _ => ?_))
  rw [Bool.eq_iff_iff, EventKind.isNamedAbove_iff, decide_eq_true_iff]

/-! ## Telling listeners one after the other -/

/-- Listeners are told of an event one after the other.  A panic of one of them adds one error
to the log and does not keep the next one from being told. -/
inductive Told (host : Host κ) (event : Event) : World κ → List Listener → World κ → Prop
  | done (w : World κ) : Told host event w [] w
  | returned {w w' : World κ} {l : Listener} {rest : List Listener}
      (hreact : w.result (l.react host event) = none)
      (hrest : Told host event (w.after (l.react host event)) rest w') :
      Told host event w (l :: rest) w'
  | panicked {w w' : World κ} {l : Listener} {rest : List Listener} {payload : Payload}
      (hreact : w.result (l.react host event) = some payload)
      (hrest : Told host event
        ((w.after (l.react host event)).note (.listenerPanicked event.kind.name event.source
          ((w.after (l.react host event)).priority l) payload.shown)) rest w') :
      Told host event w (l :: rest) w'

theorem told_forM {α : Type} (host : Host κ) (event : Event) (listener : α → Listener)
    (items : List α) (w : World κ) :
    Told host event w (items.map listener)
      (w.after (items.forM fun a => discard ((listener a).invoke host event))) := by
  -- Each listener may change the world, so the induction is for all worlds.
  induction items generalizing w with
  | nil => exact .done w
  | cons first rest ih =>
    rw [World.after_forM_cons, World.after_discard, Listener.invoke, contain, World.after_bind]
    cases hreact : w.result ((listener first).react host event) with
    | none => exact .returned hreact (ih _)
    | some payload => exact .panicked hreact (ih _)

theorem told_run (host : Host κ) (task : Task) (w : World κ) :
    Told host task.event w
      ((task.buckets.matching w.priority task.event.kind).map Registration.listener)
      (w.after (task.run host)) := by
  rw [Task.run, World.after_bind, World.after_get, World.result_get]
  exact told_forM host task.event Registration.listener _ w

/-- A dispatcher behaves as the list of the pairs that its requests leave.  A dispatch tells the
listeners of the pairs above the event in turn, by the priorities that they have when it
begins, and it does so in whatever order the buckets are walked and whoever panics. -/
theorem turns_of_records {id : Ref .dispatcher} {pairs : List (String × Listener)} {w : World κ}
    (h : Records id pairs w) :
    pairs.Nodup ∧
    (∀ r : Request, w.result (r.perform id).run =
      if w.declaredKind r.listener = none then .error .undeclaredListener else .ok ()) ∧
    (∀ kind, listenerCount w id kind = pairs.countP fun pair => pair.1 = kind.name) ∧
    ∀ (host : Host κ) (event : Event), ∃ turns, InTurn w.priority event.kind pairs turns ∧
      (∀ buckets : Buckets, buckets.Perm (w.dispatcher id).roster.buckets.entries →
        Told host event w (turns.map Prod.snd) (w.after (Task.run host ⟨buckets, event⟩))) ∧
      ((w.dispatcher id).executor = .direct →
        Told host event w (turns.map Prod.snd) (w.after (dispatch host id event))) := by
  obtain ⟨ledger, rfl, hkeeps⟩ := h.keeps
  refine ⟨hkeeps.numbered.pairs_nodup, fun r => r.result_perform w id,
    fun kind => hkeeps.count_eq kind.name, fun host event => ?_⟩
  obtain ⟨turns, hturns, hlisteners⟩ := InTurn.exists_of_keeps hkeeps w.priority event.kind
  have hrun : ∀ buckets : Buckets, buckets.Perm (w.dispatcher id).roster.buckets.entries →
      Told host event w (turns.map Prod.snd) (w.after (Task.run host ⟨buckets, event⟩)) := by
    intro buckets hbuckets
    rw [← hlisteners buckets hbuckets]
    exact told_run host ⟨buckets, event⟩ w
  refine ⟨turns, hturns, hrun, fun hdirect => ?_⟩
  have hdispatch : w.after (dispatch host id event) =
      w.after (Task.run host ⟨(w.dispatcher id).roster.buckets.entries, event⟩) := by
    rw [dispatch, World.after_bind, World.after_get, World.result_get]
    dsimp only
    rw [hdirect]
  rw [hdispatch]
  exact hrun _ (List.Perm.refl _)

/-! ## A listener that changes its mind -/

section Restless

def echo : EventKind := .child "echo" .any

def roamer : Listener := .observer (.client ⟨1⟩)

def jumper : Listener := .observer (.client ⟨2⟩)

/-- The second listener panics. -/
def jumpy : Host Unit :=
  { Host.quiet with
    onEvent := fun l _ => pure (if l = ⟨2⟩ then some (.text "boom") else none) }

/-- Both listeners declare all events. -/
def declared : World Unit :=
  (((World.initial ()).after (create .direct)).setProfile ⟨1⟩ ⟨some .any, 1⟩).setProfile ⟨2⟩
    ⟨some .any, 5⟩

/-- Both have been registered, and then the first one declares another kind. -/
def moved : World Unit :=
  ((declared.after ((Request.add roamer).perform ⟨0⟩).run).after
    ((Request.add jumper).perform ⟨0⟩).run).setProfile ⟨1⟩ ⟨some echo, 1⟩

/-- The first one has been registered once more.  Then it declares no kind and lets the other
one go before it, and a request to remove it is refused. -/
def restless : World Unit :=
  ((moved.after ((Request.add roamer).perform ⟨0⟩).run).setProfile ⟨1⟩ ⟨none, 9⟩).after
    ((Request.remove roamer).perform ⟨0⟩).run

def restlessPairs : List (String × Listener) :=
  [("event", roamer), ("event", jumper), ("echo", roamer)]

theorem restless_records : Records ⟨0⟩ restlessPairs restless := by
  have hcreated : Records ⟨0⟩ [] ((World.initial ()).after (create .direct)) := .created _ rfl
  have hdeclared : Records ⟨0⟩ [] declared := hcreated.meanwhile rfl
  have hadded := (hdeclared.revised (.add roamer) .any rfl).revised (.add jumper) .any rfl
  have hmoved : Records ⟨0⟩ [("event", roamer), ("event", jumper)] moved := hadded.meanwhile rfl
  have htwice := hmoved.revised (.add roamer) echo rfl
  have hsilent : Records ⟨0⟩ restlessPairs
      ((moved.after ((Request.add roamer).perform ⟨0⟩).run).setProfile ⟨1⟩ ⟨none, 9⟩) :=
    htwice.meanwhile rfl
  exact hsilent.refused (.remove roamer) rfl

/-- The listener of the higher number comes last, once for each of its pairs, and the panic is
logged once. -/
theorem turns_of_records_restless :
    let event : Event := .raise "source" (.custom echo "hello")
    let told : World Unit := restless.after (dispatch jumpy ⟨0⟩ event)
    Records ⟨0⟩ restlessPairs restless ∧ listenerCount restless ⟨0⟩ .any = 2 ∧
      Told jumpy event restless [jumper, roamer, roamer] told ∧
      Told jumpy event restless [jumper, roamer, roamer] (restless.after
        (Task.run jumpy ⟨(restless.dispatcher ⟨0⟩).roster.buckets.entries.reverse, event⟩)) ∧
      told.journal = .listenerPanicked "echo" "source" 5 "boom" :: restless.journal := by
  intro event told
  obtain ⟨-, -, hcount, hdispatch⟩ := turns_of_records restless_records
  obtain ⟨turns, hturns, hrun, hdirect⟩ := hdispatch jumpy event
  have hexpected : InTurn restless.priority event.kind restlessPairs
      [("event", jumper), ("event", roamer), ("echo", roamer)] := ⟨by decide, by decide⟩
  obtain rfl := hturns.unique hexpected
  have htold : Told jumpy event restless [jumper, roamer, roamer] told := hdirect rfl
  refine ⟨restless_records, hcount .any, htold, hrun _ (List.reverse_perm _), ?_⟩
  clear_value told
  cases htold with
  | returned hreact _ => cases hreact
  | panicked hreact hrest =>
    cases hreact
    cases hrest with
    | panicked hreact _ => cases hreact
    | returned _ hrest =>
      cases hrest with
      | panicked hreact _ => cases hreact
      | returned _ hrest =>
        cases hrest
        rfl

end Restless

end Dispatcher

end ServiceDirectory
