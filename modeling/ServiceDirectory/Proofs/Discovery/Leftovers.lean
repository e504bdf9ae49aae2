import Mathlib.Data.List.Basic
import ServiceDirectory.Proofs.Discovery.Adding
import ServiceDirectory.Proofs.Discovery.Flattening
import ServiceDirectory.Proofs.Dispatcher.Reacting

/-!
# What a failed addition leaves behind

A source that asks a backend takes an observer off its list again when the backend refuses the
watch.  A composite has nothing to take back with: it stops at the first leaf that fails, and
the observer stays on the lists of the leaves before it.  So an addition to a tree fails without
a trace when the first leaf fails, and otherwise the observer is told of later changes although
the call that was to add it has failed.
-/

namespace ServiceDirectory

variable {κ : Type}

namespace World

theorem mem_after_add (w : World κ) (n n' : Ref .notifier) (service service' : String)
    (o : Observer) :
    o ∈ (w.after (Notifier.add n service o)).observersAt n' service' ↔
      o ∈ w.observersAt n' service' ∨ n = n' ∧ service = service' := by
  rw [observersAt_add]
  split_ifs with hnew
  · simp [hnew]
  · tauto

theorem mem_after_remove (w : World κ) (n n' : Ref .notifier) (service service' : String)
    (o : Observer) :
    o ∈ (w.after (Notifier.remove n service o)).observersAt n' service' ↔
      o ∈ w.observersAt n' service' ∧ ¬(n = n' ∧ service = service') := by
  rw [observersAt_remove]
  split_ifs with hplace
  · simp [hplace]
  · simp [hplace]

end World

/-- Between `w` and `w'` an observer has come to no list and has left none, and the leaves have
kept their notifiers. -/
structure Spares (o : Observer) (w w' : World κ) : Prop where
  mem_iff : ∀ n service, o ∈ w'.observersAt n service ↔ o ∈ w.observersAt n service
  notifiers : Discovery.notifier? w' = Discovery.notifier? w

theorem Spares.setWatched (o : Observer) (b : Ref .backed) (service : String) (n : Notice)
    (w : World κ) :
    Spares o w ((w.after (BackedSource.setWatched b service)).note n) where
  mem_iff _ _ := Iff.rfl
  notifiers := by
    funext leaf
    cases leaf with
    | memory m => rfl
    | composite _ _ => rfl
    | backed b' =>
      show some ((w.after (BackedSource.setWatched b service)).source b').notifier = _
      by_cases hb : b = b'
      · subst hb
        simp [BackedSource.setWatched, Discovery.notifier?]
      · simp [BackedSource.setWatched, Discovery.notifier?, hb]

namespace Discovery

/-! ## A tree is added to leaf by leaf -/

/-- How the leaves are put together does not matter. -/
theorem addObserver_eq_leaves (host : Host κ) (service : String) (o : Observer) (d : Discovery) :
    d.addObserver host service o = addObserverToAll host service o d.leaves :=
  (addObserver_gathers host service o).eq_composite d ⟨0⟩

theorem isSome_notifier?_of_mem_leaves (w : World κ) (d : Discovery) :
    ∀ leaf ∈ d.leaves, (notifier? w leaf).isSome := by
  induction d using treeInduction with
  | memory id => simp [leaves, notifier?]
  | backed id => simp [leaves, notifier?]
  | composite id sources ih =>
    rw [leaves, leavesOfAll_eq_flatMap]
    intro leaf hleaf
    obtain ⟨source, hsource, hin⟩ := List.mem_flatMap.1 hleaf
    exact ih source hsource leaf hin

/-! ## One leaf after the other -/

/-- The leaves `before` take the observer, and then a leaf that asks a backend fails. -/
structure StopsAt (host : Host κ) (service : String) (o : Observer) (w : World κ)
    (before : List Discovery) (b : Ref .backed) (cause : Failure) : Prop where
  taken : w.result (addObserverToAll host service o before).run = .ok ()
  refused : (w.after (addObserverToAll host service o before).run).result
    (BackedSource.addObserver host b service o).run = .error (.failed cause)

section Adding

variable {host : Host κ} {service : String} {o : Observer}
  (hwatch : ∀ b service hook w, Spares o w (w.after (host.watch b service hook)))

include hwatch

/-- Added to one leaf, the observer is on its list in the end, or off it after a failure. -/
theorem addObserver_leaf_cases {leaf : Discovery} {n : Ref .notifier} (w : World κ)
    (hleaf : notifier? w leaf = some n) :
    let result := w.result (leaf.addObserver host service o).run
    let final := w.after (leaf.addObserver host service o).run
    notifier? final = notifier? w ∧
    ((result = .ok () ∧ ∀ n' service', o ∈ final.observersAt n' service' ↔
        o ∈ w.observersAt n' service' ∨ n = n' ∧ service = service') ∨
      (∃ cause b, leaf = backed b ∧ result = .error (.failed cause) ∧
        ∀ n' service', o ∈ final.observersAt n' service' ↔
          o ∈ w.observersAt n' service' ∧ ¬(n = n' ∧ service = service')) ∨
      ∃ payload, result = .error (.panicked payload)) := by
  intro result final
  cases leaf with
  | composite _ _ => cases hleaf
  | memory m =>
    cases hleaf
    exact ⟨rfl, Or.inl ⟨rfl, fun n' service' => w.mem_after_add _ n' service service' o⟩⟩
  | backed b =>
    cases hleaf
    let v := w.after (Notifier.add (w.source b).notifier service o)
    have hadded : ∀ n' service', o ∈ v.observersAt n' service' ↔
        o ∈ w.observersAt n' service' ∨ (w.source b).notifier = n' ∧ service = service' :=
      fun n' service' => w.mem_after_add _ n' service service' o
    have hasked := hwatch (w.source b).backend service (w.source b).hook v
    rcases BackedSource.addObserver_cases host b service o w with
      ⟨-, hresult, hfinal⟩ | ⟨-, -, hresult, hfinal⟩ | ⟨cause, -, hresult, hfinal⟩ |
      ⟨payload, -, hresult, hfinal⟩
    · change final = v at hfinal
      rw [hfinal]
      exact ⟨rfl, Or.inl ⟨hresult, hadded⟩⟩
    · have hcounted := Spares.setWatched o b service (.watchInstalled (w.source b).name service)
        (v.after (host.watch (w.source b).backend service (w.source b).hook))
      rw [← hfinal] at hcounted
      refine ⟨hcounted.notifiers.trans hasked.notifiers, Or.inl ⟨hresult, fun n' service' => ?_⟩⟩
      rw [← hadded, ← hasked.mem_iff]
      exact hcounted.mem_iff n' service'
    · change final = World.after _ (Notifier.remove (w.source b).notifier service o) at hfinal
      rw [hfinal]
      refine ⟨hasked.notifiers,
        Or.inr (Or.inl ⟨cause, b, rfl, hresult, fun n' service' => ?_⟩)⟩
      rw [World.mem_after_remove, hasked.mem_iff, hadded]
      tauto
    · change final = v.after (host.watch (w.source b).backend service (w.source b).hook) at hfinal
      rw [hfinal]
      exact ⟨hasked.notifiers, Or.inr (Or.inr ⟨payload, hresult⟩)⟩

/-- The leaves before the one that fails have the observer on their lists. -/
theorem addObserverToAll_failed {sources : List Discovery} (w : World κ)
    (hsources : ∀ leaf ∈ sources, (notifier? w leaf).isSome) {cause : Failure}
    (hfailed : w.result (addObserverToAll host service o sources).run = .error (.failed cause)) :
    let final := w.after (addObserverToAll host service o sources).run
    ∃ before b after, sources = before ++ backed b :: after ∧
      StopsAt host service o w before b cause ∧
      ∀ n service', o ∈ final.observersAt n service' ↔
        (o ∈ w.observersAt n service' ∨ n ∈ before.filterMap (notifier? w) ∧ service = service') ∧
          ¬((w.source b).notifier = n ∧ service = service') := by
  induction sources generalizing w with
  | nil => cases hfailed
  | cons leaf rest ih =>
    obtain ⟨n, hn⟩ := Option.isSome_iff_exists.1 (hsources leaf List.mem_cons_self)
    obtain ⟨hnotifiers, hways⟩ := addObserver_leaf_cases hwatch w hn
    rw [addObserverToAll] at hfailed ⊢
    rcases hways with ⟨hok, hadded⟩ | ⟨cause', b, rfl, hstop, hremoved⟩ | ⟨payload, hstop⟩
    · rw [World.result_bind_of_ok hok] at hfailed
      rw [World.after_bind_of_ok hok]
      obtain ⟨before, b, after, rfl, hstops, hmem⟩ := ih _
        (fun leaf' hleaf' => hnotifiers ▸ hsources leaf' (List.mem_cons_of_mem _ hleaf')) hfailed
      have hsource : notifier? _ (backed b) = notifier? w (backed b) := congrFun hnotifiers _
      rw [notifier?, notifier?, Option.some_inj] at hsource
      have hnow : StopsAt host service o w (leaf :: before) b cause := by
        refine ⟨?_, ?_⟩
        · rw [addObserverToAll, World.result_bind_of_ok hok]
          exact hstops.taken
        · rw [addObserverToAll, World.after_bind_of_ok hok]
          exact hstops.refused
      refine ⟨leaf :: before, b, after, rfl, hnow, fun n' service' => ?_⟩
      rw [hmem, hadded, hnotifiers, hsource, List.filterMap_cons_some hn, List.mem_cons]
      tauto
    · rw [World.result_bind_of_error hstop] at hfailed
      cases hfailed
      rw [World.after_bind_of_error hstop]
      cases hn
      refine ⟨[], b, rest, rfl, ⟨rfl, hstop⟩, fun n' service' => ?_⟩
      rw [hremoved, List.filterMap_nil]
      simp
    · rw [World.result_bind_of_error hstop] at hfailed
      cases hfailed

/-- The addition of an observer that was on no list of the service fails because one leaf is
refused its watch.  Afterwards the observer is on the lists of the leaves before that one, and is
told of whatever they announce of the service from then on, as long as nobody takes it off.
Where every leaf has a notifier of its own, nothing has come of the failed call if and only if
the first leaf has failed. -/
theorem addObserver_failed (d : Discovery) (w : World κ) {cause : Failure}
    (hnew : ∀ n ∈ d.notifiers w, o ∉ w.observersAt n service)
    (hfailed : w.result (d.addObserver host service o).run = .error (.failed cause)) :
    let final := w.after (d.addObserver host service o).run
    ∃ before b after, d.leaves = before ++ backed b :: after ∧
      StopsAt host service o w before b cause ∧
      (∀ n ∈ d.notifiers w, o ∈ final.observersAt n service ↔
        n ∈ before.filterMap (notifier? w) ∧ n ≠ (w.source b).notifier) ∧
      (∀ n service', n ∉ d.notifiers w ∨ service' ≠ service →
        (o ∈ final.observersAt n service' ↔ o ∈ w.observersAt n service')) ∧
      ((d.notifiers w).Nodup →
        ((∀ n ∈ d.notifiers w, o ∉ final.observersAt n service) ↔ before = [])) ∧
      ∀ n ∈ d.notifiers w, ∀ (host' : Host κ) (later : World κ) (event : Event)
        (instances : List Instance), event.content = .membership service instances →
        (o ∈ later.observersAt n service ↔ o ∈ final.observersAt n service) →
        ∃ v listeners, (v = later ∨ ∃ notice, v = later.note notice) ∧
          Dispatcher.Told host' event v listeners (later.after (Notifier.notify host' n event)) ∧
          (Listener.observer o ∈ listeners ↔
            n ∈ before.filterMap (notifier? w) ∧ n ≠ (w.source b).notifier) := by
  intro final
  rw [addObserver_eq_leaves] at hfailed
  obtain ⟨before, b, after, hleaves, hstops, hmem⟩ :=
    addObserverToAll_failed hwatch w (isSome_notifier?_of_mem_leaves w d) hfailed
  rw [← addObserver_eq_leaves] at hmem
  change ∀ n service', o ∈ final.observersAt n service' ↔ _ at hmem
  have hnotifiers : d.notifiers w = before.filterMap (notifier? w) ++
      (w.source b).notifier :: after.filterMap (notifier? w) := by
    rw [notifiers, hleaves, List.filterMap_append]
    rfl
  have hplaces : ∀ n ∈ d.notifiers w, o ∈ final.observersAt n service ↔
      n ∈ before.filterMap (notifier? w) ∧ n ≠ (w.source b).notifier := by
    intro n hn
    have hold := hnew n hn
    rw [hmem]
    simp only [hold, false_or, and_true, ne_eq, eq_comm (a := n)]
  refine ⟨before, b, after, hleaves, hstops, hplaces, ?_, ?_, ?_⟩
  · intro n service' helsewhere
    have hother : ∀ n', n' ∈ d.notifiers w → ¬(n' = n ∧ service = service') := by
      rintro n' hn' ⟨rfl, rfl⟩
      exact helsewhere.elim (fun hn => hn hn') fun hservice => hservice rfl
    have hb : (w.source b).notifier ∈ d.notifiers w := by simp [hnotifiers]
    have hbefore : ¬(n ∈ before.filterMap (notifier? w) ∧ service = service') := fun hin =>
      hother n (hnotifiers ▸ List.mem_append_left _ hin.1) ⟨rfl, hin.2⟩
    rw [hmem]
    simp only [hbefore, hother _ hb, or_false, not_false_iff, and_true]
  · intro hnodup
    constructor
    · intro hnone
      cases hfirst : before with
      | nil => rfl
      | cons leaf rest =>
        -- the first leaf has a notifier, and it is not the one of the leaf that has failed
        obtain ⟨n, hn⟩ := Option.isSome_iff_exists.1 (isSome_notifier?_of_mem_leaves w d leaf
          (by simp [hleaves, hfirst]))
        have hbefore : n ∈ before.filterMap (notifier? w) :=
          List.mem_filterMap.2 ⟨leaf, by simp [hfirst], hn⟩
        have hin : n ∈ d.notifiers w := hnotifiers ▸ List.mem_append_left _ hbefore
        have hne : n ≠ (w.source b).notifier := by
          rw [hnotifiers, List.nodup_append] at hnodup
          exact hnodup.2.2 n hbefore _ List.mem_cons_self
        exact absurd ((hplaces n hin).2 ⟨hbefore, hne⟩) (hnone n hin)
    · rintro rfl n hn
      rw [hplaces n hn]
      simp
  · intro n hn host' later event instances hcontent hsame
    obtain ⟨v, hv, htold⟩ : ∃ v, (v = later ∨ ∃ notice, v = later.note notice) ∧
        Dispatcher.Told host' event v ((later.observersAt n service).map Listener.observer)
          (later.after (Notifier.notify host' n event)) :=
      Dispatcher.told_notify hcontent n later
    refine ⟨v, _, hv, htold, ?_⟩
    rw [← hplaces n hn, ← hsame]
    simp

end Adding

/-! ## A backend that refuses -/

section Refusing

/-- The listeners keep a list of what they are told.  One backend refuses every watch. -/
def refusing : Host (List (Ref .listener × Event)) :=
  { Host.quiet with
    onEvent := fun l event => do
      modify fun w => { w with client := w.client ++ [(l, event)] }
      return none
    watch := fun b _ _ =>
      pure (if b = ⟨21⟩ then .error (.failed (.collaborator "watch failed")) else .ok ()) }

theorem refusing_spares (o : Observer) (b : Ref .backend) (service : String) (hook : WatchHook)
    (w : World (List (Ref .listener × Event))) :
    Spares o w (w.after (refusing.watch b service hook)) :=
  ⟨fun _ _ => Iff.rfl, rfl⟩

/-- A source in memory, one whose backend accepts watches, and one whose backend does not. -/
def threeSources : World (List (Ref .listener × Event)) :=
  let w := (World.initial []).after Notifier.create
  let w := (w.after (MemorySource.create "memory" ⟨0⟩)).after (Dispatcher.create .direct)
  let w := w.after Notifier.create
  let w := w.after (BackedSource.create "willing" ⟨20⟩ ⟨2⟩ ⟨3⟩).run
  let w := w.after Notifier.create
  w.after (BackedSource.create "unwilling" ⟨21⟩ ⟨2⟩ ⟨6⟩).run

/-- The source that fails is the last one, two composites deep. -/
def unwillingLast : Discovery :=
  composite ⟨9⟩ [memory ⟨1⟩, composite ⟨10⟩ [backed ⟨5⟩, backed ⟨8⟩]]

/-- Nobody is on a list, the call fails, and an instance that is registered afterwards is
announced to the listener. -/
theorem told_after_failed_addObserver :
    let o : Observer := .client ⟨11⟩
    let x : Instance := .ofAddress "svc" "h" 1
    let failed := threeSources.after (unwillingLast.addObserver refusing "svc" o).run
    (unwillingLast.notifiers threeSources).Nodup ∧
      (∀ n ∈ unwillingLast.notifiers threeSources, o ∉ threeSources.observersAt n "svc") ∧
      threeSources.result (unwillingLast.addObserver refusing "svc" o).run =
        .error (.failed (.collaborator "watch failed")) ∧
      o ∈ failed.observersAt ⟨0⟩ "svc" ∧ o ∈ failed.observersAt ⟨3⟩ "svc" ∧
      (failed.after (MemorySource.add refusing ⟨1⟩ x)).client =
        [(⟨11⟩, .raise "memory" (.membership "svc" [x]))] := by
  refine ⟨by decide, by decide, rfl, by decide, by decide, rfl⟩

/-- With the source that fails in front, the failed call has left nothing, and a later change at
any of the sources tells the listener nothing. -/
theorem addObserver_failed_in_front :
    let o : Observer := .client ⟨11⟩
    let d : Discovery := composite ⟨9⟩ [composite ⟨10⟩ [backed ⟨8⟩, memory ⟨1⟩], backed ⟨5⟩]
    let failed := threeSources.after (d.addObserver refusing "svc" o).run
    (∀ n ∈ d.notifiers threeSources, o ∉ threeSources.observersAt n "svc") ∧
      threeSources.result (d.addObserver refusing "svc" o).run =
        .error (.failed (.collaborator "watch failed")) ∧
      (d.notifiers threeSources).Nodup ∧
      (∀ n ∈ d.notifiers threeSources, o ∉ failed.observersAt n "svc") ∧
      ∀ n ∈ d.notifiers threeSources, ∀ instances, ∃ v listeners, Listener.observer o ∉ listeners ∧
        Dispatcher.Told refusing (.raise "memory" (.membership "svc" instances)) v listeners
          (failed.after (Notifier.notify refusing n
            (.raise "memory" (.membership "svc" instances)))) := by
  intro o d failed
  have hnew : ∀ n ∈ d.notifiers threeSources, o ∉ threeSources.observersAt n "svc" := by decide
  have hfailed : threeSources.result (d.addObserver refusing "svc" o).run =
      .error (.failed (.collaborator "watch failed")) := rfl
  have hnodup : (d.notifiers threeSources).Nodup := by decide
  obtain ⟨before, b, after, hleaves, hstops, -, -, htrace, hlater⟩ :=
    addObserver_failed (refusing_spares o) d threeSources hnew hfailed
  have hfirst : before = [] := by
    cases before with
    | nil => rfl
    | cons leaf rest =>
      obtain ⟨rfl, -⟩ := List.cons.inj hleaves
      have htaken := hstops.taken
      rw [addObserverToAll, World.result_bind_of_error rfl] at htaken
      cases htaken
  refine ⟨hnew, hfailed, hnodup, (htrace hnodup).2 hfirst, fun n hn instances => ?_⟩
  obtain ⟨v, listeners, -, htold, hmem⟩ := hlater n hn refusing failed
    (.raise "memory" (.membership "svc" instances)) instances rfl Iff.rfl
  refine ⟨v, listeners, fun hin => ?_, htold⟩
  obtain ⟨hbefore, -⟩ := hmem.1 hin
  rw [hfirst] at hbefore
  cases hbefore

end Refusing

end Discovery

end ServiceDirectory
