import ServiceDirectory.Proofs.Freshness.Changing
import ServiceDirectory.Proofs.Freshness.Delivering
import ServiceDirectory.Proofs.Freshness.Making
import ServiceDirectory.Proofs.Registry.Session

/-!
# No change is lost

Each move leads from settled watchers to settled watchers, when the collaborators in it do
so with their own moves.  By induction on the depth all orderly collaborators do.  So in the
end of a run, when no task is waiting, what a recorded watcher has delivered last is what the
source lists.
-/

namespace ServiceDirectory.Site

variable {σ : Type} {S : Site} {w w' : World (Outside σ)}

theorem Move.leads {P : Host (Outside σ) → Prop} (hP : ∀ host, P host → S.Behaves S.Leads host)
    (h : S.Move P w w') : S.Leads w w' := by
  cases h with
  | elsewhere hstill => exact hstill.leads
  | subscribe hhost url sink => exact subscribe_leads (hP _ hhost) url sink w
  | unsubscribe url sink => exact unsubscribe_leads url sink w
  | register hhost registrar x => exact registrar_leads (hP _ hhost) registrar (.register x) w
  | update hhost registrar x => exact registrar_leads (hP _ hhost) registrar (.update x) w
  | unregister hhost registrar x => exact registrar_leads (hP _ hhost) registrar (.unregister x) w
  | change hhost b service instances hooks _ hhooks =>
    exact change_leads (hP _ hhost) b service instances hooks w hhooks
  | dispatch hhost dispatcher event => exact (dispatch_tells (hP _ hhost) dispatcher event w).leads
  | run hhost before later task _ hpending =>
    exact runTask_leads (hP _ hhost) before later task w hpending

/-- By induction on the depth, all that happens leads from settled watchers to settled ones. -/
theorem leads_nested (S : Site) : Nesting.KeepsTo S.Move S.Behaves (S.Leads (σ := σ)) :=
  ⟨Leads.refl, Leads.trans, Behaves.mono, Move.leads⟩

/-- A registry that nobody has used yet is in order. -/
theorem Wired.sound (hwired : S.Wired w) (hunused : Registry.Unused S.registry w) : S.Sound w := by
  refine ⟨hwired, ?_, ?_⟩
  · rw [hunused.subscriptions]
    exact SubscriptionTable.filed_empty S.registry
  · rintro watcher ⟨url, s, hs, -⟩
    rw [hunused.subscriptions, SubscriptionTable.get_empty] at hs
    cases hs

/-- Whenever no call is in progress and no task is waiting, the latest delivery of each
recorded watcher has carried what the source answers now for the services to which its
subscription was resolved. -/
theorem latest_eq_urls {start : World (Outside σ)} (hwired : S.Wired start)
    (hunused : Registry.Unused S.registry start) (hruns : S.Runs start w)
    (hidle : w.client.pending = []) {depth : Nat} {host : Host (Outside σ)}
    (hhost : S.Orderly depth host) :
    ∀ url, ∀ s ∈ (w.registry S.registry).subscriptions.get url, ∃ urls,
      w.result (instanceUrls host (w.registry S.registry).discovery s.watcher.subscribed
        s.services).run = .ok urls ∧
      w.latest? s.watcher = some urls := by
  intro url s hs
  have hstart := hwired.sound hunused
  have hleads : S.Leads start w := (leads_nested S).runs hruns
  obtain ⟨hsound, hevolves⟩ := hleads hstart
  have hrecorded : S.Recorded w s.watcher := ⟨url, s, hs, rfl⟩
  have hregistry : s.watcher.registry = S.registry := (hsound.filed url s hs).1
  have hnew : ¬S.Recorded start s.watcher := by
    rintro ⟨url', s', hs', -⟩
    rw [hunused.subscriptions, SubscriptionTable.get_empty] at hs'
    cases hs'
  have hsettled : S.Settled w s.watcher := by
    by_cases hserial : s.watcher.serial < start.next
    · rcases hevolves.kept s.watcher hregistry (fun hnone => hnone) hserial with hdrop | hsame
      · exact absurd hrecorded hdrop.2
      · exact absurd (hsame.recorded.1 hrecorded) hnew
    · exact hevolves.fresh s.watcher hregistry (fun hnone => hnone) (Nat.not_lt.1 hserial)
        hrecorded
  refine ⟨S.urls w s.watcher.subscribed s.services, ?_, ?_⟩
  · rw [hsound.discovery]
    exact result_instanceUrls ((leads_nested S).orderly hhost) s.watcher.subscribed s.services hsound
  · rcases hsettled.current with hlatest | ⟨task, htask, -⟩
    · exact hlatest
    · rw [hidle] at htask
      cases htask

/-! ## A change that is reported later -/

section Deferred

/-- A world with a dispatcher, whose tasks are deferred, and a notifier. -/
def deferring : World (Outside Unit) :=
  (World.initial ⟨[], [], fun _ _ => [], fun _ _ => [], ()⟩).after do
    discard (Dispatcher.create (.external ⟨0⟩))
    discard Notifier.create

/-- A registry over a backed source that uses them. -/
def deferred : Site := ⟨⟨4⟩, .backed ⟨3⟩, ⟨1⟩⟩

def deferredStart : World (Outside Unit) :=
  (deferring.after (BackedSource.create "source" ⟨0⟩ ⟨0⟩ ⟨1⟩).run).after
    (Registry.create (.ofParts "service-discovery-registry" "h" none "") "g" ⟨5⟩ (.backed ⟨3⟩) ⟨6⟩)

def deferredHost : Host (Outside Unit) := .attentive (fun _ => "a") fun _ => pure ()

theorem deferredStart_unused : Registry.Unused deferred.registry deferredStart := by
  let v := deferring.after (BackedSource.create "source" ⟨0⟩ ⟨0⟩ ⟨1⟩).run
  have hnobody : ∀ n service, ∀ watcher : Watcher, watcher.registry = ⟨v.next⟩ →
      .watcher watcher ∉ v.observersAt n service := by
    intro n service watcher _ hmem
    rw [World.observersAt_of_new (w := v) (n := ⟨1⟩) rfl] at hmem
    cases hmem
  exact Registry.create_unused (w := v) hnobody _ _ _ _ _

/-- A subscription is answered with the empty list; then an instance comes, which is reported
by a task that is run later. -/
theorem latest_eq_urls_deferred :
    ∃ w, deferred.Runs deferredStart w ∧ w.client.pending = [] ∧
      w.client.started.map (fun delivery => delivery.urls.length) = [1, 0] ∧
      ∀ url, ∀ s ∈ (w.registry deferred.registry).subscriptions.get url, ∃ urls,
        w.result (instanceUrls deferredHost (w.registry deferred.registry).discovery
          s.watcher.subscribed s.services).run = .ok urls ∧
        w.latest? s.watcher = some urls := by
  let x : Instance := .ofAddress "a" "ha" 1
  let subscribed : World (Outside Unit) := deferredStart.after
    (Registry.subscribe deferredHost ⟨4⟩ (.ofParts "consumer" "h" none "Svc") ⟨7⟩).run
  let hooks : List WatchHook := [(subscribed.source ⟨3⟩).hook]
  let changed : World (Outside Unit) := (subscribed.listing ⟨0⟩ "a" [x]).after
    (hooks.forM fun hook => hook.fire deferredHost "a")
  let task : Task := ⟨(changed.dispatcher ⟨0⟩).roster.buckets.entries,
    .raise "source" (.membership "a" [x])⟩
  let told : World (Outside Unit) := (changed.waiting []).after (task.run deferredHost)
  have hhost : deferred.Orderly 0 deferredHost := attentive_orderly deferred _
  have hruns : deferred.Runs deferredStart told := by
    have hsubscribed : deferred.Runs deferredStart subscribed :=
      .single (.subscribe ⟨0, hhost⟩ _ _ _)
    have hchanged : deferred.Runs deferredStart changed := by
      refine hsubscribed.tail (.change ⟨0, hhost⟩ ⟨0⟩ "a" [x] hooks subscribed ?_)
      intro hook hhook
      exact hhook
    exact hchanged.tail (.run ⟨0, hhost⟩ [] [] task changed rfl)
  have hidle : told.client.pending = [] := by
    have hempty : told.client.pending.isEmpty = true := by decide +kernel
    exact List.isEmpty_iff.1 hempty
  refine ⟨told, hruns, hidle, by decide +kernel, ?_⟩
  exact latest_eq_urls (wired_create _ _ _ _ _ _ _ _ deferring) deferredStart_unused hruns hidle
    hhost

end Deferred

/-! ## A delivery that comes late -/

/-- The list of the latest delivery to a sink for a URL, whichever watcher it is from. -/
def latestTo? (w : World (Outside σ)) (url : String) (sink : Ref .sink) : Option (List Url) :=
  (w.client.started.find? fun delivery =>
    delivery.subscribed.fullString = url ∧ delivery.sink = sink).map Delivery.urls

section Overtaken

/-- A registry over a source in memory. -/
def overtaken : Site := ⟨⟨2⟩, .memory ⟨1⟩, ⟨0⟩⟩

/-- The source has been made, with its notifier. -/
def sourced : World (Outside Bool) :=
  (World.initial ⟨[], [], fun _ _ => [], fun _ _ => [], false⟩).after do
    discard Notifier.create
    discard (MemorySource.create "memory" ⟨0⟩)

def overtakenStart : World (Outside Bool) :=
  sourced.after (Registry.create (.ofParts "service-discovery-registry" "h" none "") "g" ⟨3⟩
    (.memory ⟨1⟩) ⟨4⟩)

theorem overtakenStart_unused : Registry.Unused overtaken.registry overtakenStart := by
  have hnobody : ∀ n service, ∀ watcher : Watcher, watcher.registry = ⟨sourced.next⟩ →
      .watcher watcher ∉ sourced.observersAt n service := by
    intro n service watcher _ hmem
    rw [World.observersAt_of_new (w := sourced) (n := ⟨0⟩) rfl] at hmem
    cases hmem
  exact Registry.create_unused (w := sourced) hnobody _ _ _ _ _

def wanted : Url := .ofParts "consumer" "h" none "Svc"

/-- The interface belongs to the service `a` until it moves to `b`. -/
def movingHost (react : Delivery → Run (Outside Bool) Unit) : Host (Outside Bool) :=
  .attentive (fun moved => if moved then "b" else "a") react

/-- When the first sink hears of an instance, the interface moves and the second sink
subscribes anew. -/
def movingOn (delivery : Delivery) : Run (Outside Bool) Unit :=
  if delivery.sink = ⟨1⟩ ∧ delivery.urls ≠ [] then do
    modify fun w => { w with client := { w.client with own := true } }
    discard (Registry.subscribe (movingHost fun _ => pure ()) ⟨2⟩ wanted ⟨2⟩).run
  else pure ()

theorem movingOn_moves (delivery : Delivery) (w : World (Outside Bool)) :
    overtaken.Moves (overtaken.Orderly 0) w (w.after (movingOn delivery)) := by
  unfold movingOn
  split_ifs
  · have hmoved : overtaken.Still w { w with client := { w.client with own := true } } :=
      Still.withClient w rfl (fun _ _ _ h => h) (fun _ _ => rfl) fun _ h => h
    have hinner : overtaken.Orderly 0 (movingHost fun _ => pure ()) := attentive_orderly _ _
    rw [World.after_bind, World.after_modify, World.after_discard]
    exact (Relation.ReflTransGen.single (.elsewhere hmoved)).tail (.subscribe hinner _ _ _)
  · exact .refl

/-- A notifier tells the observers that it had when it began, and so a watcher that has been
replaced meanwhile may be the last to deliver to a sink. -/
theorem latestTo_ne_urls :
    overtaken.Wired overtakenStart ∧ Registry.Unused overtaken.registry overtakenStart ∧
    ∃ w, overtaken.Runs overtakenStart w ∧ w.client.pending = [] ∧
      ∃ s ∈ (w.registry overtaken.registry).subscriptions.get wanted.fullString,
        (w.result (instanceUrls (movingHost movingOn) (w.registry overtaken.registry).discovery
          s.watcher.subscribed s.services).run).toOption = some [] ∧
        latestTo? w wanted.fullString s.sink =
          some [instanceUrl wanted (.ofAddress "a" "ha" 1)] := by
  let first : World (Outside Bool) := overtakenStart.after
    (Registry.subscribe (movingHost movingOn) ⟨2⟩ wanted ⟨1⟩).run
  let second : World (Outside Bool) := first.after
    (Registry.subscribe (movingHost movingOn) ⟨2⟩ wanted ⟨2⟩).run
  let told : World (Outside Bool) := second.after
    ((Registrar.memory ⟨1⟩).register (movingHost movingOn) (.ofAddress "a" "ha" 1)).run
  have hhost : overtaken.Orderly 1 (movingHost movingOn) :=
    attentive_behaves (fun _ => .refl) (fun hstill => .single (.elsewhere hstill)) movingOn_moves
  have hruns : overtaken.Runs overtakenStart told := by
    have hfirst : overtaken.Runs overtakenStart first := .single (.subscribe ⟨1, hhost⟩ _ _ _)
    have hsecond : overtaken.Runs overtakenStart second :=
      hfirst.tail (.subscribe ⟨1, hhost⟩ _ _ _)
    exact hsecond.tail (.register ⟨1, hhost⟩ (.memory ⟨1⟩) _ _)
  have hidle : told.client.pending = [] := by
    have hempty : told.client.pending.isEmpty = true := by decide +kernel
    exact List.isEmpty_iff.1 hempty
  have hwired : overtaken.Wired overtakenStart := wired_memory overtakenStart ⟨2⟩ ⟨1⟩ rfl
  exact ⟨hwired, overtakenStart_unused, told, hruns, hidle, by decide +kernel⟩

end Overtaken

end ServiceDirectory.Site
