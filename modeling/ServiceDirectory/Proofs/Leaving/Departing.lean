import ServiceDirectory.Proofs.Leaving.Subscribing

/-!
# Leaving within a delivery

A sink that gives up its subscription within a delivery is rid of it, unless the call that has made
the subscription is still under way.  Such a call has not put in its record yet, so there is
nothing to take out, and when it completes the subscription is in force.  So it is with the first
delivery of a subscription; those that follow a change are made by a watcher on record.
-/

namespace ServiceDirectory.Seat

variable {σ : Type} {S : Seat} {w w' : World (Notebook σ)}

/-! ## Runs -/

theorem Move.leads {P : Host (Notebook σ) → Prop}
    (hP : ∀ host, P host → host.KeepsNotebook S.Leads) (h : S.Move P w w') : S.Leads w w' := by
  cases h with
  | elsewhere hstill => exact hstill.leads
  | subscribe hhost hurl hgeneral => exact subscribe_leads (hP _ hhost) hurl hgeneral w
  | unsubscribe hurl => exact unsubscribe_leads hurl w
  | subscribeOther hhost _ _ _ hother => exact subscribeOther_leads (hP _ hhost) hother w
  | unsubscribeOther _ _ _ hother => exact unsubscribeOther_leads hother w
  | register hhost registrar x => exact registrar_leads (hP _ hhost) registrar (.register x) w
  | update hhost registrar x => exact registrar_leads (hP _ hhost) registrar (.update x) w
  | unregister hhost registrar x => exact registrar_leads (hP _ hhost) registrar (.unregister x) w
  | report hhost hook service => exact fire_leads (hP _ hhost) hook service w
  | dispatch hhost id event => exact dispatch_leads (hP _ hhost) id event w
  | run hhost htask => exact run_leads (hP _ hhost) htask w
  | notify hhost n event => exact notify_leads (hP _ hhost) n event w

/-- By induction on the depth, all that happens treats records and watchers as it should. -/
theorem leads_nested (S : Seat) :
    Nesting.KeepsTo S.Move (fun M host => host.KeepsNotebook M) (S.Leads (σ := σ)) :=
  ⟨Leads.refl, Leads.trans, Host.KeepsNotebook.mono, Move.leads⟩

/-! ## What has become of a seat that was given up -/

/-- Whether a call that subscribes has ended. -/
def Entry.isClosed : Entry → Bool
  | closed _ => true
  | _ => false

/-- Whether a call that subscribes has completed. -/
def Entry.isCompleted : Entry → Bool
  | closed (.ok _) => true
  | _ => false

/-- When no call has begun since the seat was given up, those that were under way then are the
ones that count. -/
theorem completed_of_closed (base : Nat) (earlier : List Entry) {rest : List Entry}
    (hclosed : ∀ entry ∈ rest, entry.isClosed) :
    completed base (rest ++ .left :: earlier) = rest.countP Entry.isCompleted := by
  induction rest with
  | nil => rfl
  | cons entry rest ih =>
    have hrest := ih fun entry' hentry => hclosed entry' (List.mem_cons_of_mem _ hentry)
    cases entry with
    | opened => exact nomatch hclosed .opened List.mem_cons_self
    | left => exact nomatch hclosed .left List.mem_cons_self
    | closed result =>
      cases result with
      | ok _ =>
        rw [List.countP_cons_of_pos rfl, ← hrest]
        rfl
      | error _ =>
        rw [List.countP_cons_of_neg (by simp [Entry.isCompleted]), ← hrest]
        rfl

/-- Start where the watchers of a seat are where its records say and no call is under way.  When
the seat has been given up and no call for it has begun afterwards, there are as many records as
calls that were under way and have completed since.  As long as no call has been torn down, every
watcher of the seat that is on a list is on record.  So nothing is left if and only if no such call
has completed; then nothing is delivered to the seat any more, until a call that subscribes
begins. -/
theorem gone_iff_of_left {start w : World (Notebook σ)}
    (hstart : S.Kempt (fun _ => False) start) (hunlisted : S.Unlisted start)
    (hcalls : start.client.calls = []) (hruns : S.Runs start w) {rest earlier : List Entry}
    (hleft : w.client.calls = rest ++ .left :: earlier)
    (hclosed : ∀ entry ∈ rest, entry.isClosed) :
    (S.records w).length = rest.countP Entry.isCompleted ∧
      (torn w.client.calls = 0 →
        (∀ x, S.Owns x → ∀ n service, .watcher x ∈ w.observersAt n service → S.Due w x n service) ∧
        (S.Gone w ↔ rest.countP Entry.isCompleted = 0)) ∧
      ∀ w', S.Runs w w' → begun w'.client.calls = begun w.client.calls → S.Gone w →
        S.Gone w' ∧ S.heard w' = S.heard w := by
  have hleads := (leads_nested S).runs hruns
  have hbase : (S.records start).length =
      completed (S.records start).length start.client.calls := by
    rw [hcalls]
    rfl
  have hcount : (S.records w).length = rest.countP Entry.isCompleted := by
    rw [hleads.tends.counted _ hbase, hleft, completed_of_closed _ _ hclosed]
  refine ⟨hcount, fun htorn => ?_, fun w' hlater hbegun =>
    ((leads_nested S).runs hlater).hushes hbegun⟩
  have hkempt : S.Kempt (fun _ => False) w := by
    refine hleads.tends.kempt ?_ _ (fun _ => id) (fun _ hnone => hnone.elim) hstart
    rw [htorn, hcalls]
    rfl
  refine ⟨fun x hx n service hmem => ?_, fun hgone => ?_, fun hnone => ?_⟩
  · exact (hkempt.due x hx n service hmem).resolve_left id
  · rw [← hcount, hgone.records]
    rfl
  · exact hkempt.gone (List.length_eq_zero_iff.1 (hcount.trans hnone))
      (hleads.tends.unlisted hunlisted)

/-! ## A sink that leaves -/

section Departing

/-- A sink at the URL of a consumer. -/
def consumer : Seat := ⟨⟨2⟩, "consumer://c/Svc", ⟨9⟩⟩

def consumed : Url := .ofParts "consumer" "c" none "Svc"

/-- A registry over a source in memory, which nobody has used yet. -/
def untaken : World (Notebook Unit) :=
  ((World.initial ⟨[], [], ()⟩).after do
    discard Notifier.create
    discard (MemorySource.create "memory" ⟨0⟩)).after
      (Registry.create (.ofParts "service-discovery-registry" "h" none "") "g" ⟨3⟩ (.memory ⟨1⟩)
        ⟨4⟩)

theorem untaken_kempt : consumer.Kempt (fun _ => False) untaken := by
  have hnobody : ∀ x n service, .watcher x ∉ untaken.observersAt n service := by
    intro x n service hmem
    rw [World.observersAt_of_new (w := untaken) (n := ⟨0⟩) rfl] at hmem
    cases hmem
  exact ⟨fun x _ n service hmem => absurd hmem (hnobody x n service),
    fun x _ n service hmem => absurd hmem (hnobody x n service)⟩

theorem untaken_unlisted : consumer.Unlisted untaken := fun _ _ hbucket => nomatch hbucket

/-- The sink gives up its subscription. -/
def giveUp : Run (Notebook Unit) Unit := do
  modify fun w => w.jotting .left
  Registry.unsubscribe consumer.registry consumed consumer.sink

theorem after_giveUp (w : World (Notebook Unit)) :
    w.after giveUp =
      (w.jotting .left).after (Registry.unsubscribe consumer.registry consumed consumer.sink) := by
  rw [giveUp, World.after_bind, World.after_modify]

/-- The sink gives up its subscription within a delivery that it does not want. -/
def answering (unwanted : Delivery → Bool) (delivery : Delivery) : Run (Notebook Unit) Unit :=
  if unwanted delivery then giveUp else pure ()

def leaving (unwanted : Delivery → Bool) : Host (Notebook Unit) :=
  { Host.quiet with
    deliver := fun delivery => do
      modify fun w => w.serving delivery
      answering unwanted delivery
      return none }

theorem leaving_orderly (unwanted : Delivery → Bool) : consumer.Orderly 0 (leaving unwanted) where
  onEvent _ _ _ := .refl
  deliver delivery w := by
    show consumer.Moves _ (w.serving delivery)
      ((w.serving delivery).after (answering unwanted delivery))
    unfold answering
    split_ifs
    · rw [after_giveUp]
      exact .single (.unsubscribe rfl (w.serving delivery))
    · exact .refl
  handOff _ _ _ := .refl
  command _ _ _ := .refl
  services _ _ := .refl
  instances _ _ _ := .refl
  watch _ _ _ _ := .refl
  lookup _ _ _ _ := .refl
  enter _ _ := .refl
  leave _ _ := .refl

/-- The sink has been subscribed. -/
def taken (unwanted : Delivery → Bool) : World (Notebook Unit) :=
  let called := untaken.jotting .opened
  let subscribe :=
    (Registry.subscribe (leaving unwanted) consumer.registry consumed consumer.sink).run
  (called.after subscribe).jotting (.closed (called.result subscribe))

theorem taken_runs (unwanted : Delivery → Bool) : consumer.Runs untaken (taken unwanted) :=
  .single (.subscribe ⟨0, leaving_orderly unwanted⟩ rfl rfl untaken)

/-- An instance has come. -/
def joined (unwanted : Delivery → Bool) (x : Instance) (w : World (Notebook Unit)) :
    World (Notebook Unit) :=
  w.after ((Registrar.memory ⟨1⟩).register (leaving unwanted) x).run

theorem joined_runs (unwanted : Delivery → Bool) (x : Instance) (w : World (Notebook Unit)) :
    consumer.Runs w (joined unwanted x w) :=
  .single (.register ⟨0, leaving_orderly unwanted⟩ (.memory ⟨1⟩) x w)

/-- The sink leaves within the delivery that follows a change.  The next change is not delivered
to it. -/
theorem gone_of_left_refresh :
    let unwanted := fun delivery : Delivery => !delivery.urls.isEmpty
    let w := joined unwanted (.ofAddress "Svc" "h" 1) (taken unwanted)
    let w' := joined unwanted (.ofAddress "Svc" "h" 2) w
    w.client.calls = [.left, .closed (.ok ()), .opened] ∧ (consumer.heard w).length = 2 ∧
      consumer.Gone w ∧ consumer.Gone w' ∧ (consumer.heard w').length = 2 := by
  intro unwanted w w'
  have hcalls : w.client.calls = [.left, .closed (.ok ()), .opened] := by decide +kernel
  have hruns : consumer.Runs untaken w :=
    (taken_runs unwanted).trans (joined_runs unwanted _ _)
  have hsplit : w.client.calls = [] ++ .left :: [.closed (.ok ()), .opened] := hcalls
  obtain ⟨-, hgone, hlater⟩ := gone_iff_of_left untaken_kempt untaken_unlisted rfl hruns hsplit
    fun _ hentry => nomatch hentry
  have hleft : consumer.Gone w := (hgone (by rw [hcalls]; rfl)).2.2 rfl
  have hstays := hlater w' (joined_runs unwanted _ _) (by decide +kernel) hleft
  have hheard : (consumer.heard w).length = 2 := by decide +kernel
  refine ⟨hcalls, hheard, hleft, hstays.1, ?_⟩
  rw [hstays.2]
  exact hheard

/-- The sink leaves within the first delivery.  When the call that subscribes has returned, the
subscription is on record, its watcher is on the list, and the next change is delivered. -/
theorem heard_of_left_first :
    let unwanted := fun _ : Delivery => true
    let w := taken unwanted
    let w' := joined unwanted (.ofAddress "Svc" "h" 1) w
    consumer.Runs untaken w ∧ w.client.calls = [.closed (.ok ()), .left, .opened] ∧
      (consumer.records w).length = 1 ∧
      (∀ s ∈ consumer.records w, .watcher s.watcher ∈ w.observersAt ⟨0⟩ "Svc") ∧
      consumer.Runs w w' ∧ (consumer.heard w).length = 1 ∧ (consumer.heard w').length = 2 := by
  intro unwanted w w'
  refine ⟨taken_runs unwanted, ?_, ?_, ?_, joined_runs unwanted _ _, ?_, ?_⟩
  all_goals decide +kernel

end Departing

end ServiceDirectory.Seat
