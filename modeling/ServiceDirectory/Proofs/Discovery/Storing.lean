import ServiceDirectory.Proofs.Discovery.Stored
import ServiceDirectory.Proofs.Dispatcher.Reacting
import ServiceDirectory.Registrar

/-!
# Writing to a source in memory

A call that changes something tells the observers of the service once, and tells them what the
service has come to.  The observers may write to the source while they are told.  So a call is cut
in two: first the table is changed, and with that the call is in the log; then its event is sent.
-/

namespace ServiceDirectory.MemorySource

variable {κ : Type}

namespace Request

def perform (host : Host κ) (m : Ref .memory) : Request → Run κ Bool
  | add x => MemorySource.add host m x
  | update x => MemorySource.update host m x
  | remove x => MemorySource.remove host m x

/-- The same request by way of a registrar. -/
def submit (host : Host κ) (m : Ref .memory) : Request → Call κ Unit
  | add x => (Registrar.memory m).register host x
  | update x => (Registrar.memory m).update host x
  | remove x => (Registrar.memory m).unregister host x

/-- Whether a request answers yes: an addition when the instance is not there yet, and any other
request when it is. -/
def Accepts (log : List Request) : Request → Prop
  | add x => written? x.identity log = none
  | update x | remove x => written? x.identity log ≠ none

/-- Whether a request has something to do. -/
def IsEffective (log : List Request) : Request → Prop
  | add _ => True
  | update x | remove x => written? x.identity log ≠ none

/-- The event that tells of a table. -/
def event (source : MemorySource) (r : Request) : Event :=
  .raise source.name (.membership r.subject.service (source.table.get r.subject.service))

/-- The world in which a request has changed the table and nobody has been told yet. -/
def settle (m : Ref .memory) (r : Request) (w : World κ) : World κ :=
  match (r.edit (w.memory m).table).2 with
  | none => w
  | some table =>
    (w.setMemory m { w.memory m with table }).note
      (.instancesChanged (w.memory m).name r.subject.service (table.get r.subject.service).length)

section Performing

variable (host : Host κ) (m : Ref .memory) (r : Request) (w : World κ)

theorem result_perform : w.result (r.perform host m) = (r.edit (w.memory m).table).1 := by
  cases r with
  | add x => rfl
  | update x =>
    show w.result (MemorySource.update host m x) = ((w.memory m).table.update x).isSome
    rw [MemorySource.update, World.result_bind, World.after_get, World.result_get]
    cases (w.memory m).table.update x <;> rfl
  | remove x =>
    show w.result (MemorySource.remove host m x) = ((w.memory m).table.remove x).isSome
    rw [MemorySource.remove, World.result_bind, World.after_get, World.result_get]
    cases (w.memory m).table.remove x <;> rfl

theorem memory_settle : (r.settle m w).memory m =
    { w.memory m with table := (r.edit (w.memory m).table).2.getD (w.memory m).table } := by
  rw [settle]
  cases (r.edit (w.memory m).table).2 with
  | none => rfl
  | some table =>
    show (w.setMemory m _).memory m = _
    rw [World.memory_setMemory, if_pos rfl]
    rfl

/-- A request changes the table and then tells of it, or does nothing. -/
theorem after_perform : w.after (r.perform host m) =
    match (r.edit (w.memory m).table).2 with
    | none => w
    | some _ => (r.settle m w).after (Notifier.notify host (w.memory m).notifier
      (r.event ((r.settle m w).memory m))) := by
  rw [memory_settle, settle]
  cases r with
  | add x => rfl
  | update x =>
    show w.after (MemorySource.update host m x) = _
    rw [MemorySource.update, World.after_bind, World.after_get, World.result_get, edit]
    cases (w.memory m).table.update x <;> rfl
  | remove x =>
    show w.after (MemorySource.remove host m x) = _
    rw [MemorySource.remove, World.after_bind, World.after_get, World.result_get, edit]
    cases (w.memory m).table.remove x <;> rfl

/-- A registrar does the same, and keeps the answer to itself. -/
theorem after_submit : w.after (r.submit host m).run = w.after (r.perform host m) := by
  cases r <;> rfl

theorem result_submit : w.result (r.submit host m).run = .ok () := by
  cases r <;> rfl

end Performing

section Answering

variable {t : InstanceTable} {log : List Request}

theorem accepts_iff (h : Holds t log) (r : Request) :
    (r.edit t).1 = true ↔ r.Accepts log := by
  cases r with
  | add x => exact h.fst_add_iff x
  | update x =>
    show (t.update x).isSome = true ↔ written? x.identity log ≠ none
    rw [h.update_eq]
    split_ifs with hnone <;> simp [hnone]
  | remove x =>
    show (t.remove x).isSome = true ↔ written? x.identity log ≠ none
    rw [h.remove_eq]
    split_ifs with hnone <;> simp [hnone]

theorem isEffective_iff (h : Holds t log) (r : Request) :
    (r.edit t).2 ≠ none ↔ r.IsEffective log := by
  cases r with
  | add x => simp [edit, IsEffective]
  | update x => exact Option.isSome_iff_ne_none.symm.trans (accepts_iff h (.update x))
  | remove x => exact Option.isSome_iff_ne_none.symm.trans (accepts_iff h (.remove x))

end Answering

end Request

/-- The log of the calls on a source since it was made.  Whatever else happens to the world, the
source changes by its calls only. -/
inductive Logged (m : Ref .memory) : List Request → World κ → Prop
  | created (name : String) (n : Ref .notifier) (w : World κ) (hid : w.result (create name n) = m) :
    Logged m [] (w.after (create name n))
  | settled {log : List Request} {w : World κ} (h : Logged m log w) (r : Request) :
    Logged m (r :: log) (r.settle m w)
  | meanwhile {log : List Request} {w w' : World κ} (h : Logged m log w)
    (hsame : w'.memory m = w.memory m) : Logged m log w'

/-- Whatever has been done to a source between two worlds has been done by calls. -/
def Leads (m : Ref .memory) (w w' : World κ) : Prop :=
  ∀ log, Logged m log w → ∃ later, Logged m (later ++ log) w'

section Running

variable {m : Ref .memory} {log : List Request} {w w' : World κ}

theorem Logged.holds (h : Logged m log w) : Holds (w.memory m).table log := by
  induction h with
  | created name n w hid =>
    have hmade : (w.after (create name n)).memory m = ⟨name, n, .empty⟩ := by
      show (World.setMemory _ (w.result (create name n)) _).memory m = _
      rw [World.memory_setMemory, if_pos hid]
    rw [hmade]
    exact .empty
  | @settled log w h r ih =>
    rw [Request.memory_settle]
    exact ih.edit r
  | meanwhile _ hsame ih =>
    rw [hsame]
    exact ih

theorem Leads.elsewhere (h : w'.memory m = w.memory m) : Leads m w w' := fun _ hlog =>
  ⟨[], hlog.meanwhile h⟩

theorem leads_disregardsLog (m : Ref .memory) : DisregardsLog (κ := κ) (Leads m) where
  refl _ := .elsewhere rfl
  trans h h' log hlog := by
    obtain ⟨later, hv⟩ := h log hlog
    obtain ⟨later', hw⟩ := h' (later ++ log) hv
    exact ⟨later' ++ later, List.append_assoc _ _ _ ▸ hw⟩
  note _ _ := .elsewhere rfl

/-- When the table has been changed, only the observers act until the end of the call. -/
theorem Request.perform_keepsTo {R : World κ → World κ → Prop} (hR : DisregardsLog R)
    {host : Host κ} (hhost : host.ReactsWithin R) (m : Ref .memory) (r : Request) (w : World κ) :
    R (r.settle m w) (w.after (r.perform host m)) := by
  rw [after_perform]
  cases hedit : (r.edit (w.memory m).table).2 with
  | none =>
    rw [settle, hedit]
    exact hR.refl w
  | some table => exact Notifier.notify_keepsTo hR hhost _ _ _

theorem stays_disregardsLog (m : Ref .memory) :
    DisregardsLog fun u u' : World κ => u'.memory m = u.memory m :=
  ⟨fun _ => rfl, fun h h' => h'.trans h, fun _ _ => rfl⟩

/-- Where the observers leave the source alone, the log has nothing but the call. -/
theorem Logged.call {host : Host κ} (h : Logged m log w)
    (hhost : host.ReactsWithin fun u u' => u'.memory m = u.memory m) (r : Request) :
    Logged m (r :: log) (w.after (r.perform host m)) :=
  (h.settled r).meanwhile (r.perform_keepsTo (stays_disregardsLog m) hhost m w)

/-- A call leads on if its observers do. -/
theorem Request.perform_leads {host : Host κ} (hhost : host.ReactsWithin (Leads m)) (r : Request)
    (w : World κ) : Leads m w (w.after (r.perform host m)) := by
  intro log h
  obtain ⟨later, hfinal⟩ :=
    r.perform_keepsTo (leads_disregardsLog m) hhost m w (r :: log) (h.settled r)
  exact ⟨later ++ [r], by simpa using hfinal⟩

/-- A source in memory is an ordered store of its log.  For each service it lists the instances
that are there, each with the record written last, in the order in which they have come; host and
port tell them apart, and the services that it names are those with an instance.  A request is
answered by whether its instance was there.  If it has something to do, then the table is changed
first, and one event with the new list of the service is all that follows: it is told to the
observers that the service has then.  If it has nothing to do, then nothing happens.  In the log
the request comes first, and then what the observers have written to the source. -/
theorem table_of_logged (h : Logged m log w) :
    (∀ service,
      (∀ x, x ∈ (w.memory m).table.get service ↔
        x.service = service ∧ written? x.identity log = some x) ∧
      (((w.memory m).table.get service).map fun x => (x.host, x.port)).Nodup ∧
      ((w.memory m).table.get service).Pairwise fun x y => Before log x.identity y.identity) ∧
    (∀ host : Host κ,
      (∃ names, w.result ((Discovery.memory m).services host).run = .ok names ∧
        names.Pairwise (· < ·) ∧ ∀ service, service ∈ names ↔ (w.memory m).table.get service ≠ []) ∧
      ∀ service, w.result ((Discovery.memory m).instances host service).run =
        .ok ((w.memory m).table.get service)) ∧
    ∀ (host : Host κ) (r : Request),
      let v := r.settle m w
      let final := w.after (r.perform host m)
      let service := r.subject.service
      let n := (w.memory m).notifier
      let event : Event :=
        .raise (w.memory m).name (.membership service ((v.memory m).table.get service))
      Logged m (r :: log) v ∧
      (w.result (r.perform host m) = true ↔ r.Accepts log) ∧
      (r.IsEffective log → final = v.after (Notifier.notify host n event) ∧
        ∃ u, (u = v ∨ ∃ notice, u = v.note notice) ∧
          Dispatcher.Told host event u ((w.observersAt n service).map Listener.observer) final) ∧
      (¬r.IsEffective log → v = w ∧ final = w) ∧
      (host.ReactsWithin (fun u u' => u'.memory m = u.memory m) → Logged m (r :: log) final) ∧
      (host.ReactsWithin (Leads m) → ∃ later, Logged m (later ++ r :: log) final) ∧
      w.after (r.submit host m).run = final ∧ w.result (r.submit host m).run = .ok () := by
  have hholds := h.holds
  refine ⟨fun service => ⟨hholds.mem_iff service, hholds.nodup_places service, ?_⟩,
    fun host => ⟨⟨_, rfl, pairwise_sortedNames _, fun service => ?_⟩, fun _ => rfl⟩, ?_⟩
  · exact List.pairwise_map.1 (hholds.inOrder service)
  · rw [mem_sortedNames]
    exact hholds.mem_services_iff service
  · intro host r v final service n event
    have heffective := Request.isEffective_iff hholds r
    have hfinal := r.after_perform host m w
    have hname : (v.memory m).name = (w.memory m).name := by
      show ((r.settle m w).memory m).name = _
      rw [r.memory_settle]
    have hevent : r.event (v.memory m) = event := congrArg (Event.raise · _) hname
    refine ⟨h.settled r, ?_, fun hdo => ?_, fun hskip => ?_, fun hhost => h.call hhost r,
      fun hhost => ?_, r.after_submit host m w, r.result_submit host m w⟩
    · rw [r.result_perform]
      exact Request.accepts_iff hholds r
    · obtain ⟨table, htable⟩ := Option.ne_none_iff_exists'.1 (heffective.2 hdo)
      rw [htable] at hfinal
      dsimp only at hfinal
      rw [hevent] at hfinal
      have hobservers : (v.audience n).observers service = w.observersAt n service := by
        show ((r.settle m w).audience n).observers service = _
        rw [Request.settle, htable]
        rfl
      obtain ⟨u, hu, htold⟩ : ∃ u, (u = v ∨ ∃ notice, u = v.note notice) ∧
          Dispatcher.Told host event u (((v.audience n).observers service).map Listener.observer) _ :=
        Dispatcher.told_notify rfl n v
      rw [hobservers, ← hfinal] at htold
      exact ⟨hfinal, u, hu, htold⟩
    · have hnone := not_not.1 (fun hdo => hskip (heffective.1 hdo))
      rw [hnone] at hfinal
      refine ⟨?_, hfinal⟩
      show r.settle m w = w
      rw [Request.settle, hnone]
    · exact r.perform_keepsTo (leads_disregardsLog m) hhost m w _ (h.settled r)

end Running

/-! ## An observer that writes back -/

section Echoing

def elder : Instance := .ofAddress "svc" "h" 1

def younger : Instance := .ofAddress "svc" "h" 2

/-- The listeners keep a list of what they are told, and one of them always adds an instance. -/
def echoing : Host (List (Ref .listener × Event)) :=
  { Host.quiet with
    onEvent := fun l event => do
      modify fun w => { w with client := w.client ++ [(l, event)] }
      if l = ⟨11⟩ then discard (MemorySource.add Host.quiet ⟨1⟩ elder)
      return none }

/-- A source that two listeners observe. -/
def observed : World (List (Ref .listener × Event)) :=
  let w := ((World.initial []).after Notifier.create).after (create "memory" ⟨0⟩)
  (w.after (Notifier.add ⟨0⟩ "svc" (.client ⟨11⟩))).after (Notifier.add ⟨0⟩ "svc" (.client ⟨12⟩))

theorem observed_logged : Logged ⟨1⟩ [] observed := by
  have hmade : Logged ⟨1⟩ [] (((World.initial ([] : List (Ref .listener × Event))).after
    Notifier.create).after (create "memory" ⟨0⟩)) := .created _ _ _ rfl
  exact hmade.meanwhile rfl

def writes : List Request :=
  [.update (elder.withHealthy false), .update (younger.withHealthy false), .add elder]

/-- The update of an instance that is not there changes nothing. -/
def filled : World (List (Ref .listener × Event)) :=
  writes.foldr (fun r w => w.after (r.perform Host.quiet ⟨1⟩)) observed

theorem filled_logged : Logged ⟨1⟩ writes filled := by
  have hquiet := Host.quiet_reactsWithin
    (stays_disregardsLog (κ := List (Ref .listener × Event)) ⟨1⟩)
  exact ((observed_logged.call hquiet _).call hquiet _).call hquiet _

theorem echoing_reactsWithin : echoing.ReactsWithin (Leads ⟨1⟩) where
  onEvent l event w := by
    have hheard : Leads ⟨1⟩ w { w with client := w.client ++ [(l, event)] } := .elsewhere rfl
    by_cases hl : l = ⟨11⟩
    · subst hl
      refine (leads_disregardsLog ⟨1⟩).trans hheard ?_
      exact (Request.add elder).perform_leads (Host.quiet_reactsWithin (leads_disregardsLog ⟨1⟩)) _
    · have hafter : w.after (echoing.onEvent l event) =
          { w with client := w.client ++ [(l, event)] } := by
        simp [echoing, hl]
      rw [hafter]
      exact hheard
  deliver _ _ := .elsewhere rfl
  handOff _ _ _ := .elsewhere rfl
  instances _ _ _ := .elsewhere rfl
  enter _ _ := .elsewhere rfl
  leave _ _ := .elsewhere rfl

/-- A further instance is added.  Both listeners are told of the two that there are then, although
the first of them has put back a record in the meantime. -/
theorem table_of_logged_echoing :
    let final := filled.after ((Request.add younger).perform echoing ⟨1⟩)
    let event : Event := .raise "memory" (.membership "svc" [elder.withHealthy false, younger])
    Logged ⟨1⟩ writes filled ∧ elder.withHealthy false ∈ (filled.memory ⟨1⟩).table.get "svc" ∧
      filled.result ((Request.add younger).perform echoing ⟨1⟩) = true ∧
      final.client = [(⟨11⟩, event), (⟨12⟩, event)] ∧
      ∃ later, Logged ⟨1⟩ (later ++ .add younger :: writes) final := by
  intro final event
  obtain ⟨hlists, -, hcalls⟩ := table_of_logged filled_logged
  obtain ⟨-, hanswer, -, -, -, hleads, -⟩ := hcalls echoing (.add younger)
  refine ⟨filled_logged, ((hlists "svc").1 _).2 ⟨rfl, rfl⟩, hanswer.2 rfl, ?_,
    hleads echoing_reactsWithin⟩
  rfl

end Echoing

end ServiceDirectory.MemorySource
