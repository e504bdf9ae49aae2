import ServiceDirectory.Proofs.Discovery.Storing

/-!
# Calls on a registrar

A registrar takes five kinds of calls, which are those that a backend takes.  A publishing registrar
treats them all alike: it may dispatch an event first, then it calls its delegate, and if that
succeeds it dispatches an event that tells of it.
-/

namespace ServiceDirectory.Registrar

variable {κ : Type}

/-- A call on a registrar. -/
def perform (host : Host κ) (r : Registrar) : BackendCommand → Call κ Unit
  | .register x => r.register host x
  | .update x => r.update host x
  | .unregister x => r.unregister host x
  | .start => r.start host
  | .stop => r.stop host

/-- Calls that are made one after the other, whether they succeed or fail. -/
def performEach (host : Host κ) (r : Registrar) :
    List BackendCommand → Run κ (List (Except Failure Unit))
  | [] => return []
  | c :: rest => do
    let result ← (r.perform host c).run
    return result :: (← performEach host r rest)

/-- What is dispatched before a call. -/
def opening (source : String) : BackendCommand → List Event
  | .register x => [.raise source (.instanceChange .preRegistered x)]
  | _ => []

/-- What is dispatched after a call that has succeeded. -/
def closing (source : String) : BackendCommand → Event
  | .register x => .raise source (.instanceChange .registered x)
  | .update x => .raise source (.instanceChange .updated x)
  | .unregister x => .raise source (.instanceChange .unregistered x)
  | .start => .raise source (.lifecycle true)
  | .stop => .raise source (.lifecycle false)

/-! ## What each registrar does -/

section

variable (host : Host κ) (w : World κ)

/-- A source in memory takes requests, and has nothing to do for a call without an instance. -/
theorem perform_memory (m : Ref .memory) (c : BackendCommand) :
    (∃ r : MemorySource.Request, (memory m).perform host c = r.submit host m) ∨
      (memory m).perform host c = pure () := by
  cases c with
  | register x => exact Or.inl ⟨.add x, rfl⟩
  | update x => exact Or.inl ⟨.update x, rfl⟩
  | unregister x => exact Or.inl ⟨.remove x, rfl⟩
  | start => exact Or.inr rfl
  | stop => exact Or.inr rfl

theorem perform_backed (b : Ref .backed) (c : BackendCommand) :
    (backed b).perform host c = command host b c := by
  cases c <;> rfl

theorem perform_publishing (source : String) (delegate : Registrar) (d : Ref .dispatcher)
    (c : BackendCommand) :
    (publishing source delegate d).perform host c = (do
      Call.ofRun ((opening source c).forM (Dispatcher.dispatch host d))
      delegate.perform host c
      Call.ofRun (Dispatcher.dispatch host d (closing source c))) := by
  cases c <;> rfl

/-- The delegate's answer is the answer. -/
theorem result_publishing (source : String) (delegate : Registrar) (d : Ref .dispatcher)
    (c : BackendCommand) :
    w.result ((publishing source delegate d).perform host c).run =
      (w.after ((opening source c).forM (Dispatcher.dispatch host d))).result
        (delegate.perform host c).run := by
  rw [perform_publishing]
  show (w.after ((opening source c).forM (Dispatcher.dispatch host d))).result
    (delegate.perform host c >>= _).run = _
  rw [World.result_bind_except]
  cases World.result _ (delegate.perform host c).run <;> rfl

/-- Only a success is told of. -/
theorem after_publishing (source : String) (delegate : Registrar) (d : Ref .dispatcher)
    (c : BackendCommand) :
    let v := w.after ((opening source c).forM (Dispatcher.dispatch host d))
    let u := v.after (delegate.perform host c).run
    w.after ((publishing source delegate d).perform host c).run =
      match v.result (delegate.perform host c).run with
      | .ok _ => u.after (Dispatcher.dispatch host d (closing source c))
      | .error _ => u := by
  intro v u
  rw [perform_publishing]
  show v.after (delegate.perform host c >>= _).run = _
  rw [World.after_bind_except]
  cases v.result (delegate.perform host c).run <;> rfl

end

/-! ## What is kept to -/

section

variable {host : Host κ} {R : World κ → World κ → Prop}

/-- A call on any registrar keeps to what its steps keep to: requests to sources in memory, commands
to backends, and the events that are dispatched around these. -/
theorem perform_steps (hrefl : ∀ w, R w w) (htrans : ∀ {u v w}, R u v → R v w → R u w)
    (hdispatch : ∀ d event w, R w (w.after (Dispatcher.dispatch host d event)))
    (hmemory : ∀ m (request : MemorySource.Request) w, R w (w.after (request.perform host m)))
    (hcommand : ∀ b c w, R w (w.after (host.command b c))) (r : Registrar) (c : BackendCommand)
    (w : World κ) : R w (w.after (r.perform host c).run) := by
  induction r generalizing w with
  | memory m =>
    rcases perform_memory host m c with ⟨request, heq⟩ | heq
    · rw [heq, request.after_submit]
      exact hmemory m request w
    · rw [heq]
      exact hrefl w
  | backed b =>
    rw [perform_backed]
    exact hcommand _ c w
  | publishing source delegate d ih =>
    have hopened : ∀ events v, R v (v.after (List.forM events (Dispatcher.dispatch host d))) := by
      intro events
      induction events with
      | nil => exact hrefl
      | cons event rest ihRest => exact fun v => htrans (hdispatch d event v) (ihRest _)
    rw [after_publishing]
    have hcalled := htrans (hopened (opening source c) w) (ih _)
    cases World.result _ (delegate.perform host c).run with
    | error _ => exact hcalled
    | ok _ => exact htrans hcalled (hdispatch d _ _)

/-- A call on any registrar keeps to what the collaborators and the tables of sources keep to. -/
theorem perform_keepsTo (hR : DisregardsLog R) (hhost : host.ReactsWithin R)
    (hcommand : ∀ b c w, R w (w.after (host.command b c)))
    (htable : ∀ w (m : Ref .memory) table, R w (w.setMemory m { w.memory m with table }))
    (r : Registrar) (c : BackendCommand) (w : World κ) :
    R w (w.after (r.perform host c).run) := by
  refine perform_steps hR.refl hR.trans (Dispatcher.dispatch_keepsTo hR hhost)
    (fun m request v => ?_) hcommand r c w
  refine hR.trans ?_ (request.perform_keepsTo hR hhost m v)
  rw [MemorySource.Request.settle]
  cases (request.edit (v.memory m).table).2 with
  | none => exact hR.refl v
  | some table => exact hR.trans (htable v m table) (hR.note _ _)

end

end ServiceDirectory.Registrar
