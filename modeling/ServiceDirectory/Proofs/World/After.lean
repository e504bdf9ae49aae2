import ServiceDirectory.World.Host

/-!
# The world after a computation

A computation is a function of the world it starts in.  `World.after` and
`World.result` split it into the world it ends in and the value it gives, and the
lemmas below say what each way of putting computations together does to the two.
Proofs about the library peel its definitions apart with them, so that a fact about a
definition is one about the worlds between its steps.
-/

namespace ServiceDirectory

variable {κ α β ε : Type}

namespace World

/-- The world in which a computation ends. -/
def after (w : World κ) (m : Run κ α) : World κ := (m.run w).2

/-- The value that a computation gives. -/
def result (w : World κ) (m : Run κ α) : α := (m.run w).1

/-! ## Computations that always return -/

@[simp]
theorem after_pure (w : World κ) (a : α) : w.after (pure a) = w := rfl

@[simp]
theorem result_pure (w : World κ) (a : α) : w.result (pure a) = a := rfl

@[simp]
theorem after_bind (w : World κ) (m : Run κ α) (f : α → Run κ β) :
    w.after (m >>= f) = (w.after m).after (f (w.result m)) := rfl

@[simp]
theorem result_bind (w : World κ) (m : Run κ α) (f : α → Run κ β) :
    w.result (m >>= f) = (w.after m).result (f (w.result m)) := rfl

@[simp]
theorem after_map (w : World κ) (f : α → β) (m : Run κ α) :
    w.after (f <$> m) = w.after m := rfl

@[simp]
theorem result_map (w : World κ) (f : α → β) (m : Run κ α) :
    w.result (f <$> m) = f (w.result m) := rfl

@[simp]
theorem after_discard (w : World κ) (m : Run κ α) : w.after (discard m) = w.after m := rfl

@[simp]
theorem after_get (w : World κ) : w.after get = w := rfl

@[simp]
theorem result_get (w : World κ) : w.result get = w := rfl

@[simp]
theorem after_modify (w : World κ) (f : World κ → World κ) :
    w.after (modify f) = f w := rfl

@[simp]
theorem after_note (w : World κ) (n : Notice) : w.after (ServiceDirectory.note n) = w.note n := rfl

@[simp]
theorem after_freshSerial (w : World κ) :
    w.after freshSerial = { w with next := w.next + 1 } := rfl

@[simp]
theorem result_freshSerial (w : World κ) : w.result freshSerial = w.next := rfl

@[simp]
theorem after_forM_nil (w : World κ) (f : α → Run κ Unit) : w.after ([].forM f) = w := rfl

@[simp]
theorem after_forM_cons (w : World κ) (f : α → Run κ Unit) (a : α) (l : List α) :
    w.after ((a :: l).forM f) = (w.after (f a)).after (l.forM f) := rfl

theorem after_forM_append (w : World κ) (f : α → Run κ Unit) (l l' : List α) :
    w.after ((l ++ l').forM f) = (w.after (l.forM f)).after (l'.forM f) := by
  induction l generalizing w with
  | nil => rfl
  | cons a rest ih =>
    rw [List.cons_append, after_forM_cons, after_forM_cons, ih]

/-! ## Computations that may stop early -/

@[simp]
theorem after_pure_except (w : World κ) (a : α) :
    w.after (pure a : ExceptT ε (Run κ) α).run = w := rfl

@[simp]
theorem result_pure_except (w : World κ) (a : α) :
    w.result (pure a : ExceptT ε (Run κ) α).run = .ok a := rfl

/-- What follows is done only where the first part gives a value. -/
theorem after_bind_except (w : World κ) (x : ExceptT ε (Run κ) α)
    (f : α → ExceptT ε (Run κ) β) :
    w.after (x >>= f).run =
      match w.result x.run with
      | .ok a => (w.after x.run).after (f a).run
      | .error _ => w.after x.run := by
  rw [ExceptT.run_bind, after_bind]
  cases w.result x.run <;> rfl

theorem result_bind_except (w : World κ) (x : ExceptT ε (Run κ) α)
    (f : α → ExceptT ε (Run κ) β) :
    w.result (x >>= f).run =
      match w.result x.run with
      | .ok a => (w.after x.run).result (f a).run
      | .error e => .error e := by
  rw [ExceptT.run_bind, result_bind]
  cases w.result x.run <;> rfl

theorem after_bind_of_ok {w : World κ} {x : ExceptT ε (Run κ) α} {a : α}
    (h : w.result x.run = .ok a) (f : α → ExceptT ε (Run κ) β) :
    w.after (x >>= f).run = (w.after x.run).after (f a).run := by
  rw [after_bind_except, h]

theorem result_bind_of_ok {w : World κ} {x : ExceptT ε (Run κ) α} {a : α}
    (h : w.result x.run = .ok a) (f : α → ExceptT ε (Run κ) β) :
    w.result (x >>= f).run = (w.after x.run).result (f a).run := by
  rw [result_bind_except, h]

theorem after_bind_of_error {w : World κ} {x : ExceptT ε (Run κ) α} {e : ε}
    (h : w.result x.run = .error e) (f : α → ExceptT ε (Run κ) β) :
    w.after (x >>= f).run = w.after x.run := by
  rw [after_bind_except, h]

theorem result_bind_of_error {w : World κ} {x : ExceptT ε (Run κ) α} {e : ε}
    (h : w.result x.run = .error e) (f : α → ExceptT ε (Run κ) β) :
    w.result (x >>= f).run = .error e := by
  rw [result_bind_except, h]

/-- What is only computed from a value changes nothing. -/
theorem after_bind_pure_except (w : World κ) (x : ExceptT ε (Run κ) α) (f : α → β) :
    w.after (x >>= fun a => pure (f a)).run = w.after x.run := by
  rw [after_bind_except]
  cases w.result x.run <;> rfl

@[simp]
theorem after_get_bind_except (w : World κ) (f : World κ → ExceptT ε (Run κ) β) :
    w.after ((get : ExceptT ε (Run κ) (World κ)) >>= f).run = w.after (f w).run := rfl

@[simp]
theorem result_get_bind_except (w : World κ) (f : World κ → ExceptT ε (Run κ) β) :
    w.result ((get : ExceptT ε (Run κ) (World κ)) >>= f).run = w.result (f w).run := rfl

@[simp]
theorem after_ofRun (w : World κ) (m : Run κ α) : w.after (Act.ofRun m).run = w.after m := rfl

@[simp]
theorem result_ofRun (w : World κ) (m : Run κ α) :
    w.result (Act.ofRun m).run = .ok (w.result m) := rfl

@[simp]
theorem after_ofRun_bind (w : World κ) (m : Run κ α) (f : α → Act κ β) :
    w.after (Act.ofRun m >>= f).run = (w.after m).after (f (w.result m)).run := rfl

@[simp]
theorem result_ofRun_bind (w : World κ) (m : Run κ α) (f : α → Act κ β) :
    w.result (Act.ofRun m >>= f).run = (w.after m).result (f (w.result m)).run := rfl

@[simp]
theorem after_discard_ofRun (w : World κ) (m : Run κ α) :
    w.after (discard (Act.ofRun m)).run = w.after m := rfl

@[simp]
theorem result_discard_ofRun (w : World κ) (m : Run κ α) :
    w.result (discard (Act.ofRun m)).run = .ok () := rfl

@[simp]
theorem after_ofResult (w : World κ) (m : Run κ (Except Stop α)) :
    w.after (Act.ofResult m).run = w.after m := rfl

@[simp]
theorem result_ofResult (w : World κ) (m : Run κ (Except Stop α)) :
    w.result (Act.ofResult m).run = w.result m := rfl

@[simp]
theorem after_call_ofResult (w : World κ) (m : Run κ (Except Failure α)) :
    w.after (Call.ofResult m).run = w.after m := rfl

@[simp]
theorem result_call_ofResult (w : World κ) (m : Run κ (Except Failure α)) :
    w.result (Call.ofResult m).run = w.result m := rfl

@[simp]
theorem after_ofCall (w : World κ) (c : Call κ α) : w.after (Act.ofCall c).run = w.after c.run :=
  rfl

theorem result_ofCall (w : World κ) (c : Call κ α) :
    w.result (Act.ofCall c).run = (w.result c.run).mapError Stop.failed := rfl

@[simp]
theorem after_ofReaction (w : World κ) (r : Run κ (Option Payload)) :
    w.after (Act.ofReaction r).run = w.after r := by
  show w.after (r >>= _) = _
  rw [after_bind]
  cases w.result r <;> rfl

theorem result_ofReaction (w : World κ) (r : Run κ (Option Payload)) :
    w.result (Act.ofReaction r).run =
      match w.result r with
      | none => .ok ()
      | some payload => .error (.panicked payload) := by
  show w.result (r >>= _) = _
  rw [result_bind]
  cases w.result r <;> rfl

@[simp]
theorem result_orUndo (w : World κ) (x : Act κ α) (cleanup : Run κ Unit) :
    w.result (x.orUndo cleanup).run = w.result x.run := by
  show w.result (x.run >>= _) = _
  rw [result_bind]
  rcases w.result x.run with (_ | _) | _ <;> rfl

/-- The clean-up is run on failures. -/
theorem after_orUndo_of_failed {w : World κ} {x : Act κ α} {cause : Failure}
    (h : w.result x.run = .error (.failed cause)) (cleanup : Run κ Unit) :
    w.after (x.orUndo cleanup).run = (w.after x.run).after cleanup := by
  show w.after (x.run >>= _) = _
  rw [after_bind, h]
  rfl

/-- A panic passes the clean-up by. -/
theorem after_orUndo_of_panicked {w : World κ} {x : Act κ α} {payload : Payload}
    (h : w.result x.run = .error (.panicked payload)) (cleanup : Run κ Unit) :
    w.after (x.orUndo cleanup).run = w.after x.run := by
  show w.after (x.run >>= _) = _
  rw [after_bind, h]
  rfl

theorem after_orUndo_of_ok {w : World κ} {x : Act κ α} {a : α}
    (h : w.result x.run = .ok a) (cleanup : Run κ Unit) :
    w.after (x.orUndo cleanup).run = w.after x.run := by
  show w.after (x.run >>= _) = _
  rw [after_bind, h]
  rfl

end World

end ServiceDirectory
