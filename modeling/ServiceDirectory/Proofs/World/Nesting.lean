import ServiceDirectory.World.Host
import Mathlib.Logic.Relation

/-!
# Calls within calls

While a collaborator is called, it may itself call the library, and the collaborators of that call
may do the same.  How deep such calls are nested is not bounded, but each call has a depth: a
collaborator of depth `n + 1` makes moves in which the collaborators are of depth `n`.

Nothing is said here of what can happen.  It is given by a relation `Move`, for collaborators of
which a property holds, and by a condition `Behaves`, that a collaborator does what a relation
allows.
-/

namespace ServiceDirectory.Nesting

variable {κ : Type} (Move : (Host κ → Prop) → World κ → World κ → Prop)
  (Behaves : (World κ → World κ → Prop) → Host κ → Prop)

/-- What happens in a row. -/
def Moves (P : Host κ → Prop) : World κ → World κ → Prop := Relation.ReflTransGen (Move P)

/-- The collaborators whose calls are nested no deeper than a depth.  At depth zero they call
nothing of the library that calls a collaborator. -/
def Orderly : Nat → Host κ → Prop
  | 0 => Behaves (Moves Move fun _ => False)
  | depth + 1 => Behaves (Moves Move (Orderly depth))

/-- A run of moves among collaborators of whatever depth. -/
def Runs : World κ → World κ → Prop := Moves Move fun host => ∃ depth, Orderly Move Behaves depth host

/-- Each move keeps to a relation when the collaborators in it do. -/
structure KeepsTo (R : World κ → World κ → Prop) : Prop where
  refl : ∀ w, R w w
  trans : ∀ {u v w}, R u v → R v w → R u w
  /-- Who does what a relation allows does what a weaker one allows. -/
  mono : ∀ {M : World κ → World κ → Prop} {host}, Behaves M host →
    (∀ {w w'}, M w w' → R w w') → Behaves R host
  move : ∀ {P : Host κ → Prop} {w w'}, (∀ host, P host → Behaves R host) → Move P w w' → R w w'

namespace KeepsTo

variable {Move Behaves} {R : World κ → World κ → Prop} {w w' : World κ}

theorem moves (h : KeepsTo Move Behaves R) {P : Host κ → Prop}
    (hP : ∀ host, P host → Behaves R host) (hmoves : Moves Move P w w') : R w w' := by
  induction hmoves with
  | refl => exact h.refl w
  | tail _ hmove ih => exact h.trans ih (h.move hP hmove)

/-- The induction is on the depth: what a collaborator does is a run of moves in which the
collaborators are of a smaller one. -/
theorem orderly (h : KeepsTo Move Behaves R) {depth : Nat} {host : Host κ}
    (hhost : Orderly Move Behaves depth host) : Behaves R host := by
  induction depth generalizing host with
  | zero => exact h.mono hhost fun hmoves => h.moves (fun _ hnone => hnone.elim) hmoves
  | succ depth ih => exact h.mono hhost fun hmoves => h.moves (fun _ hdeeper => ih hdeeper) hmoves

theorem runs (h : KeepsTo Move Behaves R) (hruns : Runs Move Behaves w w') : R w w' :=
  h.moves (fun _ ⟨_, hhost⟩ => h.orderly hhost) hruns

end KeepsTo

end ServiceDirectory.Nesting
