/-!
# Kinds of events

Every event is of one kind, and every kind but a root has a parent, so the kinds form
a forest.  Kinds are compared by name alone.  A listener for a kind accepts the events
whose kind has that name somewhere on the chain of its ancestors.
-/

namespace ServiceDirectory

/-- A kind of events with the chain of its ancestors. -/
inductive EventKind
  | root (name : String)
  | child (name : String) (parent : EventKind)
deriving DecidableEq, Repr

namespace EventKind

/-- The name of the kind, which identifies it. -/
def name : EventKind → String
  | root name => name
  | child name _ => name

def parent? : EventKind → Option EventKind
  | root _ => none
  | child _ parent => some parent

/-- The kind itself and the kinds above it, up to a root. -/
def ancestors : EventKind → List EventKind
  | root name => [root name]
  | child name parent => child name parent :: parent.ancestors

def same (k l : EventKind) : Bool := k.name == l.name

/-- Whether a listener for kinds named `name` takes events of kind `k`. -/
def isNamedAbove (name : String) (k : EventKind) : Bool :=
  k.ancestors.any fun ancestor => ancestor.name == name

/-- Whether a listener for `k` takes events of kind `l`. -/
def accepts (k l : EventKind) : Bool := isNamedAbove k.name l

@[simp]
theorem ancestors_root (n : String) : (root n).ancestors = [root n] := rfl

@[simp]
theorem ancestors_child (n : String) (p : EventKind) :
    (child n p).ancestors = child n p :: p.ancestors := rfl

theorem isNamedAbove_iff {n : String} {k : EventKind} :
    isNamedAbove n k = true ↔ n ∈ k.ancestors.map name := by
  simp [isNamedAbove]

theorem accepts_refl (k : EventKind) : k.accepts k = true := by
  cases k <;> simp [accepts, isNamedAbove, name]

/-- What the parent of a kind reaches, the kind itself reaches too. -/
theorem accepts_child {k p : EventKind} {n : String} :
    k.accepts (child n p) = (n == k.name || k.accepts p) := by
  simp [accepts, isNamedAbove, name]

end EventKind

end ServiceDirectory
