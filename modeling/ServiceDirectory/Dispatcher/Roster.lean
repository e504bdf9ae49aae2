import ServiceDirectory.OrderedMap
import ServiceDirectory.World.Listener

/-!
# Who listens on a dispatcher

Registrations are kept in one bucket per declared kind and numbered in the order in
which they were made, across all buckets.  An event goes to the buckets whose kind
accepts it; their registrations run by priority and, at equal priority, by number.
A bucket is sorted whenever it is changed.  A listener may change its priority later, so
what runs is sorted once more.

Numbers are not bounded here.  A counter of 64 bits gives the same numbers, since each
registration takes one and nobody makes 2^64 of them.
-/

namespace ServiceDirectory

/-- A listener with the number of its registration. -/
structure Registration where
  listener : Listener
  number : Nat
deriving DecidableEq, Repr

/-- The buckets of a dispatcher, by the name of the kind. -/
abbrev Buckets := List (String × List Registration)

/-- The registrations of a dispatcher and the next number. -/
structure Roster where
  buckets : OrderedMap String (List Registration)
  next : Nat
deriving DecidableEq, Repr

/-- Whether `a` runs before `b`, or they are the same registration. -/
def Registration.before (priority : Listener → Int) (a b : Registration) : Bool :=
  priority a.listener < priority b.listener ||
    (priority a.listener == priority b.listener && a.number ≤ b.number)

/-- Registrations in the order in which they run. -/
def inOrder (priority : Listener → Int) (registrations : List Registration) :
    List Registration :=
  registrations.mergeSort (Registration.before priority)

/-- The registrations of the buckets that accept a kind, in the order in which they run. -/
def Buckets.matching (priority : Listener → Int) (kind : EventKind) (buckets : Buckets) :
    List Registration :=
  inOrder priority
    ((buckets.filter fun bucket => kind.isNamedAbove bucket.1).flatMap Prod.snd)

/-- Keeps the first registration of each listener. -/
def firstOfEach : List Registration → List Registration
  | [] => []
  | r :: rest => r :: (firstOfEach rest).filter fun s => s.listener ≠ r.listener

/-- Every registered listener once, in the order in which they run.  Of a listener that is
registered for several kinds, the registration that is met first counts. -/
def Buckets.listeners (priority : Listener → Int) (buckets : Buckets) : List Listener :=
  (inOrder priority (firstOfEach (buckets.flatMap Prod.snd))).map Registration.listener

namespace Roster

def empty : Roster := ⟨.empty, 0⟩

instance : Inhabited Roster := ⟨empty⟩

/-- The registrations for exactly the kind of a name. -/
def bucket (r : Roster) (kind : String) : List Registration := r.buckets.getD kind []

def count (r : Roster) (kind : String) : Nat := (r.bucket kind).length

/-- Whether a listener is registered for exactly the kind of a name. -/
def holds (r : Roster) (kind : String) (l : Listener) : Bool :=
  (r.bucket kind).any fun registration => registration.listener == l

/-- Sets the registrations of a kind, in the order in which they run now; an empty bucket is
given up. -/
def setBucket (r : Roster) (priority : Listener → Int) (kind : String)
    (registrations : List Registration) : Roster :=
  { r with buckets := r.buckets.putList kind (inOrder priority registrations) }

/-- Registers a listener for a kind, unless it is registered for that kind. -/
def add (r : Roster) (priority : Listener → Int) (kind : String) (l : Listener) : Roster :=
  if r.holds kind l then r.setBucket priority kind (r.bucket kind)
  else
    { r.setBucket priority kind (r.bucket kind ++ [⟨l, r.next⟩]) with next := r.next + 1 }

/-- Forgets the registration of a listener for a kind. -/
def remove (r : Roster) (priority : Listener → Int) (kind : String) (l : Listener) : Roster :=
  r.setBucket priority kind ((r.bucket kind).filter fun s => s.listener ≠ l)

/-- The names of the kinds that have registrations, in the order of their buckets. -/
def kinds (r : Roster) : List String := r.buckets.keys

@[simp]
theorem bucket_empty (kind : String) : empty.bucket kind = [] := rfl

@[simp]
theorem bucket_setBucket (r : Roster) (priority : Listener → Int) (kind kind' : String)
    (registrations : List Registration) :
    (r.setBucket priority kind registrations).bucket kind' =
      if kind = kind' then inOrder priority registrations else r.bucket kind' := by
  simp [setBucket, bucket]

theorem holds_iff {r : Roster} {kind : String} {l : Listener} :
    r.holds kind l = true ↔ ∃ s ∈ r.bucket kind, s.listener = l := by
  simp [holds]

theorem mem_bucket_add {r : Roster} {priority : Listener → Int} {kind kind' : String}
    {l : Listener} {s : Registration} :
    s ∈ (r.add priority kind l).bucket kind' ↔
      s ∈ r.bucket kind' ∨ (kind = kind' ∧ r.holds kind l = false ∧ s = ⟨l, r.next⟩) := by
  unfold add
  split
  · rename_i hholds
    by_cases hkind : kind = kind'
    · subst hkind
      simp [hholds, inOrder]
    · simp [hkind]
  · rename_i hholds
    by_cases hkind : kind = kind'
    · subst hkind
      simp [hholds, setBucket, bucket, inOrder]
    · simp [hkind, setBucket, bucket]

theorem mem_bucket_remove {r : Roster} {priority : Listener → Int} {kind kind' : String}
    {l : Listener} {s : Registration} :
    s ∈ (r.remove priority kind l).bucket kind' ↔
      s ∈ r.bucket kind' ∧ ¬ (kind = kind' ∧ s.listener = l) := by
  by_cases hkind : kind = kind'
  · subst hkind
    simp [remove, inOrder]
  · simp [remove, hkind]

theorem exists_mem_bucket_add (r : Roster) (priority : Listener → Int) (kind : String)
    (l : Listener) : ∃ s ∈ (r.add priority kind l).bucket kind, s.listener = l := by
  cases hholds : r.holds kind l with
  | true =>
    obtain ⟨s, hs, hl⟩ := holds_iff.1 hholds
    exact ⟨s, mem_bucket_add.2 (Or.inl hs), hl⟩
  | false => exact ⟨_, mem_bucket_add.2 (Or.inr ⟨rfl, hholds, rfl⟩), rfl⟩

end Roster

end ServiceDirectory
