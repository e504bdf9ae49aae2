/-!
# References to what a world holds

Parts of a world that change are held under references.  A reference is typed by the
kind of part it names, and its serial number is never given out twice.
-/

namespace ServiceDirectory

/-- The kinds of parts that are named by references. -/
inductive Part
  | listener
  | sink
  | backend
  | configuration
  | executor
  | dispatcher
  | notifier
  | memory
  | backed
  | composite
  | metadata
  | registry
deriving DecidableEq, Repr

/-- The name of one part of a kind. -/
structure Ref (part : Part) where
  serial : Nat
deriving DecidableEq, Repr

end ServiceDirectory
