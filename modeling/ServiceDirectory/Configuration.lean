import ServiceDirectory.OrderedMap

/-!
# Configurations in memory

Values under a group and a key.
-/

namespace ServiceDirectory

/-- Values by group and key. -/
structure Configuration where
  entries : OrderedMap (String × String) String
deriving DecidableEq, Repr

namespace Configuration

def empty : Configuration := ⟨.empty⟩

def get (c : Configuration) (key group : String) : Option String :=
  c.entries.get? (group, key)

/-- Sets a value; gives the one before. -/
def publish (c : Configuration) (key group value : String) : Option String × Configuration :=
  (c.get key group, ⟨c.entries.insert (group, key) value⟩)

/-- Removes a value; gives the one that was there. -/
def remove (c : Configuration) (key group : String) : Option String × Configuration :=
  (c.get key group, ⟨c.entries.erase (group, key)⟩)

@[simp]
theorem get_publish (c : Configuration) (key group key' group' value : String) :
    (c.publish key group value).2.get key' group' =
      if group = group' ∧ key = key' then some value else c.get key' group' := by
  simp [publish, get]

end Configuration

end ServiceDirectory
