import ServiceDirectory.OrderedMap
import ServiceDirectory.Url.ServiceKey

/-!
# Recorded URLs by service key

A table keeps, for each service key, the canonical strings of the URLs recorded under
it, without repetition and in the order in which they were recorded.  The keys stand in a
list of their own, in the order in which they were opened.  A key keeps its place there
even when its last string is removed.
-/

namespace ServiceDirectory

/-- Canonical strings by service key. -/
structure UrlTable where
  /-- The strings under each key that has been opened. -/
  entries : OrderedMap String (List String)
  /-- The keys, in the order in which they were opened. -/
  keyOrder : List String
deriving DecidableEq, Repr

namespace UrlTable

def empty : UrlTable := ⟨.empty, []⟩

/-- The strings under a key, if it has been opened. -/
def urls? (t : UrlTable) (key : String) : Option (List String) := t.entries.get? key

def get (t : UrlTable) (key : String) : List String := (t.urls? key).getD []

/-- All recorded strings, key by key. -/
def all (t : UrlTable) : List String := t.keyOrder.flatMap t.get

/-- Opens a key: one that is new has no strings and goes to the end of the order. -/
def opened (t : UrlTable) (key : String) : UrlTable :=
  if t.entries.contains key then t
  else ⟨t.entries.insert key [], t.keyOrder ++ [key]⟩

/-- Sets the strings under a key; the order of keys stays as it is. -/
def put (t : UrlTable) (key : String) (urls : List String) : UrlTable :=
  { t with entries := t.entries.insert key urls }

/-- Records a URL under its key, which is opened first; tells whether it was not there yet. -/
def add (t : UrlTable) (u : Url) : Bool × UrlTable :=
  let t := t.opened u.serviceKey
  if u.fullString ∈ t.get u.serviceKey then (false, t)
  else (true, t.put u.serviceKey (t.get u.serviceKey ++ [u.fullString]))

/-- Forgets a URL; tells whether it was there. -/
def remove (t : UrlTable) (u : Url) : Bool × UrlTable :=
  match t.urls? u.serviceKey with
  | none => (false, t)
  | some urls =>
    if u.fullString ∈ urls then (true, t.put u.serviceKey (urls.erase u.fullString))
    else (false, t)

@[simp]
theorem get_empty (key : String) : empty.get key = [] := rfl

@[simp]
theorem get_put (t : UrlTable) (key key' : String) (urls : List String) :
    (t.put key urls).get key' = if key = key' then urls else t.get key' := by
  simp only [get, urls?, put, OrderedMap.get?_insert]
  split <;> rfl

/-- Opening a key adds no string. -/
@[simp]
theorem get_opened (t : UrlTable) (key key' : String) : (t.opened key).get key' = t.get key' := by
  unfold opened
  split
  · rfl
  · rename_i hnew
    show ((t.entries.insert key []).get? key').getD [] = (t.entries.get? key').getD []
    rw [OrderedMap.get?_insert]
    split
    · rename_i hkey
      rw [← hkey, Option.not_isSome_iff_eq_none.1 hnew]
      rfl
    · rfl

theorem get_add (t : UrlTable) (u : Url) (key : String) :
    (t.add u).2.get key =
      if u.serviceKey = key ∧ u.fullString ∉ t.get key then t.get key ++ [u.fullString]
      else t.get key := by
  unfold add
  dsimp only
  split <;> by_cases hk : u.serviceKey = key <;> simp_all

theorem get_remove (t : UrlTable) (u : Url) (key : String) :
    (t.remove u).2.get key =
      if u.serviceKey = key then (t.get key).erase u.fullString else t.get key := by
  unfold remove
  split
  · rename_i hnone
    have hget : t.get u.serviceKey = [] := by rw [get, hnone, Option.getD_none]
    by_cases hk : u.serviceKey = key
    · subst hk
      simp [hget]
    · simp [hk]
  · rename_i urls hsome
    have hget : t.get u.serviceKey = urls := by rw [get, hsome, Option.getD_some]
    split <;> by_cases hk : u.serviceKey = key
    · subst hk
      simp [hget]
    · simp [hk]
    · subst hk
      simp_all [List.erase_of_not_mem]
    · simp [hk]

end UrlTable

end ServiceDirectory
