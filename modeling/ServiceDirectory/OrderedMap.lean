/-!
# Insertion-ordered maps

A finite map that remembers the order in which its keys were first set.  Setting
a key that is already there keeps its place and replaces its value; erasing a key
and setting it again moves it to the end.

The view of a map is its list of entries.  `get?_insert` and `get?_erase` say what
each operation does to every look-up.
-/

namespace ServiceDirectory

/-- A list of keyed entries, read by the first entry of a key. -/
structure OrderedMap (κ ν : Type) where
  /-- The entries, in the order in which their keys were first set. -/
  entries : List (κ × ν)
deriving DecidableEq, Repr

namespace OrderedMap

variable {κ ν : Type}

def empty : OrderedMap κ ν := ⟨[]⟩

instance : EmptyCollection (OrderedMap κ ν) := ⟨empty⟩

instance : Inhabited (OrderedMap κ ν) := ⟨empty⟩

def keys (m : OrderedMap κ ν) : List κ := m.entries.map Prod.fst

def values (m : OrderedMap κ ν) : List ν := m.entries.map Prod.snd

variable [DecidableEq κ]

/-- The value of the first entry of `k`. -/
def lookupIn : List (κ × ν) → κ → Option ν
  | [], _ => none
  | (k', v) :: rest, k => if k' = k then some v else lookupIn rest k

/-- Replaces the value at the first entry of `k`, or appends a new entry. -/
def setIn : List (κ × ν) → κ → ν → List (κ × ν)
  | [], k, v => [(k, v)]
  | (k', v') :: rest, k, v =>
    if k' = k then (k', v) :: rest else (k', v') :: setIn rest k v

def get? (m : OrderedMap κ ν) (k : κ) : Option ν := lookupIn m.entries k

/-- The value of `k`, or `d` if it has none. -/
def getD (m : OrderedMap κ ν) (k : κ) (d : ν) : ν := (m.get? k).getD d

def contains (m : OrderedMap κ ν) (k : κ) : Bool := (m.get? k).isSome

def insert (m : OrderedMap κ ν) (k : κ) (v : ν) : OrderedMap κ ν := ⟨setIn m.entries k v⟩

def erase (m : OrderedMap κ ν) (k : κ) : OrderedMap κ ν :=
  ⟨m.entries.filter fun entry => entry.1 ≠ k⟩

/-- Sets `k` to a list, or gives `k` up when the list is empty. -/
def putList {ν : Type} (m : OrderedMap κ (List ν)) (k : κ) (list : List ν) :
    OrderedMap κ (List ν) :=
  if list.isEmpty then m.erase k else m.insert k list

/-- Sets the entries of a list one by one. -/
def ofList (entries : List (κ × ν)) : OrderedMap κ ν :=
  entries.foldl (fun m entry => m.insert entry.1 entry.2) empty

omit [DecidableEq κ] in
@[simp]
theorem entries_empty : (empty : OrderedMap κ ν).entries = [] := rfl

@[simp]
theorem get?_empty (k : κ) : (empty : OrderedMap κ ν).get? k = none := rfl

theorem lookupIn_setIn (entries : List (κ × ν)) (k k' : κ) (v : ν) :
    lookupIn (setIn entries k v) k' = if k = k' then some v else lookupIn entries k' := by
  induction entries with
  | nil => simp [setIn, lookupIn]
  | cons entry rest ih =>
    obtain ⟨k₀, v₀⟩ := entry
    by_cases h : k₀ = k
    · by_cases h' : k = k' <;> simp_all [setIn, lookupIn]
    · by_cases h' : k₀ = k'
      · subst h'
        simp [setIn, lookupIn, h, Ne.symm h]
      · simp [setIn, lookupIn, h, h', ih]

/-- Setting a key decides its own look-up and no other. -/
@[simp]
theorem get?_insert (m : OrderedMap κ ν) (k k' : κ) (v : ν) :
    (m.insert k v).get? k' = if k = k' then some v else m.get? k' :=
  lookupIn_setIn m.entries k k' v

theorem lookupIn_filter (entries : List (κ × ν)) (k k' : κ) :
    lookupIn (entries.filter fun entry => entry.1 ≠ k) k' =
      if k = k' then none else lookupIn entries k' := by
  induction entries with
  | nil => simp [lookupIn]
  | cons entry rest ih =>
    obtain ⟨k₀, v₀⟩ := entry
    by_cases h : k₀ = k
    · subst h
      by_cases h' : k₀ = k' <;> simp_all [lookupIn]
    · by_cases h' : k₀ = k'
      · subst h'
        simp [lookupIn, h, Ne.symm h]
      · simp_all [lookupIn]

/-- Erasing a key empties its own look-up and no other. -/
@[simp]
theorem get?_erase (m : OrderedMap κ ν) (k k' : κ) :
    (m.erase k).get? k' = if k = k' then none else m.get? k' :=
  lookupIn_filter m.entries k k'

theorem map_fst_setIn (entries : List (κ × ν)) (k : κ) (v : ν) :
    (setIn entries k v).map Prod.fst =
      if k ∈ entries.map Prod.fst then entries.map Prod.fst
      else entries.map Prod.fst ++ [k] := by
  induction entries with
  | nil => simp [setIn]
  | cons entry rest ih =>
    obtain ⟨k₀, v₀⟩ := entry
    by_cases h : k₀ = k
    · simp [setIn, h]
    · simp only [setIn, h, if_false, List.map_cons, ih, List.mem_cons, Ne.symm h, false_or]
      split <;> simp

/-- Setting a key that is there keeps the order of keys; a new key goes to the end. -/
theorem keys_insert (m : OrderedMap κ ν) (k : κ) (v : ν) :
    (m.insert k v).keys = if k ∈ m.keys then m.keys else m.keys ++ [k] :=
  map_fst_setIn m.entries k v

/-- Giving up empty lists does not change what is listed under any key. -/
@[simp]
theorem getD_putList {ν : Type} (m : OrderedMap κ (List ν)) (k k' : κ) (list : List ν) :
    (m.putList k list).getD k' [] = if k = k' then list else m.getD k' [] := by
  unfold putList
  split
  · rename_i he
    by_cases h : k = k'
    · simp [getD, h, List.isEmpty_iff.1 he]
    · simp [getD, h]
  · by_cases h : k = k' <;> simp [getD, h]

@[simp]
theorem getD_insert (m : OrderedMap κ ν) (k k' : κ) (v d : ν) :
    (m.insert k v).getD k' d = if k = k' then v else m.getD k' d := by
  by_cases h : k = k' <;> simp [getD, h]

theorem keys_erase (m : OrderedMap κ ν) (k : κ) :
    (m.erase k).keys = m.keys.filter (· ≠ k) := by
  simp [keys, erase, List.filter_map, Function.comp_def]

end OrderedMap

end ServiceDirectory
