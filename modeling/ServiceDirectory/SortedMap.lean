/-!
# Maps from text to text in key order

A map whose entries are listed in ascending order of their keys, code point by code
point.  Since the order is fixed by the keys, two maps with the same look-ups are the
same value; `eq_of_get?_eq` says so.
-/

namespace ServiceDirectory

/-- Sets a key in a list of entries with ascending keys. -/
def insertEntry : List (String × String) → String → String → List (String × String)
  | [], k, v => [(k, v)]
  | (k', v') :: rest, k, v =>
    if k < k' then (k, v) :: (k', v') :: rest
    else if k = k' then (k, v) :: rest
    else (k', v') :: insertEntry rest k v

theorem mem_insertEntry {entries : List (String × String)} {k v : String}
    {entry : String × String} (h : entry ∈ insertEntry entries k v) :
    entry = (k, v) ∨ entry ∈ entries := by
  induction entries with
  | nil => simpa [insertEntry] using h
  | cons first rest ih =>
    obtain ⟨k', v'⟩ := first
    unfold insertEntry at h
    split at h
    · simpa using h
    · split at h
      · rcases List.mem_cons.1 h with h | h
        · exact .inl h
        · exact .inr (List.mem_cons_of_mem _ h)
      · rcases List.mem_cons.1 h with h | h
        · exact .inr (h ▸ List.mem_cons_self)
        · exact (ih h).imp_right (List.mem_cons_of_mem _)

theorem pairwise_insertEntry {entries : List (String × String)}
    (h : entries.Pairwise fun a b => a.1 < b.1) (k v : String) :
    (insertEntry entries k v).Pairwise fun a b => a.1 < b.1 := by
  induction entries with
  | nil => simp [insertEntry]
  | cons first rest ih =>
    obtain ⟨k', v'⟩ := first
    have hrest := List.pairwise_cons.1 h
    unfold insertEntry
    split
    · rename_i hlt
      refine List.pairwise_cons.2 ⟨fun entry hentry => ?_, h⟩
      rcases List.mem_cons.1 hentry with rfl | hmem
      · exact hlt
      · exact String.lt_trans hlt (hrest.1 entry hmem)
    · split
      · rename_i heq
        subst heq
        exact List.pairwise_cons.2 ⟨fun entry hmem => hrest.1 entry hmem, hrest.2⟩
      · rename_i hnlt hne
        refine List.pairwise_cons.2 ⟨fun entry hentry => ?_, ih hrest.2⟩
        rcases mem_insertEntry hentry with rfl | hmem
        · rcases Decidable.em (k' < k) with hlt | hge
          · exact hlt
          · exact absurd (String.le_antisymm (String.not_lt.1 hge) (String.not_lt.1 hnlt)) hne
        · exact hrest.1 entry hmem

/-- A map from text to text whose entries are listed in key order. -/
structure SortedMap where
  entries : List (String × String)
  ascending : entries.Pairwise fun a b => a.1 < b.1
deriving DecidableEq

namespace SortedMap

def empty : SortedMap := ⟨[], .nil⟩

instance : EmptyCollection SortedMap := ⟨empty⟩

instance : Inhabited SortedMap := ⟨empty⟩

def insert (m : SortedMap) (k v : String) : SortedMap :=
  ⟨insertEntry m.entries k v, pairwise_insertEntry m.ascending k v⟩

/-- Sets the entries of a list one by one. -/
def ofList (entries : List (String × String)) : SortedMap :=
  entries.foldl (fun m entry => m.insert entry.1 entry.2) empty

def get? (m : SortedMap) (k : String) : Option String := m.entries.lookup k

theorem lookup_cons_eq_ite (k₀ v₀ k : String) (rest : List (String × String)) :
    List.lookup k ((k₀, v₀) :: rest) = if k₀ = k then some v₀ else rest.lookup k := by
  by_cases h : k₀ = k
  · simp [h]
  · have hne : (k == k₀) = false := by simpa using Ne.symm h
    simp [List.lookup_cons, h, hne]

theorem lookup_insertEntry (entries : List (String × String)) (k k' v : String) :
    (insertEntry entries k v).lookup k' = if k = k' then some v else entries.lookup k' := by
  induction entries with
  | nil => rw [insertEntry, lookup_cons_eq_ite]
  | cons entry rest ih =>
    obtain ⟨k₀, v₀⟩ := entry
    unfold insertEntry
    split
    · rw [lookup_cons_eq_ite]
    · split
      · rename_i heq
        subst heq
        rw [lookup_cons_eq_ite, lookup_cons_eq_ite]
        split <;> rfl
      · rename_i hne
        rw [lookup_cons_eq_ite, lookup_cons_eq_ite, ih]
        by_cases h : k₀ = k'
        · subst h
          simp [hne]
        · simp [h]

/-- Setting a key decides its own look-up and no other. -/
@[simp]
theorem get?_insert (m : SortedMap) (k k' v : String) :
    (m.insert k v).get? k' = if k = k' then some v else m.get? k' :=
  lookup_insertEntry m.entries k k' v

theorem lookup_eq_none_of_forall_lt {entries : List (String × String)} {k : String}
    (h : ∀ entry ∈ entries, k < entry.1) : entries.lookup k = none := by
  induction entries with
  | nil => rfl
  | cons entry rest ih =>
    obtain ⟨k₀, v₀⟩ := entry
    have hlt : k < k₀ := h (k₀, v₀) (by simp)
    have hne : k₀ ≠ k := fun heq => String.lt_irrefl _ (heq ▸ hlt)
    rw [lookup_cons_eq_ite, if_neg hne]
    exact ih fun e he => h e (List.mem_cons_of_mem _ he)

/-- The first key of an ascending list is no later than any key that is looked up with
success. -/
theorem not_lt_of_lookup_eq_some {entries : List (String × String)} {k k' v v' : String}
    (h : ((k', v') :: entries).Pairwise fun a b => a.1 < b.1)
    (hlookup : List.lookup k ((k', v') :: entries) = some v) : ¬ k < k' := by
  intro hlt
  have hnone : List.lookup k ((k', v') :: entries) = none :=
    lookup_eq_none_of_forall_lt fun e he => by
      rcases List.mem_cons.1 he with rfl | he
      · exact hlt
      · exact String.lt_trans hlt ((List.pairwise_cons.1 h).1 e he)
  rw [hnone] at hlookup
  cases hlookup

theorem entries_eq_of_lookup_eq {entries entries' : List (String × String)}
    (h : entries.Pairwise fun a b => a.1 < b.1) (h' : entries'.Pairwise fun a b => a.1 < b.1)
    (hlookup : ∀ k, entries.lookup k = entries'.lookup k) : entries = entries' := by
  induction entries generalizing entries' with
  | nil =>
    cases entries' with
    | nil => rfl
    | cons entry rest =>
      have hfirst := hlookup entry.1
      rw [lookup_cons_eq_ite, if_pos rfl] at hfirst
      cases hfirst
  | cons entry rest ih =>
    obtain ⟨k, v⟩ := entry
    have hfirst : List.lookup k ((k, v) :: rest) = some v := by simp
    cases entries' with
    | nil =>
      rw [hlookup k] at hfirst
      cases hfirst
    | cons entry' rest' =>
      obtain ⟨k', v'⟩ := entry'
      have hfirst' : List.lookup k' ((k', v') :: rest') = some v' := by
        simp
      have hle := not_lt_of_lookup_eq_some h' ((hlookup k).symm.trans hfirst)
      have hle' := not_lt_of_lookup_eq_some h ((hlookup k').trans hfirst')
      obtain rfl : k = k' := String.le_antisymm (String.not_lt.1 hle') (String.not_lt.1 hle)
      obtain rfl : v = v' := Option.some.inj (hfirst.symm.trans ((hlookup k).trans hfirst'))
      obtain ⟨hk, hrest⟩ := List.pairwise_cons.1 h
      obtain ⟨hk', hrest'⟩ := List.pairwise_cons.1 h'
      have htails : rest = rest' := ih hrest hrest' fun q => by
        by_cases hq : k = q
        · subst hq
          rw [lookup_eq_none_of_forall_lt hk, lookup_eq_none_of_forall_lt hk']
        · have hq' := hlookup q
          rwa [lookup_cons_eq_ite, lookup_cons_eq_ite, if_neg hq, if_neg hq] at hq'
      rw [htails]

/-- A map is determined by its look-ups. -/
theorem eq_of_get?_eq {m m' : SortedMap} (h : ∀ k, m.get? k = m'.get? k) : m = m' := by
  obtain ⟨entries, hasc⟩ := m
  obtain ⟨entries', hasc'⟩ := m'
  obtain rfl : entries = entries' := entries_eq_of_lookup_eq hasc hasc' h
  rfl

@[simp]
theorem entries_empty : empty.entries = [] := rfl

@[simp]
theorem entries_insert (m : SortedMap) (k v : String) :
    (m.insert k v).entries = insertEntry m.entries k v := rfl

end SortedMap

end ServiceDirectory
