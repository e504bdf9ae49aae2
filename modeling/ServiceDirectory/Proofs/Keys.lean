import ServiceDirectory.OrderedMap
import Mathlib.Data.List.Induction
import Mathlib.Data.List.Nodup

/-!
# Maps that hold each key once

Setting and erasing keys never leaves a map with two entries of one key.  In such a map an
entry is what its key looks up, so the values of the map are known from its look-ups.  The same
goes for lists that take in only what is new to them.
-/

namespace ServiceDirectory

/-! ## Lists -/

section Enlisting

variable {α : Type} [DecidableEq α] {l : List α} {a b : α}

/-- What is new goes to the end. -/
def enlist (l : List α) (a : α) : List α := if a ∈ l then l else l ++ [a]

theorem mem_enlist : b ∈ enlist l a ↔ b ∈ l ∨ b = a := by
  unfold enlist
  split_ifs with ha
  · exact ⟨Or.inl, fun h => h.elim id fun hb => hb ▸ ha⟩
  · simp

theorem nodup_enlist (h : l.Nodup) (a : α) : (enlist l a).Nodup := by
  unfold enlist
  split_ifs with ha
  · exact h
  · exact List.concat_eq_append ▸ h.concat ha

end Enlisting

/-! ## Maps -/

namespace OrderedMap

variable {κ ν : Type} [DecidableEq κ] {m : OrderedMap κ ν}

omit [DecidableEq κ] in
theorem keys_nodup_empty : (empty : OrderedMap κ ν).keys.Nodup := List.nodup_nil

theorem keys_nodup_insert (h : m.keys.Nodup) (k : κ) (v : ν) : (m.insert k v).keys.Nodup := by
  rw [keys_insert]
  split
  · exact h
  · rename_i hk
    exact List.concat_eq_append ▸ h.concat hk

theorem keys_nodup_erase (h : m.keys.Nodup) (k : κ) : (m.erase k).keys.Nodup := by
  rw [keys_erase]
  exact h.filter _

theorem keys_nodup_putList {m : OrderedMap κ (List ν)} (h : m.keys.Nodup) (k : κ)
    (list : List ν) : (m.putList k list).keys.Nodup := by
  unfold putList
  split
  · exact keys_nodup_erase h k
  · exact keys_nodup_insert h k list

theorem mem_of_lookupIn {entries : List (κ × ν)} {k : κ} {v : ν}
    (h : lookupIn entries k = some v) : (k, v) ∈ entries := by
  induction entries with
  | nil => cases h
  | cons entry rest ih =>
    obtain ⟨k', v'⟩ := entry
    by_cases hk : k' = k
    · rw [lookupIn, if_pos hk] at h
      rw [hk, Option.some.inj h]
      exact List.mem_cons_self
    · rw [lookupIn, if_neg hk] at h
      exact List.mem_cons_of_mem _ (ih h)

theorem mem_iff_lookupIn {entries : List (κ × ν)} (h : (entries.map Prod.fst).Nodup)
    (k : κ) (v : ν) : (k, v) ∈ entries ↔ lookupIn entries k = some v := by
  induction entries with
  | nil => simp [lookupIn]
  | cons entry rest ih =>
    obtain ⟨k', v'⟩ := entry
    rw [List.map_cons, List.nodup_cons] at h
    by_cases hk : k' = k
    · subst hk
      have hnot : (k', v) ∉ rest := fun hmem =>
        h.1 (List.mem_map.2 ⟨(k', v), hmem, rfl⟩)
      simp [lookupIn, hnot, eq_comm]
    · simp [lookupIn, hk, Ne.symm hk, ih h.2]

/-- The entries are what the keys look up. -/
theorem mem_entries_iff (h : m.keys.Nodup) (k : κ) (v : ν) :
    (k, v) ∈ m.entries ↔ m.get? k = some v :=
  mem_iff_lookupIn h k v

theorem mem_getD_iff {m : OrderedMap κ (List ν)} {k : κ} {x : ν} :
    x ∈ m.getD k [] ↔ ∃ list, m.get? k = some list ∧ x ∈ list := by
  cases hk : m.get? k <;> simp [getD, hk]

theorem mem_flatten_values {m : OrderedMap κ (List ν)} (h : m.keys.Nodup) (x : ν) :
    x ∈ m.values.flatten ↔ ∃ k, x ∈ m.getD k [] := by
  constructor
  · intro hx
    obtain ⟨list, hlist, hx⟩ := List.mem_flatten.1 hx
    obtain ⟨⟨k, list'⟩, hentry, rfl⟩ := List.mem_map.1 hlist
    exact ⟨k, mem_getD_iff.2 ⟨list', (mem_entries_iff h k list').1 hentry, hx⟩⟩
  · rintro ⟨k, hx⟩
    obtain ⟨list, hk, hx⟩ := mem_getD_iff.1 hx
    have hentry := (mem_entries_iff h k list).2 hk
    exact List.mem_flatten.2 ⟨list, List.mem_map_of_mem hentry, hx⟩

/-- Lists that repeat nothing, and share nothing between keys, repeat nothing together. -/
theorem nodup_flatten_values {m : OrderedMap κ (List ν)} (h : m.keys.Nodup)
    (hlists : ∀ k, (m.getD k []).Nodup)
    (hapart : ∀ k k' x, x ∈ m.getD k [] → x ∈ m.getD k' [] → k = k') :
    m.values.flatten.Nodup := by
  have hlist : ∀ k list, (k, list) ∈ m.entries → m.getD k [] = list := by
    intro k list hentry
    rw [getD, (mem_entries_iff h k list).1 hentry]
    rfl
  rw [List.nodup_flatten]
  constructor
  · intro list hmem
    obtain ⟨⟨k, list'⟩, hentry, rfl⟩ := List.mem_map.1 hmem
    exact hlist k list' hentry ▸ hlists k
  · have hkeys : m.entries.Pairwise fun a b => a.1 ≠ b.1 := List.pairwise_map.1 h
    refine List.pairwise_map.2 (hkeys.imp_of_mem ?_)
    intro a b ha hb hne x hxa hxb
    refine hne (hapart a.1 b.1 x ?_ ?_)
    · rwa [hlist a.1 a.2 ha]
    · rwa [hlist b.1 b.2 hb]

theorem setIn_of_not_mem {entries : List (κ × ν)} {k : κ} (h : k ∉ entries.map Prod.fst)
    (v : ν) : setIn entries k v = entries ++ [(k, v)] := by
  induction entries with
  | nil => rfl
  | cons entry rest ih =>
    obtain ⟨k', v'⟩ := entry
    simp only [List.map_cons, List.mem_cons, not_or] at h
    rw [setIn, if_neg (Ne.symm h.1), ih h.2, List.cons_append]

/-- Setting the entries of such a map one by one gives the map back. -/
theorem ofList_entries (h : m.keys.Nodup) : ofList m.entries = m := by
  have hfold : ∀ rest before : List (κ × ν), ((before ++ rest).map Prod.fst).Nodup →
      rest.foldl (fun m entry => m.insert entry.1 entry.2) (⟨before⟩ : OrderedMap κ ν) =
        ⟨before ++ rest⟩ := by
    intro rest
    induction rest with
    | nil => simp
    | cons entry rest ih =>
      intro before hnodup
      have hnew : entry.1 ∉ before.map Prod.fst := by
        rw [List.map_append, List.map_cons, List.nodup_append] at hnodup
        intro hmem
        exact hnodup.2.2 _ hmem entry.1 (by simp) rfl
      rw [List.foldl_cons, insert, setIn_of_not_mem hnew, ih]
      · simp
      · simpa using hnodup
  exact hfold m.entries [] h

/-! ## What settings leave -/

/-- What is left of settings that are made one by one: each key once, in the order in which the
keys came first, and with the value that it was set to last. -/
structure Collects (settings entries : List (κ × ν)) : Prop where
  mem_iff : ∀ entry, entry ∈ entries ↔
    ∃ before after, settings = before ++ entry :: after ∧ entry.1 ∉ after.map Prod.fst
  inOrder : entries.Pairwise fun a b =>
    (settings.map Prod.fst).idxOf a.1 < (settings.map Prod.fst).idxOf b.1

/-- The last settings of the keys after one more. -/
theorem last_setting_concat_iff {settings : List (κ × ν)} {k k' : κ} {v v' : ν} :
    (∃ before after, settings ++ [(k, v)] = before ++ (k', v') :: after ∧
        k' ∉ after.map Prod.fst) ↔
      if k = k' then v = v' else
        ∃ before after, settings = before ++ (k', v') :: after ∧ k' ∉ after.map Prod.fst := by
  constructor
  · rintro ⟨before, after, hsettings, hlast⟩
    rcases List.eq_nil_or_concat after with rfl | ⟨after, last, rfl⟩
    · obtain ⟨rfl, hentry⟩ := List.append_inj' hsettings rfl
      obtain ⟨rfl, rfl⟩ : k = k' ∧ v = v' := by simpa using hentry
      rw [if_pos rfl]
    · rw [List.concat_eq_append, ← List.cons_append, ← List.append_assoc] at hsettings
      obtain ⟨rfl, hentry⟩ := List.append_inj' hsettings rfl
      obtain rfl : (k, v) = last := by simpa using hentry
      have hother : k ≠ k' := by
        rintro rfl
        exact hlast (by simp)
      rw [if_neg hother]
      exact ⟨before, after, rfl, fun hmem => hlast (by simpa using Or.inl hmem)⟩
  · split_ifs with hk
    · rintro rfl
      exact ⟨settings, [], by rw [hk], by simp⟩
    · rintro ⟨before, after, rfl, hlast⟩
      refine ⟨before, after ++ [(k, v)], by simp, ?_⟩
      rw [List.map_append, List.mem_append, not_or]
      exact ⟨hlast, by simpa using Ne.symm hk⟩

theorem ofList_concat (settings : List (κ × ν)) (entry : κ × ν) :
    ofList (settings ++ [entry]) = (ofList settings).insert entry.1 entry.2 := by
  rw [ofList, List.foldl_append]
  rfl

theorem mem_keys_ofList (settings : List (κ × ν)) (k : κ) :
    k ∈ (ofList settings).keys ↔ k ∈ settings.map Prod.fst := by
  induction settings using List.reverseRecOn with
  | nil => rfl
  | append_singleton settings entry ih =>
    rw [ofList_concat, keys_insert, List.map_append, List.mem_append, ← ih]
    split_ifs with hentry
    · exact ⟨Or.inl, fun h => h.elim id fun hk => by simp_all⟩
    · simp

theorem keys_ofList_inOrder (settings : List (κ × ν)) :
    (ofList settings).keys.Pairwise fun a b =>
      (settings.map Prod.fst).idxOf a < (settings.map Prod.fst).idxOf b := by
  induction settings using List.reverseRecOn with
  | nil => exact List.Pairwise.nil
  | append_singleton settings entry ih =>
    obtain ⟨k, v⟩ := entry
    have hplace : ∀ a ∈ (ofList settings).keys,
        ((settings ++ [(k, v)]).map Prod.fst).idxOf a = (settings.map Prod.fst).idxOf a := by
      intro a ha
      rw [List.map_append, List.idxOf_append_of_mem ((mem_keys_ofList settings a).1 ha)]
    have hbefore := ih.imp_of_mem fun {a b} ha hb hlt => by
      rw [← hplace a ha, ← hplace b hb] at hlt
      exact hlt
    rw [ofList_concat, keys_insert]
    split_ifs with hk
    · exact hbefore
    · rw [mem_keys_ofList] at hk
      refine List.pairwise_append.2 ⟨hbefore, List.pairwise_singleton _ _, fun a ha b hb => ?_⟩
      rw [List.mem_singleton.1 hb, hplace a ha, List.map_append, List.idxOf_append_of_notMem hk]
      have hlt := List.idxOf_lt_length_iff.2 ((mem_keys_ofList settings a).1 ha)
      omega

theorem keys_nodup_ofList (settings : List (κ × ν)) : (ofList settings).keys.Nodup := by
  refine (keys_ofList_inOrder settings).imp fun {a b} hlt heq => ?_
  rw [heq] at hlt
  exact Nat.lt_irrefl _ hlt

theorem collects_ofList (settings : List (κ × ν)) :
    Collects settings (ofList settings).entries where
  mem_iff := by
    induction settings using List.reverseRecOn with
    | nil => simp [ofList]
    | append_singleton settings entry ih =>
      obtain ⟨k, v⟩ := entry
      have hkeys := keys_nodup_ofList settings
      rintro ⟨k', v'⟩
      rw [ofList_concat, mem_entries_iff (keys_nodup_insert hkeys k v), get?_insert,
        last_setting_concat_iff]
      split_ifs with hk
      · exact Option.some_inj
      · rw [← mem_entries_iff hkeys, ih]
  inOrder := by
    have hkeys := keys_ofList_inOrder settings
    rw [keys, List.pairwise_map] at hkeys
    exact hkeys

section Collects

variable {settings entries entries' : List (κ × ν)}

theorem Collects.keys_nodup (h : Collects settings entries) : (entries.map Prod.fst).Nodup := by
  refine List.pairwise_map.2 (h.inOrder.imp fun {a b} hlt heq => ?_)
  rw [heq] at hlt
  exact Nat.lt_irrefl _ hlt

theorem Collects.mem (h : Collects settings entries) {entry : κ × ν} (hentry : entry ∈ entries) :
    entry ∈ settings := by
  obtain ⟨before, after, rfl, -⟩ := (h.mem_iff entry).1 hentry
  exact List.mem_append_right _ List.mem_cons_self

/-- Settings leave one list of entries only. -/
theorem Collects.unique (h : Collects settings entries) (h' : Collects settings entries') :
    entries = entries' := by
  have hperm : entries.Perm entries' := by
    rw [List.perm_ext_iff_of_nodup h.keys_nodup.of_map h'.keys_nodup.of_map]
    exact fun entry => (h.mem_iff entry).trans (h'.mem_iff entry).symm
  exact hperm.eq_of_pairwise (fun a b _ _ hab hba => absurd hab (Nat.lt_asymm hba))
    h.inOrder h'.inOrder

end Collects

end OrderedMap

end ServiceDirectory
