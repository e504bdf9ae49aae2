import ServiceDirectory.Metadata.UrlTable
import ServiceDirectory.Proofs.Keys

/-!
# The order of keys and the map of lists

A table has its strings in a map and the keys of the map in a list.  The two are written in
different places: a key goes to the list when it is opened, and the strings under it come and go
in the map.  `Coupled` says that the list has each key of the map once and no other, which every
call keeps.
-/

namespace ServiceDirectory

theorem OrderedMap.contains_insert {κ ν : Type} [DecidableEq κ] (m : OrderedMap κ ν) (k k' : κ)
    (v : ν) : (m.insert k v).contains k' = true ↔ m.contains k' = true ∨ k' = k := by
  simp only [contains, get?_insert]
  split
  · rename_i hkey
    simp [hkey]
  · rename_i hkey
    exact (or_iff_left (Ne.symm hkey)).symm

namespace UrlTable

variable {t : UrlTable}

/-- The order of keys has the keys of the map, each once. -/
structure Coupled (t : UrlTable) : Prop where
  nodup : t.keyOrder.Nodup
  mem : ∀ key, key ∈ t.keyOrder ↔ t.entries.contains key = true

theorem coupled_empty : empty.Coupled where
  nodup := List.nodup_nil
  mem _ := by simp [empty, OrderedMap.contains]

/-- What has strings has been opened. -/
theorem contains_of_urls? {key : String} {urls : List String} (h : t.urls? key = some urls) :
    t.entries.contains key = true :=
  Option.isSome_of_mem h

theorem contains_opened (t : UrlTable) (key : String) :
    (t.opened key).entries.contains key = true := by
  unfold opened
  split
  · assumption
  · exact (OrderedMap.contains_insert _ _ _ _).2 (Or.inr rfl)

namespace Coupled

/-- A key that has been opened keeps its place when it is opened once more. -/
theorem keyOrder_opened (h : t.Coupled) (key : String) :
    (t.opened key).keyOrder = enlist t.keyOrder key := by
  unfold UrlTable.opened enlist
  simp only [h.mem]
  split <;> rfl

theorem opened (h : t.Coupled) (key : String) : (t.opened key).Coupled where
  nodup := by
    rw [h.keyOrder_opened]
    exact nodup_enlist h.nodup key
  mem key' := by
    rw [h.keyOrder_opened, mem_enlist, h.mem]
    unfold UrlTable.opened
    split
    · rename_i hknown
      exact or_iff_left_of_imp fun hkey => hkey ▸ hknown
    · rw [OrderedMap.contains_insert]

/-- Strings come and go under a key that has been opened. -/
theorem put (h : t.Coupled) {key : String} (hkey : t.entries.contains key = true)
    (urls : List String) : (t.put key urls).Coupled where
  nodup := h.nodup
  mem key' := by
    show key' ∈ t.keyOrder ↔ (t.entries.insert key urls).contains key' = true
    rw [h.mem, OrderedMap.contains_insert]
    exact (or_iff_left_of_imp fun hsame => hsame ▸ hkey).symm

theorem add (h : t.Coupled) (u : Url) : (t.add u).2.Coupled := by
  have hopened := h.opened u.serviceKey
  unfold UrlTable.add
  dsimp only
  split
  · exact hopened
  · exact hopened.put (contains_opened t u.serviceKey) _

theorem remove (h : t.Coupled) (u : Url) : (t.remove u).2.Coupled := by
  unfold UrlTable.remove
  split
  · exact h
  · rename_i urls hurls
    split
    · exact h.put (contains_of_urls? hurls) _
    · exact h

theorem mem_keyOrder_of_mem_get (h : t.Coupled) {key text : String} (hmem : text ∈ t.get key) :
    key ∈ t.keyOrder := by
  obtain ⟨urls, hurls, -⟩ := OrderedMap.mem_getD_iff.1 hmem
  exact (h.mem key).2 (contains_of_urls? hurls)

/-- The walk along the keys comes upon every string. -/
theorem mem_all (h : t.Coupled) (text : String) : text ∈ t.all ↔ ∃ key, text ∈ t.get key := by
  rw [all, List.mem_flatMap]
  constructor
  · rintro ⟨key, -, hmem⟩
    exact ⟨key, hmem⟩
  · rintro ⟨key, hmem⟩
    exact ⟨key, h.mem_keyOrder_of_mem_get hmem, hmem⟩

/-- Lists that repeat nothing, and share nothing between keys, repeat nothing together. -/
theorem nodup_all (h : t.Coupled) (hlists : ∀ key, (t.get key).Nodup)
    (hapart : ∀ key key' text, text ∈ t.get key → text ∈ t.get key' → key = key') :
    t.all.Nodup := by
  rw [all, List.nodup_flatMap]
  refine ⟨fun key _ => hlists key, h.nodup.imp fun {key key'} hne text hmem hmem' => ?_⟩
  exact hne (hapart key key' text hmem hmem')

end Coupled

end UrlTable

end ServiceDirectory
