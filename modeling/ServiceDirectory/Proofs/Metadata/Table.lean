import ServiceDirectory.Proofs.Metadata.Coupling
import ServiceDirectory.Proofs.Url.Readable

/-!
# Tables of readable URLs

A table keeps canonical strings under service keys.  As long as only readable URLs come in,
a string tells its URL and so its key: it is in the table at most once, and removing it
from its own list removes it from the table.
-/

namespace ServiceDirectory.UrlTable

variable {t : UrlTable}

/-- Every string is the canonical one of a readable URL with the key of its list, and stands
there once. -/
structure Filed (t : UrlTable) : Prop where
  coupled : t.Coupled
  once : ∀ key, (t.get key).Nodup
  urls : ∀ key, ∀ text ∈ t.get key, ∃ u : Url, u.Readable ∧ u.fullString = text ∧ u.serviceKey = key

theorem filed_empty : empty.Filed where
  coupled := coupled_empty
  once _ := List.nodup_nil
  urls _ _ h := nomatch h

theorem Filed.mem_all (h : t.Filed) (text : String) : text ∈ t.all ↔ ∃ key, text ∈ t.get key :=
  h.coupled.mem_all text

/-- The string of a readable URL can only be on the list of its key. -/
theorem Filed.serviceKey_eq (h : t.Filed) {u : Url} (hu : u.Readable) {key : String}
    (hmem : u.fullString ∈ t.get key) : u.serviceKey = key := by
  obtain ⟨v, hv, hsame, hkey⟩ := h.urls key _ hmem
  rw [hu.eq_of_fullString_eq hv hsame.symm, hkey]

theorem mem_get_add {u : Url} {key text : String} :
    text ∈ (t.add u).2.get key ↔ text ∈ t.get key ∨ u.serviceKey = key ∧ text = u.fullString := by
  rw [get_add]
  split
  · rename_i hnew
    simp [hnew.1]
  · rename_i hold
    constructor
    · exact Or.inl
    · rintro (hmem | ⟨hkey, rfl⟩)
      · exact hmem
      · exact Decidable.byContradiction fun hnot => hold ⟨hkey, hnot⟩

theorem Filed.mem_get_remove (h : t.Filed) {u : Url} {key text : String} :
    text ∈ (t.remove u).2.get key ↔
      text ∈ t.get key ∧ ¬(u.serviceKey = key ∧ text = u.fullString) := by
  rw [get_remove]
  split
  · rename_i hkey
    rw [(h.once key).mem_erase_iff]
    simp [hkey, and_comm]
  · rename_i hkey
    simp [hkey]

theorem Filed.add (h : t.Filed) {u : Url} (hu : u.Readable) : (t.add u).2.Filed where
  coupled := h.coupled.add u
  once key := by
    rw [get_add]
    split
    · rename_i hnew
      exact List.concat_eq_append ▸ (h.once key).concat hnew.2
    · exact h.once key
  urls key text hmem := by
    rcases mem_get_add.1 hmem with hmem | ⟨hkey, rfl⟩
    · exact h.urls key text hmem
    · exact ⟨u, hu, rfl, hkey⟩

theorem Filed.remove (h : t.Filed) (u : Url) : (t.remove u).2.Filed where
  coupled := h.coupled.remove u
  once key := by
    rw [get_remove]
    split
    · exact (h.once key).erase _
    · exact h.once key
  urls key text hmem := h.urls key text (h.mem_get_remove.1 hmem).1

theorem Filed.mem_all_add (h : t.Filed) {u : Url} (hu : u.Readable) (text : String) :
    text ∈ (t.add u).2.all ↔ text ∈ t.all ∨ text = u.fullString := by
  rw [(h.add hu).mem_all, h.mem_all]
  constructor
  · rintro ⟨key, hmem⟩
    rcases mem_get_add.1 hmem with hmem | ⟨-, htext⟩
    · exact Or.inl ⟨key, hmem⟩
    · exact Or.inr htext
  · rintro (⟨key, hmem⟩ | htext)
    · exact ⟨key, mem_get_add.2 (Or.inl hmem)⟩
    · exact ⟨u.serviceKey, mem_get_add.2 (Or.inr ⟨rfl, htext⟩)⟩

/-- Removing a readable URL from its own list removes its string from the table. -/
theorem Filed.mem_all_remove (h : t.Filed) {u : Url} (hu : u.Readable) (text : String) :
    text ∈ (t.remove u).2.all ↔ text ∈ t.all ∧ text ≠ u.fullString := by
  rw [(h.remove u).mem_all, h.mem_all]
  constructor
  · rintro ⟨key, hmem⟩
    obtain ⟨hmem, hother⟩ := h.mem_get_remove.1 hmem
    refine ⟨⟨key, hmem⟩, ?_⟩
    rintro rfl
    exact hother ⟨h.serviceKey_eq hu hmem, rfl⟩
  · rintro ⟨⟨key, hmem⟩, htext⟩
    exact ⟨key, h.mem_get_remove.2 ⟨hmem, fun hsame => htext hsame.2⟩⟩

end ServiceDirectory.UrlTable
