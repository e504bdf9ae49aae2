import ServiceDirectory.Proofs.Metadata.Listing
import ServiceDirectory.Proofs.Metadata.Table

/-!
# The URLs that stand in a table

Where all recorded URLs have been read, a table is as good as one list of URLs: what it lists
under a key are the strings of those with this key, in the order of the list.  A URL that is
recorded goes to the end unless it is there, and one that is forgotten is taken out.
-/

namespace ServiceDirectory

namespace UrlTable

/-- The canonical strings of the URLs with a service key. -/
def printed (key : String) (urls : List Url) : List String :=
  (urls.filter fun u => u.serviceKey = key).map Url.fullString

theorem mem_printed {key text : String} {urls : List Url} :
    text ∈ printed key urls ↔ ∃ u ∈ urls, u.serviceKey = key ∧ u.fullString = text := by
  simp [printed, and_assoc]

theorem printed_concat (key : String) (urls : List Url) (u : Url) :
    printed key (urls ++ [u]) =
      if u.serviceKey = key then printed key urls ++ [u.fullString] else printed key urls := by
  rw [printed, List.filter_append, List.map_append]
  split_ifs with hkey
  · simp [printed, hkey]
  · simp [printed, hkey]

/-- A table holds the URLs of a list, in its order. -/
structure Holds (t : UrlTable) (urls : List Url) : Prop where
  nodup : urls.Nodup
  readable : ∀ u ∈ urls, u.Readable
  get : ∀ key, t.get key = printed key urls

theorem holds_empty : empty.Holds [] :=
  ⟨List.nodup_nil, fun _ h => (nomatch h), fun _ => rfl⟩

namespace Holds

variable {t : UrlTable} {urls : List Url} {u : Url}

theorem mem_printed (h : t.Holds urls) (hu : u.Readable) {key : String} :
    u.fullString ∈ printed key urls ↔ u ∈ urls ∧ u.serviceKey = key := by
  rw [UrlTable.mem_printed]
  constructor
  · rintro ⟨v, hv, hkey, hsame⟩
    rw [← (h.readable v hv).eq_of_fullString_eq hu hsame]
    exact ⟨hv, hkey⟩
  · rintro ⟨hmem, hkey⟩
    exact ⟨u, hmem, hkey, rfl⟩

theorem add (h : t.Holds urls) (hu : u.Readable) : (t.add u).2.Holds (enlist urls u) := by
  refine ⟨nodup_enlist h.nodup u, fun v hv => ?_, fun key => ?_⟩
  · rcases mem_enlist.1 hv with hv | rfl
    · exact h.readable v hv
    · exact hu
  · rw [get_add, h.get, enlist]
    by_cases hknown : u ∈ urls
    · rw [if_pos hknown, if_neg]
      rintro ⟨rfl, hnew⟩
      exact hnew ((h.mem_printed hu).2 ⟨hknown, rfl⟩)
    · rw [if_neg hknown, printed_concat]
      by_cases hkey : u.serviceKey = key
      · rw [if_pos ⟨hkey, fun hmem => hknown ((h.mem_printed hu).1 hmem).1⟩, if_pos hkey]
      · rw [if_neg fun hnew => hkey hnew.1, if_neg hkey]

theorem printed_erase (h : t.Holds urls) (hu : u.Readable) (key : String) :
    printed key (urls.erase u) =
      if u.serviceKey = key then (printed key urls).erase u.fullString else printed key urls := by
  have hsame : ∀ v ∈ urls, v.fullString = u.fullString → v = u := fun v hv =>
    (h.readable v hv).eq_of_fullString_eq hu
  have hnodup : (printed key urls).Nodup := by
    refine (h.nodup.filter _).map_on fun v hv v' hv' heq => ?_
    exact (h.readable v (List.mem_of_mem_filter hv)).eq_of_fullString_eq
      (h.readable v' (List.mem_of_mem_filter hv')) heq
  -- Nothing is there twice, neither URLs nor strings, so to erase is to filter.
  rw [hnodup.erase_eq_filter, printed, h.nodup.erase_eq_filter, printed, List.filter_filter]
  split_ifs with hkey
  · rw [List.filter_map, List.filter_filter]
    refine congrArg _ (List.filter_congr fun v hv => ?_)
    have hiff : v.fullString = u.fullString ↔ v = u := ⟨hsame v hv, congrArg _⟩
    rw [Bool.and_comm, Bool.eq_iff_iff]
    simp [hiff]
  · refine congrArg _ (List.filter_congr fun v _ => ?_)
    have hother : v.serviceKey = key → v ≠ u := by
      rintro hv rfl
      exact hkey hv
    simpa using hother

theorem remove (h : t.Holds urls) (hu : u.Readable) : (t.remove u).2.Holds (urls.erase u) := by
  refine ⟨h.nodup.erase u, fun v hv => h.readable v (List.mem_of_mem_erase hv), fun key => ?_⟩
  rw [get_remove, h.get, h.printed_erase hu]

end Holds

end UrlTable

namespace MetadataStore

variable {κ : Type}

/-- The URLs that a log leaves exported, in the order of their exports.  The log has the latest
request first. -/
def standing : List Request → List Url
  | [] => []
  | r :: earlier =>
    if r.side = .exported then
      if r.records then enlist (standing earlier) r.url
      else (standing earlier).erase r.url
    else standing earlier

theorem mem_standing {log : List Request} {u : Url} (h : u ∈ standing log) :
    ∃ r ∈ log, r.side = .exported ∧ r.url = u := by
  induction log with
  | nil => cases h
  | cons r earlier ih =>
    have hearlier : u ∈ standing earlier → ∃ s ∈ r :: earlier, s.side = .exported ∧ s.url = u := by
      intro hu
      obtain ⟨s, hs, hspec⟩ := ih hu
      exact ⟨s, List.mem_cons_of_mem _ hs, hspec⟩
    rw [standing] at h
    split_ifs at h with hside hrecords
    · rcases mem_enlist.1 h with hu | rfl
      · exact hearlier hu
      · exact ⟨r, List.mem_cons_self, hside, rfl⟩
    · exact hearlier (List.mem_of_mem_erase h)
    · exact hearlier h

/-- A request on the exported table edits it as it edits the list. -/
theorem holds_edit {t : UrlTable} {log : List Request} {r : Request}
    (h : t.Holds (standing log)) (hside : r.side = .exported) (hurl : r.url.Readable) :
    (r.edit t).2.Holds (standing (r :: log)) := by
  rw [Request.edit, standing, if_pos hside]
  split_ifs
  · exact h.add hurl
  · exact h.remove hurl

/-- The exported table holds what the log leaves exported. -/
theorem Logged.holds {m : Ref .metadata} {log : List Request} {w : World κ} (h : Logged m log w)
    (hurls : ∀ r ∈ log, r.side = .exported → r.url.Readable) :
    (w.store m).exported.Holds (standing log) := by
  induction h with
  | created name w hid =>
    rw [store_after_create name w hid]
    exact UrlTable.holds_empty
  | @call log w r _ ih =>
    have hearlier := ih fun s hs => hurls s (List.mem_cons_of_mem _ hs)
    have htable := Request.table_after_perform w m r .exported
    rw [table, table] at htable
    rw [htable]
    split_ifs with hside
    · exact holds_edit hearlier hside (hurls r List.mem_cons_self hside)
    · rw [standing, if_neg hside]
      exact hearlier
  | meanwhile _ hsame ih =>
    rw [hsame]
    exact ih hurls

end MetadataStore

end ServiceDirectory
