import ServiceDirectory.Proofs.Keys
import ServiceDirectory.Registry.SubscriptionTable

/-!
# The table of subscriptions

A tidy table holds one record per canonical URL and sink and no empty list.  In the table
of a registry every record is moreover filed under the URL of its own watcher, so no two
records share a watcher.
-/

namespace ServiceDirectory.SubscriptionTable

variable {t : SubscriptionTable}

/-- All records of a table. -/
def all (t : SubscriptionTable) : List Subscription := t.lists.values.flatten

/-- At most one record per canonical URL and sink, and no empty list. -/
structure Tidy (t : SubscriptionTable) : Prop where
  keys : t.lists.keys.Nodup
  inhabited : ∀ entry ∈ t.lists.entries, entry.2 ≠ []
  once : ∀ url, ((t.get url).map Subscription.sink).Nodup

/-- Each record is filed under its watcher's URL and sink, and the watcher is one of the
registry. -/
def Filed (id : Ref .registry) (t : SubscriptionTable) : Prop :=
  ∀ url, ∀ s ∈ t.get url, s.watcher.registry = id ∧ s.watcher.sink = s.sink ∧
    s.watcher.subscribed.fullString = url

@[simp]
theorem fst_take (t : SubscriptionTable) (url : String) (sink : Ref .sink) :
    (t.take url sink).1 = (t.get url).filter fun s => s.sink = sink := by
  simp [take, List.partition_eq_filter_filter]

theorem mem_fst_take {url : String} {sink : Ref .sink} {s : Subscription} :
    s ∈ (t.take url sink).1 ↔ s ∈ t.get url ∧ s.sink = sink := by
  simp

theorem mem_get_take {url url' : String} {sink : Ref .sink} {s : Subscription} :
    s ∈ (t.take url sink).2.get url' ↔ s ∈ t.get url' ∧ ¬(url = url' ∧ s.sink = sink) := by
  rw [get_take]
  split
  · rename_i h
    simp [h]
  · rename_i h
    simp [h]

theorem mem_get_add {url url' : String} {s s' : Subscription} :
    s' ∈ (t.add url s).get url' ↔ s' ∈ t.get url' ∨ url = url' ∧ s' = s := by
  rw [get_add]
  split
  · rename_i h
    simp [h]
  · rename_i h
    simp [h]

theorem exists_mem_get_add (url key : String) (s : Subscription) (sink : Ref .sink) :
    (∃ r ∈ (t.add url s).get key, r.sink = sink) ↔
      (url = key ∧ s.sink = sink) ∨ ∃ r ∈ t.get key, r.sink = sink := by
  constructor
  · rintro ⟨r, hr, hsink⟩
    rcases mem_get_add.1 hr with hr | ⟨hkey, rfl⟩
    · exact Or.inr ⟨r, hr, hsink⟩
    · exact Or.inl ⟨hkey, hsink⟩
  · rintro (⟨hkey, hsink⟩ | ⟨r, hr, hsink⟩)
    · exact ⟨s, mem_get_add.2 (Or.inr ⟨hkey, rfl⟩), hsink⟩
    · exact ⟨r, mem_get_add.2 (Or.inl hr), hsink⟩

theorem tidy_empty : empty.Tidy where
  keys := OrderedMap.keys_nodup_empty
  inhabited _ hentry := nomatch hentry
  once _ := List.nodup_nil

theorem filed_empty (id : Ref .registry) : empty.Filed id := by
  intro url s hs
  simp at hs

theorem Tidy.take (h : t.Tidy) (url : String) (sink : Ref .sink) :
    (t.take url sink).2.Tidy where
  keys := OrderedMap.keys_nodup_putList h.keys url _
  inhabited := by
    rintro ⟨url', list⟩ hentry
    have hkeys := OrderedMap.keys_nodup_putList h.keys url
      ((t.get url).filter fun s => !decide (s.sink = sink))
    have hlists : (t.take url sink).2.lists =
        t.lists.putList url ((t.get url).filter fun s => !decide (s.sink = sink)) := by
      simp [SubscriptionTable.take, List.partition_eq_filter_filter, Function.comp_def]
    rw [hlists, OrderedMap.mem_entries_iff hkeys] at hentry
    have hold : t.lists.get? url' = some list → list ≠ [] := fun hget =>
      h.inhabited (url', list) ((OrderedMap.mem_entries_iff h.keys url' list).2 hget)
    unfold OrderedMap.putList at hentry
    split at hentry
    · rw [OrderedMap.get?_erase] at hentry
      split at hentry
      · cases hentry
      · exact hold hentry
    · rename_i hnonempty
      rw [OrderedMap.get?_insert] at hentry
      split at hentry
      · obtain rfl := Option.some.inj hentry
        simpa using hnonempty
      · exact hold hentry
  once url' := by
    rw [get_take]
    split
    · exact (h.once url').sublist (List.filter_sublist.map _)
    · exact h.once url'

theorem Tidy.add (h : t.Tidy) (url : String) {s : Subscription}
    (hnew : ∀ s' ∈ t.get url, s'.sink ≠ s.sink) : (t.add url s).Tidy where
  keys := OrderedMap.keys_nodup_insert h.keys url _
  inhabited := by
    rintro ⟨url', list⟩ hentry
    have hkeys := OrderedMap.keys_nodup_insert h.keys url (t.get url ++ [s])
    rw [SubscriptionTable.add, OrderedMap.mem_entries_iff hkeys, OrderedMap.get?_insert] at hentry
    split at hentry
    · obtain rfl := Option.some.inj hentry
      simp
    · exact h.inhabited (url', list) ((OrderedMap.mem_entries_iff h.keys url' list).2 hentry)
  once url' := by
    rw [get_add]
    split
    · rename_i hurl
      subst hurl
      rw [List.map_append, List.nodup_append]
      refine ⟨h.once url, List.nodup_singleton _, ?_⟩
      intro a ha b hb hab
      obtain ⟨s', hs', rfl⟩ := List.mem_map.1 ha
      exact hnew s' hs' (hab.trans (List.mem_singleton.1 hb))
    · exact h.once url'

theorem Filed.take {id : Ref .registry} (h : t.Filed id) (url : String) (sink : Ref .sink) :
    (t.take url sink).2.Filed id := by
  intro url' s hs
  exact h url' s (mem_get_take.1 hs).1

theorem Filed.add {id : Ref .registry} (h : t.Filed id) {url : Url} {sink : Ref .sink}
    {watcher : Watcher} (hregistry : watcher.registry = id) (hsubscribed : watcher.subscribed = url)
    (hsink : watcher.sink = sink) : (t.add url.fullString ⟨sink, watcher⟩).Filed id := by
  intro url' s hs
  rcases mem_get_add.1 hs with hs | ⟨rfl, rfl⟩
  · exact h url' s hs
  · exact ⟨hregistry, hsink, by rw [hsubscribed]⟩

theorem Tidy.mem_all (h : t.Tidy) (s : Subscription) : s ∈ t.all ↔ ∃ url, s ∈ t.get url :=
  OrderedMap.mem_flatten_values h.keys s

theorem Tidy.mem_all_add (h : t.Tidy) (url : String) {s s' : Subscription}
    (hnew : ∀ r ∈ t.get url, r.sink ≠ s.sink) : s' ∈ (t.add url s).all ↔ s' ∈ t.all ∨ s' = s := by
  rw [(h.add url hnew).mem_all, h.mem_all]
  constructor
  · rintro ⟨url', hadded⟩
    rcases mem_get_add.1 hadded with hget | ⟨-, hnewest⟩
    · exact Or.inl ⟨url', hget⟩
    · exact Or.inr hnewest
  · rintro (⟨url', hget⟩ | rfl)
    · exact ⟨url', mem_get_add.2 (Or.inl hget)⟩
    · exact ⟨url, mem_get_add.2 (Or.inr ⟨rfl, rfl⟩)⟩

/-- A record that is taken shares its watcher with none that stays, since a watcher knows its
URL and its sink. -/
theorem Filed.watcher_ne_of_take {id : Ref .registry} (h : t.Filed id) {url url' : String}
    {sink : Ref .sink} {s s' : Subscription} (hs : s ∈ (t.take url sink).1)
    (hs' : s' ∈ (t.take url sink).2.get url') : s.watcher ≠ s'.watcher := by
  intro hwatcher
  obtain ⟨hget, hsink⟩ := mem_fst_take.1 hs
  obtain ⟨hget', hother⟩ := mem_get_take.1 hs'
  obtain ⟨-, hsinkOf, hurlOf⟩ := h url s hget
  obtain ⟨-, hsinkOf', hurlOf'⟩ := h url' s' hget'
  apply hother
  constructor
  · rw [← hurlOf, hwatcher, hurlOf']
  · rw [← hsinkOf', ← hwatcher, hsinkOf, hsink]

theorem Tidy.mem_all_take {id : Ref .registry} (h : t.Tidy) (hfiled : t.Filed id) (url : String)
    (sink : Ref .sink) {s : Subscription} : s ∈ (t.take url sink).2.all ↔
      s ∈ t.all ∧ ∀ s' ∈ (t.take url sink).1, s'.watcher ≠ s.watcher := by
  rw [(h.take url sink).mem_all, h.mem_all]
  constructor
  · rintro ⟨url', hkept⟩
    refine ⟨⟨url', (mem_get_take.1 hkept).1⟩, ?_⟩
    intro s' hs'
    exact hfiled.watcher_ne_of_take hs' hkept
  · rintro ⟨⟨url', hget⟩, hstays⟩
    refine ⟨url', mem_get_take.2 ⟨hget, ?_⟩⟩
    rintro ⟨rfl, hsink⟩
    exact hstays s (mem_fst_take.2 ⟨hget, hsink⟩) rfl

/-- No two records share a watcher. -/
theorem Tidy.watchers_nodup {id : Ref .registry} (h : t.Tidy) (hfiled : t.Filed id) :
    (t.all.map Subscription.watcher).Nodup := by
  have hall : t.all.Nodup := by
    refine OrderedMap.nodup_flatten_values h.keys (fun url => (h.once url).of_map _) ?_
    intro url url' s hs hs'
    exact (hfiled url s hs).2.2.symm.trans (hfiled url' s hs').2.2
  refine hall.map_on ?_
  intro s hs s' hs' hwatcher
  obtain ⟨url, hs⟩ := (h.mem_all s).1 hs
  obtain ⟨url', hs'⟩ := (h.mem_all s').1 hs'
  obtain ⟨-, hsink, hurl⟩ := hfiled url s hs
  obtain ⟨-, hsink', hurl'⟩ := hfiled url' s' hs'
  obtain rfl : url = url' := by rw [← hurl, ← hurl', hwatcher]
  exact List.inj_on_of_nodup_map (h.once url) hs hs' (by rw [← hsink, ← hsink', hwatcher])

end ServiceDirectory.SubscriptionTable
