import ServiceDirectory.Proofs.Url.Grammar

/-!
# Parameters follow their edits

The parameters of a URL are functions of the edits that have been made of it, the settings of the
query that it was read from among them.  A key has the value that it was last set to, unless it
has been removed since, and the keys stand in the order in which they were first set after their
last removals.  `Follows` says so of one list of parameters, and every edit keeps it.
-/

namespace ServiceDirectory.Url

/-! ## Edits -/

/-- A change of one parameter. -/
inductive Edit
  | set (key value : String)
  | remove (key : String)
deriving DecidableEq

namespace Edit

def key : Edit → String
  | set key _ => key
  | remove key => key

/-- The URL after the edit. -/
def apply : Edit → Url → Url
  | set key value, u => u.withParameter key value
  | remove key, u => u.withoutParameter key

/-- What the edit makes of the parameters. -/
def edit : Edit → OrderedMap String String → OrderedMap String String
  | set key value, m => m.insert key value
  | remove key, m => m.erase key

theorem parameters_apply (e : Edit) (u : Url) :
    (e.apply u).parameters = e.edit u.parameters := by
  cases e <;> rfl

theorem get?_edit_of_ne (e : Edit) {k : String} (h : e.key ≠ k)
    (m : OrderedMap String String) : (e.edit m).get? k = m.get? k := by
  cases e with
  | set key value => exact (OrderedMap.get?_insert m key k value).trans (if_neg h)
  | remove key => exact (OrderedMap.get?_erase m key k).trans (if_neg h)

/-- An edit leaves the entries of other keys, and their order, as they are. -/
theorem filter_edit (e : Edit) (m : OrderedMap String String) :
    (e.edit m).entries.filter (·.1 ≠ e.key) = m.entries.filter (·.1 ≠ e.key) := by
  cases e with
  | set key value =>
    show (OrderedMap.setIn m.entries key value).filter (·.1 ≠ key) =
      m.entries.filter (·.1 ≠ key)
    induction m.entries with
    | nil => simp [OrderedMap.setIn]
    | cons entry entries ih =>
      obtain ⟨k, v⟩ := entry
      by_cases hk : k = key
      · subst hk
        simp [OrderedMap.setIn]
      · rw [OrderedMap.setIn, if_neg hk, List.filter_cons_of_pos (by simpa using hk),
          List.filter_cons_of_pos (by simpa using hk), ih]
  | remove key =>
    show (m.entries.filter (·.1 ≠ key)).filter (·.1 ≠ key) = m.entries.filter (·.1 ≠ key)
    rw [List.filter_filter]
    simp only [Bool.and_self]

end Edit

/-! ## The log of edits -/

variable {log : List Edit} {e : Edit} {k : String}

/-- In a log, latest edit first: the last edit of the key sets it to the value. -/
def Stands (log : List Edit) (k v : String) : Prop :=
  ∃ after before, log = after ++ .set k v :: before ∧ ∀ e ∈ after, e.key ≠ k

/-- In a log, latest edit first: the key is set when `i` edits have been made, which is the first
time since its last removal. -/
def Begins (log : List Edit) (k : String) (i : ℕ) : Prop :=
  ∃ after v before, log = after ++ .set k v :: before ∧ Edit.remove k ∉ after ∧
    (∀ v', ¬Stands before k v') ∧ before.length = i

theorem stands_cons_iff {v : String} :
    Stands (e :: log) k v ↔ e = .set k v ∨ e.key ≠ k ∧ Stands log k v := by
  constructor
  · rintro ⟨after, before, hlog, hafter⟩
    cases after with
    | nil => exact Or.inl (List.cons.inj hlog).1
    | cons first after =>
      obtain ⟨rfl, rfl⟩ := List.cons.inj hlog
      exact Or.inr ⟨hafter _ List.mem_cons_self, after, before, rfl,
        fun e he => hafter e (List.mem_cons_of_mem _ he)⟩
  · rintro (rfl | ⟨hkey, after, before, rfl, hafter⟩)
    · exact ⟨[], log, rfl, nofun⟩
    · exact ⟨e :: after, before, rfl, List.forall_mem_cons.2 ⟨hkey, hafter⟩⟩

theorem begins_cons_iff {i : ℕ} :
    Begins (e :: log) k i ↔ (e ≠ .remove k ∧ Begins log k i) ∨
      (∃ v, e = .set k v) ∧ (∀ v, ¬Stands log k v) ∧ log.length = i := by
  constructor
  · rintro ⟨after, v, before, hlog, hafter, hbefore, hlength⟩
    cases after with
    | nil =>
      obtain ⟨rfl, rfl⟩ := List.cons.inj hlog
      exact Or.inr ⟨⟨v, rfl⟩, hbefore, hlength⟩
    | cons first after =>
      obtain ⟨rfl, rfl⟩ := List.cons.inj hlog
      rw [List.mem_cons, not_or] at hafter
      exact Or.inl ⟨Ne.symm hafter.1, after, v, before, rfl, hafter.2, hbefore, hlength⟩
  · rintro (⟨he, after, v, before, rfl, hafter, hbefore, hlength⟩ | ⟨⟨v, rfl⟩, hlog, hlength⟩)
    · refine ⟨e :: after, v, before, rfl, ?_, hbefore, hlength⟩
      rw [List.mem_cons, not_or]
      exact ⟨Ne.symm he, hafter⟩
    · exact ⟨[], v, log, rfl, List.not_mem_nil, hlog, hlength⟩

theorem Begins.lt_length {i : ℕ} (h : Begins log k i) : i < log.length := by
  obtain ⟨after, v, before, rfl, -, -, rfl⟩ := h
  rw [List.length_append, List.length_cons]
  omega

/-- An edit of another key, or one of a key that is there, begins nothing. -/
theorem Begins.of_cons {i : ℕ} (h : Begins (e :: log) k i)
    (hold : (∀ v, e ≠ .set k v) ∨ ∃ v, Stands log k v) : Begins log k i := by
  rcases begins_cons_iff.1 h with ⟨-, h⟩ | ⟨⟨v, rfl⟩, hnew, -⟩
  · exact h
  · rcases hold with hold | ⟨v', hstands⟩
    · exact absurd rfl (hold v)
    · exact absurd hstands (hnew v')

/-- A key has a value if and only if it has a first setting since its last removal. -/
theorem exists_stands_iff : (∃ v, Stands log k v) ↔ ∃ i, Begins log k i := by
  induction log with
  | nil => simp [Stands, Begins]
  | cons e log ih =>
    simp only [stands_cons_iff, begins_cons_iff]
    constructor
    · rintro ⟨v, rfl | ⟨hkey, hstands⟩⟩
      · by_cases hbefore : ∃ v', Stands log k v'
        · obtain ⟨i, hi⟩ := ih.1 hbefore
          exact ⟨i, Or.inl ⟨nofun, hi⟩⟩
        · exact ⟨log.length, Or.inr ⟨⟨v, rfl⟩, not_exists.1 hbefore, rfl⟩⟩
      · obtain ⟨i, hi⟩ := ih.1 ⟨v, hstands⟩
        refine ⟨i, Or.inl ⟨?_, hi⟩⟩
        rintro rfl
        exact hkey rfl
    · rintro ⟨i, ⟨he, hi⟩ | ⟨⟨v, rfl⟩, -⟩⟩
      · obtain ⟨v, hstands⟩ := ih.2 ⟨i, hi⟩
        cases e with
        | set key value =>
          by_cases hkey : key = k
          · exact ⟨value, Or.inl (hkey ▸ rfl)⟩
          · exact ⟨v, Or.inr ⟨hkey, hstands⟩⟩
        | remove key =>
          refine ⟨v, Or.inr ⟨?_, hstands⟩⟩
          rintro rfl
          exact he rfl
      · exact ⟨v, Or.inl rfl⟩

/-! ## What edits leave -/

/-- The parameters are what the edits of a log leave: every key once, with the value that stands,
in the order in which the keys begin. -/
structure Follows (m : OrderedMap String String) (log : List Edit) : Prop where
  nodup : m.keys.Nodup
  stands : ∀ k v, m.get? k = some v ↔ Stands log k v
  order : m.keys.Pairwise fun a b => ∀ i j, Begins log a i → Begins log b j → i < j

variable {m : OrderedMap String String}

theorem Follows.mem_keys_iff (h : Follows m log) (k : String) :
    k ∈ m.keys ↔ ∃ v, Stands log k v := by
  simp only [← h.stands, ← OrderedMap.mem_entries_iff h.nodup]
  simp [OrderedMap.keys]

theorem follows_empty : Follows .empty [] where
  nodup := OrderedMap.keys_nodup_empty
  stands k v := by simp [Stands]
  order := List.Pairwise.nil

theorem Follows.set (h : Follows m log) (key value : String) :
    Follows (m.insert key value) (.set key value :: log) where
  nodup := OrderedMap.keys_nodup_insert h.nodup key value
  stands k v := by
    rw [OrderedMap.get?_insert, stands_cons_iff]
    by_cases hk : key = k
    · subst hk
      simp [Edit.key]
    · rw [if_neg hk, h.stands]
      simp [Edit.key, hk]
  order := by
    have hold : ∀ a ∈ m.keys, ∀ i, Begins (.set key value :: log) a i → Begins log a i :=
      fun a ha i hi => hi.of_cons (Or.inr ((h.mem_keys_iff a).1 ha))
    have hbefore : m.keys.Pairwise fun a b => ∀ i j,
        Begins (.set key value :: log) a i → Begins (.set key value :: log) b j → i < j :=
      h.order.imp_of_mem fun {a b} ha hb hab i j hi hj => hab i j (hold a ha i hi) (hold b hb j hj)
    rw [OrderedMap.keys_insert]
    split_ifs with hkey
    · exact hbefore
    · refine List.pairwise_append.2 ⟨hbefore, List.pairwise_singleton _ _, ?_⟩
      intro a ha b hb i j hi hj
      obtain rfl := List.mem_singleton.1 hb
      have hi := (hold a ha i hi).lt_length
      rcases begins_cons_iff.1 hj with ⟨-, hj⟩ | ⟨-, -, rfl⟩
      · exact absurd ((h.mem_keys_iff b).2 (exists_stands_iff.2 ⟨j, hj⟩)) hkey
      · exact hi

theorem Follows.remove (h : Follows m log) (key : String) :
    Follows (m.erase key) (.remove key :: log) where
  nodup := OrderedMap.keys_nodup_erase h.nodup key
  stands k v := by
    rw [OrderedMap.get?_erase, stands_cons_iff]
    by_cases hk : key = k
    · subst hk
      simp [Edit.key]
    · rw [if_neg hk, h.stands]
      simp [Edit.key, hk]
  order := by
    rw [OrderedMap.keys_erase]
    refine (h.order.filter _).imp fun {a b} hab i j hi hj => ?_
    exact hab i j (hi.of_cons (Or.inl nofun)) (hj.of_cons (Or.inl nofun))

theorem Follows.edit (h : Follows m log) (e : Edit) : Follows (e.edit m) (e :: log) := by
  cases e with
  | set key value => exact h.set key value
  | remove key => exact h.remove key

theorem follows_ofList (settings : List (String × String)) :
    Follows (.ofList settings)
      (settings.map fun pair => Edit.set pair.1 pair.2).reverse := by
  induction settings using List.reverseRecOn with
  | nil => exact follows_empty
  | append_singleton settings pair ih =>
    rw [OrderedMap.ofList_concat, List.map_append, List.reverse_append]
    exact ih.set pair.1 pair.2

/-! ## URLs and their logs -/

/-- The settings that stand in the query of a text. -/
inductive Queries (text : String) (settings : List (String × String)) : Prop
  | intro {t protocol authority path query : List Char}
    (htrimmed : Text.Trimmed text.toList t) (hlayout : LaidOut t protocol authority path query)
    (hquery : Sets query settings)

/-- The URLs that can be made, each with the log of its edits, latest edit first: from parts
without an edit, from a text with the settings of its query, and from another URL by one more
edit. -/
inductive Reached : Url → List Edit → Prop
  | ofParts (protocol host : String) (port : Option UInt16) (path : String) :
    Reached (ofParts protocol host port path) []
  | parse {text : String} {u : Url} {settings : List (String × String)}
    (hparse : parse text = .ok u) (hquery : Queries text settings) :
    Reached u (settings.map fun pair => Edit.set pair.1 pair.2).reverse
  | edit {u : Url} {log : List Edit} (h : Reached u log) (e : Edit) :
    Reached (e.apply u) (e :: log)

/-- What is read has the settings of the query, and no slash at the start of its path. -/
theorem Queries.eq_of_parse {text : String} {settings : List (String × String)}
    (h : Queries text settings) {u : Url} (hparse : parse text = .ok u) :
    u = { ofParts u.protocol u.host u.port u.path with parameters := .ofList settings } := by
  obtain ⟨htrimmed, hlayout, hquery⟩ := h
  rw [parse, Text.trim_eq_iff.2 htrimmed, hlayout.readTrimmed_eq,
    readQuery_eq_iff.2 hquery] at hparse
  split at hparse
  · cases hparse
  · cases hparse
    simp [ofParts, dropSlashes, List.dropWhile_idempotent]

theorem exists_queries {text : String} {u : Url} (h : parse text = .ok u) :
    ∃ settings, Queries text settings := by
  obtain ⟨t, htrimmed, hreads⟩ := (parse_eq_iff_reads text (.ok u)).1 h
  cases hreads with
  | url hlayout hauthority hpath hquery hparameters =>
    exact ⟨_, .intro htrimmed hlayout hquery⟩

/-- Settings that are made one by one are those of a list. -/
theorem foldl_withParameter (settings : List (String × String)) (u : Url) :
    settings.foldl (fun u pair => u.withParameter pair.1 pair.2) u =
      { u with parameters :=
        settings.foldl (fun m pair => m.insert pair.1 pair.2) u.parameters } := by
  induction settings generalizing u with
  | nil => rfl
  | cons pair settings ih => exact ih (u.withParameter pair.1 pair.2)

theorem Reached.follows {u : Url} {log : List Edit} (h : Reached u log) :
    Follows u.parameters log := by
  induction h with
  | ofParts => exact follows_empty
  | @parse text u settings hparse hquery =>
    rw [hquery.eq_of_parse hparse]
    exact follows_ofList settings
  | edit _ e ih => exact e.parameters_apply _ ▸ ih.edit e

theorem keys_withParameter_of_mem {u : Url} {k : String} (h : k ∈ u.parameters.keys)
    (v : String) : (u.withParameter k v).parameters.keys = u.parameters.keys :=
  (OrderedMap.keys_insert u.parameters k v).trans (if_pos h)

theorem keys_withParameter_withoutParameter (u : Url) (k v : String) :
    ((u.withoutParameter k).withParameter k v).parameters.keys =
      u.parameters.keys.filter (· ≠ k) ++ [k] := by
  show ((u.parameters.erase k).insert k v).keys = _
  rw [OrderedMap.keys_insert, OrderedMap.keys_erase, if_neg (by simp)]

/-- However a URL is made, no key is there twice, a key has the value that it was last set to and
not removed since, and the keys stand in the order in which they begin.  A key that is set again
keeps its place, and one that is removed and set goes to the end.  An edit leaves the other keys
with their values where they are, and what is read from a text is what the settings of its query
make one by one. -/
theorem parameters_follow_edits :
    (∀ u log, Reached u log →
      u.parameters.keys.Nodup ∧
      (∀ k v, u.parameter? k = some v ↔ Stands log k v) ∧
      (∀ k, k ∈ u.parameters.keys ↔ ∃ i, Begins log k i) ∧
      u.parameters.keys.Pairwise fun a b => ∀ i j, Begins log a i → Begins log b j → i < j) ∧
    (∀ (u : Url) (k v : String),
      (k ∈ u.parameters.keys → (u.withParameter k v).parameters.keys = u.parameters.keys) ∧
      ((u.withoutParameter k).withParameter k v).parameters.keys =
        u.parameters.keys.filter (· ≠ k) ++ [k]) ∧
    (∀ (u : Url) (e : Edit),
      (∀ k, e.key ≠ k → (e.apply u).parameter? k = u.parameter? k) ∧
      (e.apply u).parameters.entries.filter (·.1 ≠ e.key) =
        u.parameters.entries.filter (·.1 ≠ e.key)) ∧
    ∀ text u, parse text = .ok u → ∃ settings, Queries text settings ∧
      u = settings.foldl (fun u pair => u.withParameter pair.1 pair.2)
        (ofParts u.protocol u.host u.port u.path) := by
  refine ⟨fun u log h => ?_, fun u k v => ?_, fun u e => ?_, fun text u hparse => ?_⟩
  · have hfollows := h.follows
    exact ⟨hfollows.nodup, hfollows.stands,
      fun k => (hfollows.mem_keys_iff k).trans exists_stands_iff, hfollows.order⟩
  · exact ⟨fun h => keys_withParameter_of_mem h v, u.keys_withParameter_withoutParameter k v⟩
  · unfold parameter?
    rw [e.parameters_apply]
    exact ⟨fun k hk => e.get?_edit_of_ne hk u.parameters, e.filter_edit u.parameters⟩
  · obtain ⟨settings, hquery⟩ := exists_queries hparse
    refine ⟨settings, hquery, ?_⟩
    rw [foldl_withParameter]
    exact hquery.eq_of_parse hparse

/-- What is read from a query that sets a key twice. -/
private def queried : Url :=
  { ofParts "x" "h" none "" with parameters := .ofList [("k", "1"), ("j", "2"), ("k", "3")] }

private theorem reached_queried :
    Reached ((queried.withoutParameter "k").withParameter "k" "4")
      [.set "k" "4", .remove "k", .set "k" "3", .set "j" "2", .set "k" "1"] := by
  have hlayout : LaidOut "x://h?k=1&j=2&k=3".toList "x".toList "h".toList []
      "k=1&j=2&k=3".toList :=
    .intro (Text.cutFirstMark_eq_some_iff.1
        (by decide : _ = some ("x".toList, "h?k=1&j=2&k=3".toList)))
      (by decide) (Text.cutFirst_getD_eq_iff.1 (by decide : _ = ("h".toList, _)))
      (Text.cutFirst_getD_eq_iff.1 (by decide))
  have hquery : Queries "x://h?k=1&j=2&k=3" [("k", "1"), ("j", "2"), ("k", "3")] :=
    .intro (Text.trim_eq_iff.1 (by decide)) hlayout (readQuery_eq_iff.1 (by decide))
  have hparse : parse "x://h?k=1&j=2&k=3" = .ok queried := by decide
  exact ((Reached.parse hparse hquery).edit (.remove "k")).edit (.set "k" "4")

theorem parameters_follow_edits_queried :
    ((queried.withoutParameter "k").withParameter "k" "4").parameter? "k" = some "4" ∧
    ((queried.withoutParameter "k").withParameter "k" "4").parameter? "j" = some "2" := by
  obtain ⟨-, hstands, -⟩ := parameters_follow_edits.1 _ _ reached_queried
  exact ⟨(hstands "k" "4").2 ⟨[], _, rfl, nofun⟩, (hstands "j" "2").2
    ⟨[.set "k" "4", .remove "k", .set "k" "3"], [.set "k" "1"], rfl, by decide⟩⟩

end ServiceDirectory.Url
