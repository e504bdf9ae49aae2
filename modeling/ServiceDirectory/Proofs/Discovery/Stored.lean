import ServiceDirectory.Discovery.InstanceTable
import ServiceDirectory.Proofs.Keys

/-!
# What a log of instances leaves

A source in memory is a function of the calls that have written to it.  An instance is there from
its first addition on until it is removed, in the order of these additions, and with the record
that has been written last.  `Holds` says so of a table, and every call keeps it.
-/

namespace ServiceDirectory

/-! ## Lists of records -/

section Records

variable {l : List Instance} {x : Instance}

theorem fst_replaceOrAppend (l : List Instance) (x : Instance) :
    (replaceOrAppend l x).1 = true ↔ x.identity ∉ l.map Instance.identity := by
  induction l with
  | nil => simp [replaceOrAppend]
  | cons y rest ih =>
    rw [replaceOrAppend]
    split_ifs with hsame
    · simp [Instance.same_iff.1 hsame]
    · rw [Instance.same_iff] at hsame
      simp [ih, Ne.symm hsame]

/-- A record takes the place of the one with its identity, or comes last. -/
theorem identities_replaceOrAppend (l : List Instance) (x : Instance) :
    (replaceOrAppend l x).2.map Instance.identity =
      enlist (l.map Instance.identity) x.identity := by
  induction l with
  | nil => rfl
  | cons y rest ih =>
    rw [replaceOrAppend]
    split_ifs with hsame
    · rw [Instance.same_iff] at hsame
      simp [enlist, hsame]
    · rw [Instance.same_iff] at hsame
      simp only [List.map_cons, ih, enlist, List.mem_cons, or_iff_right (Ne.symm hsame)]
      split_ifs <;> rfl

theorem mem_replaceOrAppend (h : (l.map Instance.identity).Nodup) (y : Instance) :
    y ∈ (replaceOrAppend l x).2 ↔ y = x ∨ y ∈ l ∧ y.identity ≠ x.identity := by
  induction l with
  | nil => simp [replaceOrAppend]
  | cons z rest ih =>
    rw [List.map_cons, List.nodup_cons] at h
    rw [replaceOrAppend]
    split_ifs with hsame
    · rw [Instance.same_iff] at hsame
      have hrest : ∀ y ∈ rest, y.identity ≠ x.identity := by
        intro y hy heq
        exact h.1 (hsame ▸ heq ▸ List.mem_map_of_mem hy)
      rw [List.mem_cons, List.mem_cons]
      constructor
      · rintro (rfl | hy)
        · exact Or.inl rfl
        · exact Or.inr ⟨Or.inr hy, hrest y hy⟩
      · rintro (rfl | ⟨rfl | hy, hne⟩)
        · exact Or.inl rfl
        · exact absurd hsame hne
        · exact Or.inr hy
    · rw [Instance.same_iff] at hsame
      rw [List.mem_cons, ih h.2, List.mem_cons]
      constructor
      · rintro (rfl | rfl | ⟨hy, hne⟩)
        · exact Or.inr ⟨Or.inl rfl, hsame⟩
        · exact Or.inl rfl
        · exact Or.inr ⟨Or.inr hy, hne⟩
      · rintro (rfl | ⟨rfl | hy, hne⟩)
        · exact Or.inr (Or.inl rfl)
        · exact Or.inl rfl
        · exact Or.inr (Or.inr ⟨hy, hne⟩)

theorem not_same_iff {y : Instance} : (!y.same x) = true ↔ y.identity ≠ x.identity := by
  rw [Bool.not_eq_true', ← Bool.not_eq_true, Instance.same_iff]

/-- To replace a record is to add it where it is not new. -/
theorem replaceFirst_eq (l : List Instance) (x : Instance) :
    replaceFirst l x =
      if (replaceOrAppend l x).1 = true then none else some (replaceOrAppend l x).2 := by
  induction l with
  | nil => rfl
  | cons y rest ih =>
    rw [replaceFirst, replaceOrAppend, ih]
    split_ifs <;> simp_all

end Records

namespace MemorySource

/-! ## Calls and what they leave -/

/-- A call that writes to a source. -/
inductive Request
  | add (x : Instance)
  | update (x : Instance)
  | remove (x : Instance)

namespace Request

/-- The instance that a request is about. -/
def subject : Request → Instance
  | add x | update x | remove x => x

/-- What a request answers, and the table that it leaves if it has something to do. -/
def edit (t : InstanceTable) : Request → Bool × Option InstanceTable
  | add x => ((t.add x).1, some (t.add x).2)
  | update x => ((t.update x).isSome, t.update x)
  | remove x => ((t.remove x).isSome, t.remove x)

end Request

/-- The record of an identity: the one that has been written last, if the instance has been added
and has not been removed since.  The log has the latest request first. -/
def written? (key : String × String × UInt16) : List Request → Option Instance
  | [] => none
  | .add x :: earlier => if x.identity = key then some x else written? key earlier
  | .update x :: earlier =>
    if x.identity = key then (written? key earlier).map fun _ => x else written? key earlier
  | .remove x :: earlier => if x.identity = key then none else written? key earlier

/-- The number of the addition with which an instance has come, unless it has been removed
since. -/
def entered? (key : String × String × UInt16) : List Request → Option Nat
  | [] => none
  | .add x :: earlier =>
    if x.identity = key then some ((entered? key earlier).getD earlier.length)
    else entered? key earlier
  | .update _ :: earlier => entered? key earlier
  | .remove x :: earlier => if x.identity = key then none else entered? key earlier

/-- Of two instances that are there, one has come before the other. -/
def Before (log : List Request) (key key' : String × String × UInt16) : Prop :=
  ∃ i j, entered? key log = some i ∧ entered? key' log = some j ∧ i < j

section Logs

variable {key key' : String × String × UInt16} {log : List Request} {r : Request}

theorem written?_of_ne (h : key ≠ r.subject.identity) (log : List Request) :
    written? key (r :: log) = written? key log := by
  cases r <;> exact if_neg (Ne.symm h)

theorem entered?_of_ne (h : key ≠ r.subject.identity) (log : List Request) :
    entered? key (r :: log) = entered? key log := by
  cases r with
  | add x => exact if_neg (Ne.symm h)
  | update x => rfl
  | remove x => exact if_neg (Ne.symm h)

theorem entered?_lt {i : Nat} (h : entered? key log = some i) : i < log.length := by
  induction log generalizing i with
  | nil => cases h
  | cons r earlier ih =>
    rw [List.length_cons]
    cases r with
    | add x =>
      rw [entered?] at h
      split_ifs at h
      · obtain rfl := Option.some.inj h
        cases hold : entered? key earlier with
        | none => exact Nat.lt_succ_self _
        | some i => exact Nat.lt_succ_of_lt (ih hold)
      · exact Nat.lt_succ_of_lt (ih h)
    | update x => exact Nat.lt_succ_of_lt (ih h)
    | remove x =>
      rw [entered?] at h
      split_ifs at h
      exact Nat.lt_succ_of_lt (ih h)

/-- What has come and not gone has a record. -/
theorem isSome_entered? (key : String × String × UInt16) (log : List Request) :
    (entered? key log).isSome = (written? key log).isSome := by
  induction log with
  | nil => rfl
  | cons r earlier ih =>
    by_cases hkey : key = r.subject.identity
    · subst hkey
      cases r with
      | add x => simp [entered?, written?, Request.subject]
      | update x => simpa [entered?, written?, Request.subject] using ih
      | remove x => simp [entered?, written?, Request.subject]
    · rw [entered?_of_ne hkey, written?_of_ne hkey, ih]

theorem entered?_eq_none_iff : entered? key log = none ↔ written? key log = none := by
  rw [← Option.not_isSome_iff_eq_none, isSome_entered?, Option.not_isSome_iff_eq_none]

theorem Before.ne (h : Before log key key') : key ≠ key' := by
  rintro rfl
  obtain ⟨i, j, hi, hj, hlt⟩ := h
  rw [hi] at hj
  obtain rfl := Option.some.inj hj
  exact Nat.lt_irrefl _ hlt

theorem Before.congr (h : Before log key key') {log' : List Request}
    (hkey : entered? key log' = entered? key log)
    (hkey' : entered? key' log' = entered? key' log) : Before log' key key' := by
  obtain ⟨i, j, hi, hj, hlt⟩ := h
  exact ⟨i, j, hkey.trans hi, hkey'.trans hj, hlt⟩

end Logs

/-! ## The table -/

/-- A table holds what a log has written. -/
structure Holds (t : InstanceTable) (log : List Request) : Prop where
  keys : t.lists.keys.Nodup
  mem_iff : ∀ service x, x ∈ t.get service ↔ x.service = service ∧ written? x.identity log = some x
  inOrder : ∀ service, ((t.get service).map Instance.identity).Pairwise (Before log)

namespace Holds

variable {t : InstanceTable} {log : List Request} {r : Request} {x : Instance}

theorem empty : Holds .empty [] where
  keys := OrderedMap.keys_nodup_empty
  mem_iff _ _ := ⟨nofun, fun h => nomatch h.2⟩
  inOrder _ := .nil

theorem nodup (h : Holds t log) (service : String) :
    ((t.get service).map Instance.identity).Nodup :=
  (h.inOrder service).imp Before.ne

/-- An identity is listed if it has a record. -/
theorem mem_identities (h : Holds t log) {service : String} {key : String × String × UInt16}
    (hmem : key ∈ (t.get service).map Instance.identity) : written? key log ≠ none := by
  obtain ⟨y, hy, rfl⟩ := List.mem_map.1 hmem
  rw [((h.mem_iff service y).1 hy).2]
  nofun

end Holds

/-- The record of an identity has it. -/
theorem identity_of_written? {log : List Request} {key : String × String × UInt16} {x : Instance}
    (h : written? key log = some x) : x.identity = key := by
  induction log generalizing x with
  | nil => cases h
  | cons r earlier ih =>
    cases r with
    | add y =>
      rw [written?] at h
      split_ifs at h with hkey
      · exact Option.some.inj h ▸ hkey
      · exact ih h
    | update y =>
      rw [written?] at h
      split_ifs at h with hkey
      · obtain ⟨z, -, rfl⟩ := Option.map_eq_some_iff.1 h
        exact hkey
      · exact ih h
    | remove y =>
      rw [written?] at h
      split_ifs at h
      exact ih h

namespace Holds

variable {t : InstanceTable} {log : List Request} {r : Request} {x : Instance}

theorem mem_identities_iff (h : Holds t log) (x : Instance) :
    x.identity ∈ (t.get x.service).map Instance.identity ↔ written? x.identity log ≠ none := by
  refine ⟨h.mem_identities, fun hsome => ?_⟩
  obtain ⟨y, hy⟩ := Option.ne_none_iff_exists'.1 hsome
  have hsame := identity_of_written? hy
  have hservice : y.service = x.service := congrArg Prod.fst hsame
  exact List.mem_map.2 ⟨y, (h.mem_iff _ y).2 ⟨hservice, hsame.symm ▸ hy⟩, hsame⟩

/-- A request that finds nothing to do leaves the table as it is. -/
theorem skip (h : Holds t log) (hwritten : ∀ key, written? key (r :: log) = written? key log)
    (hentered : ∀ key, entered? key (r :: log) = entered? key log) : Holds t (r :: log) where
  keys := h.keys
  mem_iff service y := by rw [hwritten, h.mem_iff]
  inOrder service := (h.inOrder service).imp fun hbefore =>
    hbefore.congr (hentered _) (hentered _)

/-- A request changes the list of one service. -/
theorem put (h : Holds t log) {list : List Instance}
    (hmem : ∀ y, y ∈ list ↔ y.service = r.subject.service ∧
      written? y.identity (r :: log) = some y)
    (horder : (list.map Instance.identity).Pairwise (Before (r :: log))) :
    Holds (t.put r.subject.service list) (r :: log) := by
  have hother : ∀ service, r.subject.service ≠ service → ∀ y ∈ t.get service,
      y.identity ≠ r.subject.identity := by
    rintro service hne y hy heq
    exact hne ((congrArg Prod.fst heq).symm.trans ((h.mem_iff service y).1 hy).1)
  refine ⟨OrderedMap.keys_nodup_insert h.keys _ _, fun service y => ?_, fun service => ?_⟩
  · rw [InstanceTable.get_put]
    split_ifs with hservice
    · exact hservice ▸ hmem y
    · rw [h.mem_iff]
      refine and_congr_right fun hy => ?_
      have hne : y.identity ≠ r.subject.identity := fun heq =>
        hservice ((congrArg Prod.fst heq).symm.trans hy)
      rw [written?_of_ne hne]
  · rw [InstanceTable.get_put]
    split_ifs with hservice
    · exact horder
    · refine List.pairwise_map.2 ((List.pairwise_map.1 (h.inOrder service)).imp_of_mem ?_)
      intro y z hy hz hbefore
      exact hbefore.congr (entered?_of_ne (hother service hservice y hy) log)
        (entered?_of_ne (hother service hservice z hz) log)

/-- To write a record is to put it in the place of its identity. -/
theorem mem_written (h : Holds t log) (r : Request)
    (hwritten : written? r.subject.identity (r :: log) = some r.subject) (y : Instance) :
    y ∈ (replaceOrAppend (t.get r.subject.service) r.subject).2 ↔
      y.service = r.subject.service ∧ written? y.identity (r :: log) = some y := by
  rw [mem_replaceOrAppend (h.nodup r.subject.service), h.mem_iff]
  by_cases hkey : y.identity = r.subject.identity
  · have hservice : y.service = r.subject.service := congrArg Prod.fst hkey
    rw [hkey, hwritten]
    simp [hservice, eq_comm]
  · have hne : y ≠ r.subject := fun heq => hkey (heq ▸ rfl)
    rw [written?_of_ne hkey]
    simp [hne, hkey]

theorem add (h : Holds t log) (x : Instance) : Holds (t.add x).2 (.add x :: log) := by
  have hwritten : written? x.identity (.add x :: log) = some x := if_pos rfl
  have hentered : ∀ key i, entered? key log = some i → entered? key (.add x :: log) = some i := by
    intro key i hi
    rw [entered?, hi]
    split_ifs <;> rfl
  have hbefore : ∀ key key', Before log key key' → Before (.add x :: log) key key' := by
    rintro key key' ⟨i, j, hi, hj, hlt⟩
    exact ⟨i, j, hentered key i hi, hentered key' j hj, hlt⟩
  have hold := (h.inOrder x.service).imp (hbefore _ _)
  refine h.put (h.mem_written (.add x) hwritten) ?_
  rw [identities_replaceOrAppend, enlist]
  split_ifs with hknown
  · exact hold
  · -- What is new has come with this very request, and everything else before.
    have hnew : entered? x.identity (.add x :: log) = some log.length := by
      have hnone : entered? x.identity log = none := by
        rw [entered?_eq_none_iff]
        exact not_not.1 fun hsome => hknown ((h.mem_identities_iff x).2 hsome)
      rw [entered?, if_pos rfl, hnone]
      rfl
    refine List.pairwise_append.2 ⟨hold, List.pairwise_singleton _ _, fun key hkey key' hkey' => ?_⟩
    obtain rfl := List.mem_singleton.1 hkey'
    have hthere := h.mem_identities hkey
    rw [← Option.isSome_iff_ne_none, ← isSome_entered?] at hthere
    obtain ⟨i, hi⟩ := Option.isSome_iff_exists.1 hthere
    exact ⟨i, log.length, hentered key i hi, hnew, entered?_lt hi⟩

/-- An addition is new where its identity has no record. -/
theorem fst_add_iff (h : Holds t log) (x : Instance) :
    (t.add x).1 = true ↔ written? x.identity log = none := by
  show (replaceOrAppend (t.get x.service) x).1 = true ↔ _
  rw [fst_replaceOrAppend, h.mem_identities_iff, not_not]

theorem update_eq (h : Holds t log) (x : Instance) :
    t.update x = if written? x.identity log = none then none
      else some (t.put x.service (replaceOrAppend (t.get x.service) x).2) := by
  have hnew := h.fst_add_iff x
  change (replaceOrAppend (t.get x.service) x).1 = true ↔ _ at hnew
  rw [InstanceTable.update, replaceFirst_eq]
  simp only [hnew]
  split_ifs <;> rfl

theorem remove_eq (h : Holds t log) (x : Instance) :
    t.remove x = if written? x.identity log = none then none
      else some (t.put x.service ((t.get x.service).filter fun y => !y.same x)) := by
  have hfound : ((t.get x.service).filter fun y => !y.same x).length =
      (t.get x.service).length ↔ written? x.identity log = none := by
    simp only [List.length_filter_eq_length_iff, not_same_iff]
    constructor
    · intro hall
      by_contra hsome
      obtain ⟨y, hy, heq⟩ := List.mem_map.1 ((h.mem_identities_iff x).2 hsome)
      exact hall y hy heq
    · intro hnone y hy heq
      exact (h.mem_identities_iff x).1 (heq ▸ List.mem_map_of_mem hy) hnone
  rw [InstanceTable.remove]
  simp only [hfound]

theorem update (h : Holds t log) {x : Instance} (hthere : written? x.identity log ≠ none) :
    Holds (t.put x.service (replaceOrAppend (t.get x.service) x).2) (.update x :: log) := by
  have hwritten : written? x.identity (.update x :: log) = some x := by
    obtain ⟨y, hy⟩ := Option.ne_none_iff_exists'.1 hthere
    rw [written?, if_pos rfl, hy]
    rfl
  refine h.put (h.mem_written (.update x) hwritten) ?_
  rw [identities_replaceOrAppend, enlist, Request.subject,
    if_pos ((h.mem_identities_iff x).2 hthere)]
  exact (h.inOrder x.service).imp fun hbefore => hbefore.congr rfl rfl

theorem remove (h : Holds t log) (x : Instance) :
    Holds (t.put x.service ((t.get x.service).filter fun y => !y.same x)) (.remove x :: log) := by
  have hmem : ∀ y, y ∈ (t.get x.service).filter (fun y => !y.same x) ↔
      y ∈ t.get x.service ∧ y.identity ≠ x.identity := by
    intro y
    rw [List.mem_filter, not_same_iff]
  refine h.put (r := .remove x) (fun y => ?_) ?_
  · rw [hmem, h.mem_iff]
    by_cases hkey : y.identity = x.identity
    · have hgone : written? y.identity (.remove x :: log) = none := if_pos hkey.symm
      rw [hgone]
      simp [hkey]
    · rw [written?_of_ne hkey]
      simp [hkey, Request.subject]
  · have hold := (List.pairwise_map.1 (h.inOrder x.service)).filter fun y => !y.same x
    refine List.pairwise_map.2 (hold.imp_of_mem fun hy hz hbefore => ?_)
    exact hbefore.congr (entered?_of_ne ((hmem _).1 hy).2 log)
      (entered?_of_ne ((hmem _).1 hz).2 log)

/-- Each request does to the table what it does to the log. -/
theorem edit (h : Holds t log) (r : Request) : Holds ((r.edit t).2.getD t) (r :: log) := by
  cases r with
  | add x => exact h.add x
  | update x =>
    show Holds ((t.update x).getD t) _
    rw [h.update_eq]
    split_ifs with hnone
    · refine h.skip (fun key => ?_) fun _ => rfl
      rw [written?]
      split_ifs with hkey
      · rw [← hkey, hnone]
        rfl
      · rfl
    · exact h.update hnone
  | remove x =>
    show Holds ((t.remove x).getD t) _
    rw [h.remove_eq]
    split_ifs with hnone
    · have hleft : entered? x.identity log = none := entered?_eq_none_iff.2 hnone
      refine h.skip (fun key => ?_) fun key => ?_
      · rw [written?]
        split_ifs with hkey
        · rw [← hkey, hnone]
        · rfl
      · rw [entered?]
        split_ifs with hkey
        · rw [← hkey, hleft]
        · rfl
    · exact h.remove x

/-- The services are those with a list that is not empty. -/
theorem mem_services_iff (h : Holds t log) (service : String) :
    service ∈ t.services ↔ t.get service ≠ [] := by
  rw [InstanceTable.services, mem_sortedNames, List.mem_map, InstanceTable.get, OrderedMap.getD]
  constructor
  · rintro ⟨⟨service', list⟩, hentry, rfl⟩
    obtain ⟨hentry, hlist⟩ := List.mem_filter.1 hentry
    rw [(OrderedMap.mem_entries_iff h.keys service' list).1 hentry]
    rintro rfl
    cases hlist
  · intro hne
    cases hlist : t.lists.get? service with
    | none => exact absurd (hlist ▸ rfl) hne
    | some list =>
      have hentry := (OrderedMap.mem_entries_iff h.keys service list).2 hlist
      refine ⟨(service, list), List.mem_filter.2 ⟨hentry, ?_⟩, rfl⟩
      rw [hlist] at hne
      cases list with
      | nil => exact absurd rfl hne
      | cons _ _ => rfl

/-- In the list of a service, host and port tell the instances apart. -/
theorem nodup_places (h : Holds t log) (service : String) :
    ((t.get service).map fun x => (x.host, x.port)).Nodup := by
  refine List.pairwise_map.2 ((List.pairwise_map.1 (h.inOrder service)).imp_of_mem ?_)
  intro x y hx hy hbefore hplace
  have hservice : x.service = y.service :=
    ((h.mem_iff service x).1 hx).1.trans ((h.mem_iff service y).1 hy).1.symm
  exact hbefore.ne (Prod.ext hservice hplace)

end Holds

end MemorySource

end ServiceDirectory
