import ServiceDirectory.Dispatcher.Roster
import ServiceDirectory.Proofs.Keys
import Mathlib.Data.List.Flatten

/-!
# The registrations of all buckets as one list

A roster spreads its registrations over buckets, and it is open in which order the buckets are
walked.  The ledger of a roster is the list of all its registrations with their kinds, in the
order in which they were made.  Numbers increase along the ledger, and so they put what was
gathered from the buckets, in whatever order, back into the order of the ledger.
-/

namespace ServiceDirectory

/-! ## Sorting by priority and number -/

section Sorting

variable {priority : Listener → Int}

theorem Registration.before_iff {a b : Registration} :
    a.before priority b = true ↔
      priority a.listener < priority b.listener ∨
        (priority a.listener = priority b.listener ∧ a.number ≤ b.number) := by
  simp [before]

theorem Registration.before_trans (a b c : Registration) (hab : a.before priority b = true)
    (hbc : b.before priority c = true) : a.before priority c = true := by
  rw [before_iff] at *
  omega

theorem Registration.before_total (a b : Registration) :
    (a.before priority b || b.before priority a) = true := by
  rw [Bool.or_eq_true, before_iff, before_iff]
  omega

/-- Registrations with different numbers are sorted in one way only, whatever order they come
in. -/
theorem inOrder_eq_of_perm {l l' : List Registration} (h : l.Perm l')
    (hnumbers : (l.map Registration.number).Nodup) : inOrder priority l = inOrder priority l' := by
  have hperm : (inOrder priority l).Perm l := List.mergeSort_perm l _
  have hperm' : (inOrder priority l').Perm l' := List.mergeSort_perm l' _
  refine List.Perm.eq_of_pairwise ?_
    (List.pairwise_mergeSort Registration.before_trans Registration.before_total l)
    (List.pairwise_mergeSort Registration.before_trans Registration.before_total l')
    (hperm.trans (h.trans hperm'.symm))
  intro a b ha hb hab hba
  have hnumber : a.number = b.number := by
    rw [Registration.before_iff] at hab hba
    omega
  exact List.inj_on_of_nodup_map hnumbers (hperm.mem_iff.1 ha)
    (h.mem_iff.2 (hperm'.mem_iff.1 hb)) hnumber

end Sorting

/-! ## Ledgers -/

/-- Registrations with the names of the kinds they were made for. -/
abbrev Ledger := List (String × Registration)

namespace Ledger

/-- Which listener is registered for which kind. -/
def pair (entry : String × Registration) : String × Listener := (entry.1, entry.2.listener)

def pairs (ledger : Ledger) : List (String × Listener) := ledger.map pair

/-- A pair that is new goes to the end. -/
def addPair (pairs : List (String × Listener)) (p : String × Listener) :
    List (String × Listener) :=
  if p ∈ pairs then pairs else pairs ++ [p]

def add (ledger : Ledger) (kind : String) (registration : Registration) : Ledger :=
  if (kind, registration.listener) ∈ ledger.pairs then ledger
  else ledger ++ [(kind, registration)]

def remove (ledger : Ledger) (kind : String) (l : Listener) : Ledger :=
  ledger.filter fun entry => pair entry ≠ (kind, l)

theorem pairs_add (ledger : Ledger) (kind : String) (registration : Registration) :
    (ledger.add kind registration).pairs =
      addPair ledger.pairs (kind, registration.listener) := by
  unfold add addPair
  split_ifs
  · rfl
  · rw [pairs, List.map_append]
    rfl

theorem pairs_remove (ledger : Ledger) (kind : String) (l : Listener) :
    (ledger.remove kind l).pairs = ledger.pairs.filter fun p => p ≠ (kind, l) := by
  rw [pairs, pairs, List.filter_map]
  rfl

theorem pairs_filter (ledger : Ledger) (kinds : String → Bool) :
    pairs (ledger.filter fun entry => kinds entry.1) =
      ledger.pairs.filter fun p => kinds p.1 := by
  rw [pairs, pairs, List.filter_map]
  rfl

/-- Every pair is there once, and numbers increase along the ledger and have not reached
`next`. -/
structure Numbered (ledger : Ledger) (next : Nat) : Prop where
  increasing : ledger.Pairwise fun a b => a.2.number < b.2.number
  fresh : ∀ entry ∈ ledger, entry.2.number < next
  pairs_nodup : ledger.pairs.Nodup

namespace Numbered

variable {ledger : Ledger} {next : Nat}

theorem append (h : ledger.Numbered next) {kind : String} {l : Listener}
    (hnew : (kind, l) ∉ ledger.pairs) :
    Numbered (ledger ++ [(kind, ⟨l, next⟩)]) (next + 1) where
  increasing := by
    rw [List.pairwise_append]
    refine ⟨h.increasing, List.pairwise_singleton _ _, fun entry hentry last hlast => ?_⟩
    rw [List.mem_singleton.1 hlast]
    exact h.fresh entry hentry
  fresh entry hentry := by
    rcases List.mem_append.1 hentry with hentry | hlast
    · exact Nat.lt_succ_of_lt (h.fresh entry hentry)
    · rw [List.mem_singleton.1 hlast]
      exact Nat.lt_succ_self next
  pairs_nodup := by
    rw [pairs, List.map_append]
    exact List.concat_eq_append ▸ h.pairs_nodup.concat hnew

theorem remove (h : ledger.Numbered next) (kind : String) (l : Listener) :
    (ledger.remove kind l).Numbered next where
  increasing := h.increasing.filter _
  fresh entry hentry := h.fresh entry (List.mem_of_mem_filter hentry)
  pairs_nodup := by
    rw [pairs_remove]
    exact h.pairs_nodup.filter _

theorem numbers_nodup (h : ledger.Numbered next) :
    (ledger.map fun entry => entry.2.number).Nodup :=
  List.pairwise_map.2 (h.increasing.imp Nat.ne_of_lt)

theorem selected_numbers_nodup (h : ledger.Numbered next) (kinds : String → Bool) :
    (((ledger.filter fun entry => kinds entry.1).map Prod.snd).map
      Registration.number).Nodup := by
  rw [List.map_map]
  exact h.numbers_nodup.sublist (List.filter_sublist.map _)

theorem eq_of_number_eq (h : ledger.Numbered next) {a b : String × Registration}
    (ha : a ∈ ledger) (hb : b ∈ ledger) (hnumber : a.2.number = b.2.number) : a = b :=
  List.inj_on_of_nodup_map h.numbers_nodup ha hb hnumber

/-- Numbers are in the order of the pairs. -/
theorem idxOf_lt_idxOf (h : ledger.Numbered next) {a b : String × Registration}
    (ha : a ∈ ledger) (hb : b ∈ ledger) (hnumber : a.2.number < b.2.number) :
    ledger.pairs.idxOf (pair a) < ledger.pairs.idxOf (pair b) := by
  have hplace : ∀ (i : Nat) (hi : i < ledger.length),
      ledger.pairs.idxOf (pair ledger[i]) = i := by
    intro i hi
    have hi' : i < ledger.pairs.length := by
      rw [pairs, List.length_map]
      exact hi
    have hget : ledger.pairs[i] = pair ledger[i] := List.getElem_map _
    rw [← hget]
    exact h.pairs_nodup.idxOf_getElem i hi'
  obtain ⟨i, hi, rfl⟩ := List.getElem_of_mem ha
  obtain ⟨j, hj, rfl⟩ := List.getElem_of_mem hb
  rw [hplace i hi, hplace j hj]
  rcases Nat.lt_trichotomy i j with hlt | rfl | hgt
  · exact hlt
  · exact absurd hnumber (Nat.lt_irrefl _)
  · have hback := List.pairwise_iff_getElem.1 h.increasing j i hj hi hgt
    exact absurd hnumber (Nat.lt_asymm hback)

/-- What runs first of two registrations has the smaller priority, or else the earlier place. -/
theorem order_of_before (h : ledger.Numbered next) {priority : Listener → Int}
    {a b : String × Registration} (ha : a ∈ ledger) (hb : b ∈ ledger) (hne : a ≠ b)
    (hbefore : a.2.before priority b.2 = true) :
    priority a.2.listener < priority b.2.listener ∨
      (priority a.2.listener = priority b.2.listener ∧
        ledger.pairs.idxOf (pair a) < ledger.pairs.idxOf (pair b)) := by
  have hnumber : a.2.number ≠ b.2.number := fun hsame => hne (h.eq_of_number_eq ha hb hsame)
  rcases Registration.before_iff.1 hbefore with hlt | ⟨heq, hle⟩
  · exact Or.inl hlt
  · exact Or.inr ⟨heq, h.idxOf_lt_idxOf ha hb (Nat.lt_of_le_of_ne hle hnumber)⟩

end Numbered

end Ledger

/-! ## Rosters and their ledgers -/

namespace Roster

/-- The buckets of a roster hold the registrations of a ledger. -/
structure Keeps (r : Roster) (ledger : Ledger) : Prop where
  keys : r.buckets.keys.Nodup
  mem_bucket : ∀ kind s, s ∈ r.bucket kind ↔ (kind, s) ∈ ledger
  bucket_nodup : ∀ kind, (r.bucket kind).Nodup
  numbered : ledger.Numbered r.next

theorem keeps_empty : empty.Keeps [] where
  keys := OrderedMap.keys_nodup_empty
  mem_bucket _ _ := by simp
  bucket_nodup _ := List.nodup_nil
  numbered := ⟨List.Pairwise.nil, fun _ h => (nomatch h), List.nodup_nil⟩

namespace Keeps

variable {r : Roster} {ledger : Ledger}

theorem holds_iff (h : r.Keeps ledger) (kind : String) (l : Listener) :
    r.holds kind l = true ↔ (kind, l) ∈ ledger.pairs := by
  rw [Roster.holds_iff, Ledger.pairs, List.mem_map]
  constructor
  · rintro ⟨s, hs, rfl⟩
    exact ⟨(kind, s), (h.mem_bucket kind s).1 hs, rfl⟩
  · rintro ⟨⟨kind', s⟩, hmem, hpair⟩
    obtain ⟨rfl, rfl⟩ := Prod.mk.inj hpair
    exact ⟨s, (h.mem_bucket kind' s).2 hmem, rfl⟩

theorem not_mem_bucket_next (h : r.Keeps ledger) (kind : String) (l : Listener) :
    ⟨l, r.next⟩ ∉ r.bucket kind := by
  intro hmem
  exact absurd (h.numbered.fresh _ ((h.mem_bucket kind _).1 hmem)) (Nat.lt_irrefl r.next)

theorem setBucket_keys (h : r.Keeps ledger) (priority : Listener → Int) (kind : String)
    (registrations : List Registration) :
    (r.setBucket priority kind registrations).buckets.keys.Nodup :=
  OrderedMap.keys_nodup_putList h.keys kind _

theorem setBucket_nodup (h : r.Keeps ledger) (priority : Listener → Int) (kind kind' : String)
    {registrations : List Registration} (hnodup : registrations.Nodup) :
    ((r.setBucket priority kind registrations).bucket kind').Nodup := by
  rw [bucket_setBucket]
  split_ifs
  · exact (List.mergeSort_perm _ _).nodup_iff.2 hnodup
  · exact h.bucket_nodup kind'

/-- A registration that is made is the last one of the ledger. -/
theorem add (h : r.Keeps ledger) (priority : Listener → Int) (kind : String) (l : Listener) :
    (r.add priority kind l).Keeps (ledger.add kind ⟨l, r.next⟩) := by
  have hmem : ∀ kind' s, s ∈ (r.add priority kind l).bucket kind' ↔
      (kind', s) ∈ ledger.add kind ⟨l, r.next⟩ := by
    intro kind' s
    rw [mem_bucket_add, h.mem_bucket, ← Bool.not_eq_true, h.holds_iff, Ledger.add]
    split_ifs with hknown
    · simp [hknown]
    · simp [hknown, eq_comm]
  by_cases hknown : r.holds kind l = true
  -- The bucket of a pair that is there is sorted anew, and that is all.
  · have hsame : ledger.add kind ⟨l, r.next⟩ = ledger := if_pos ((h.holds_iff kind l).1 hknown)
    have hroster : r.add priority kind l = r.setBucket priority kind (r.bucket kind) :=
      if_pos hknown
    rw [hsame] at hmem ⊢
    rw [hroster] at hmem ⊢
    exact ⟨h.setBucket_keys priority kind _, hmem,
      fun kind' => h.setBucket_nodup priority kind kind' (h.bucket_nodup kind), h.numbered⟩
  · have hnew : (kind, l) ∉ ledger.pairs := fun hin => hknown ((h.holds_iff kind l).2 hin)
    have hadded : ledger.add kind ⟨l, r.next⟩ = ledger ++ [(kind, ⟨l, r.next⟩)] := if_neg hnew
    have hroster : r.add priority kind l =
        { r.setBucket priority kind (r.bucket kind ++ [⟨l, r.next⟩]) with next := r.next + 1 } :=
      if_neg hknown
    have hbucket : (r.bucket kind ++ [Registration.mk l r.next]).Nodup :=
      List.concat_eq_append ▸ (h.bucket_nodup kind).concat (h.not_mem_bucket_next kind l)
    rw [hadded] at hmem ⊢
    rw [hroster] at hmem ⊢
    exact ⟨h.setBucket_keys priority kind _, hmem,
      fun kind' => h.setBucket_nodup priority kind kind' hbucket, h.numbered.append hnew⟩

theorem remove (h : r.Keeps ledger) (priority : Listener → Int) (kind : String) (l : Listener) :
    (r.remove priority kind l).Keeps (ledger.remove kind l) where
  keys := h.setBucket_keys priority kind _
  mem_bucket kind' s := by
    rw [mem_bucket_remove, h.mem_bucket, Ledger.remove, List.mem_filter, decide_eq_true_eq,
      Ledger.pair, Ne, Prod.mk.injEq, eq_comm (a := kind)]
  bucket_nodup kind' := h.setBucket_nodup priority kind kind' ((h.bucket_nodup kind).filter _)
  numbered := h.numbered.remove kind l

theorem mem_gathered_iff (h : r.Keeps ledger) (s : Registration) (kinds : String → Bool) :
    s ∈ (r.buckets.entries.filter fun bucket => kinds bucket.1).flatMap Prod.snd ↔
      ∃ kind, kinds kind = true ∧ (kind, s) ∈ ledger := by
  rw [List.mem_flatMap]
  constructor
  · rintro ⟨⟨kind, list⟩, hentry, hs⟩
    obtain ⟨hentry, hkind⟩ := List.mem_filter.1 hentry
    have hlist := (OrderedMap.mem_entries_iff h.keys kind list).1 hentry
    exact ⟨kind, hkind, (h.mem_bucket kind s).1 (OrderedMap.mem_getD_iff.2 ⟨list, hlist, hs⟩)⟩
  · rintro ⟨kind, hkind, hmem⟩
    obtain ⟨list, hlist, hs⟩ := OrderedMap.mem_getD_iff.1 ((h.mem_bucket kind s).2 hmem)
    have hentry := (OrderedMap.mem_entries_iff h.keys kind list).2 hlist
    exact ⟨(kind, list), List.mem_filter.2 ⟨hentry, hkind⟩, hs⟩

theorem gathered_nodup (h : r.Keeps ledger) (kinds : String → Bool) :
    ((r.buckets.entries.filter fun bucket => kinds bucket.1).flatMap Prod.snd).Nodup := by
  have hall : r.buckets.values.flatten.Nodup := by
    refine OrderedMap.nodup_flatten_values h.keys h.bucket_nodup fun kind kind' s hs hs' => ?_
    exact congrArg Prod.fst
      (h.numbered.eq_of_number_eq ((h.mem_bucket kind s).1 hs) ((h.mem_bucket kind' s).1 hs') rfl)
  rw [OrderedMap.values, ← List.flatMap_def] at hall
  exact hall.sublist (List.filter_sublist.flatMap Prod.snd)

/-- What is gathered from the buckets of some kinds is what the ledger has of these kinds. -/
theorem gathered_perm (h : r.Keeps ledger) {buckets : Buckets}
    (hbuckets : buckets.Perm r.buckets.entries) (kinds : String → Bool) :
    ((buckets.filter fun bucket => kinds bucket.1).flatMap Prod.snd).Perm
      ((ledger.filter fun entry => kinds entry.1).map Prod.snd) := by
  refine ((hbuckets.filter _).flatMap_right Prod.snd).trans ?_
  rw [List.perm_ext_iff_of_nodup (h.gathered_nodup kinds)
    (h.numbered.selected_numbers_nodup kinds).of_map]
  intro s
  rw [h.mem_gathered_iff]
  simp [and_comm]

/-- What is gathered runs in the order of the ledger, sorted by priority, whatever the order of
the buckets. -/
theorem inOrder_gathered (h : r.Keeps ledger) {buckets : Buckets}
    (hbuckets : buckets.Perm r.buckets.entries) (priority : Listener → Int)
    (kinds : String → Bool) :
    inOrder priority ((buckets.filter fun bucket => kinds bucket.1).flatMap Prod.snd) =
      inOrder priority ((ledger.filter fun entry => kinds entry.1).map Prod.snd) := by
  have hgathered := h.gathered_perm hbuckets kinds
  have hnumbers := h.numbered.selected_numbers_nodup kinds
  exact inOrder_eq_of_perm hgathered ((hgathered.map Registration.number).nodup_iff.2 hnumbers)

/-- What is gathered from the buckets of some kinds, in whatever order they are walked, are the
listeners of the pairs of these kinds, by priority and then by place. -/
theorem exists_sorted (h : r.Keeps ledger) (priority : Listener → Int) (kinds : String → Bool) :
    ∃ sorted : List (String × Listener),
      sorted.Perm (ledger.pairs.filter fun pair => kinds pair.1) ∧
      sorted.Pairwise (fun p q => priority p.2 < priority q.2 ∨
        (priority p.2 = priority q.2 ∧ ledger.pairs.idxOf p < ledger.pairs.idxOf q)) ∧
      ∀ buckets : Buckets, buckets.Perm r.buckets.entries →
        (inOrder priority
          ((buckets.filter fun bucket => kinds bucket.1).flatMap Prod.snd)).map
            Registration.listener = sorted.map Prod.snd := by
  let selected : Ledger := ledger.filter fun entry => kinds entry.1
  let sorted : Ledger := selected.mergeSort fun a b => a.2.before priority b.2
  have hperm : sorted.Perm selected := List.mergeSort_perm _ _
  refine ⟨sorted.pairs, ?_, ?_, ?_⟩
  · rw [← ledger.pairs_filter kinds]
    exact hperm.map Ledger.pair
  · have hsorted : sorted.Pairwise fun a b => a.2.before priority b.2 = true :=
      List.pairwise_mergeSort (fun a b c => Registration.before_trans a.2 b.2 c.2)
        (fun a b => Registration.before_total a.2 b.2) selected
    have hnodup : sorted.Nodup :=
      hperm.nodup_iff.2 (h.numbered.numbers_nodup.of_map.sublist List.filter_sublist)
    have hmem : ∀ entry ∈ sorted, entry ∈ ledger := fun entry hentry =>
      List.mem_of_mem_filter (hperm.mem_iff.1 hentry)
    refine List.pairwise_map.2 ((hsorted.and hnodup).imp_of_mem fun {a b} ha hb hab => ?_)
    exact h.numbered.order_of_before (hmem a ha) (hmem b hb) hab.2 hab.1
  · intro buckets hbuckets
    have hinOrder : inOrder priority (selected.map Prod.snd) = sorted.map Prod.snd :=
      (List.map_mergeSort (f := Prod.snd) fun _ _ _ _ => rfl).symm
    rw [h.inOrder_gathered hbuckets, hinOrder, Ledger.pairs, List.map_map, List.map_map]
    rfl

theorem count_eq (h : r.Keeps ledger) (kind : String) :
    r.count kind = ledger.pairs.countP fun p => p.1 = kind := by
  have hnodup : ((ledger.filter fun entry => entry.1 = kind).map Prod.snd).Nodup :=
    (h.numbered.selected_numbers_nodup fun k => k = kind).of_map
  have hperm : (r.bucket kind).Perm ((ledger.filter fun entry => entry.1 = kind).map Prod.snd) := by
    rw [List.perm_ext_iff_of_nodup (h.bucket_nodup kind) hnodup]
    intro s
    rw [h.mem_bucket]
    simp
  rw [count, hperm.length_eq, List.length_map, Ledger.pairs, List.countP_map,
    List.countP_eq_length_filter]
  rfl

end Keeps

end Roster

end ServiceDirectory
