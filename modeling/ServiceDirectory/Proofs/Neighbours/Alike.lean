import Mathlib.Data.List.Forall2
import ServiceDirectory.Proofs.Neighbours.Aloof

/-!
# Two worlds that look the same from a seat

One world has come from a run, the other from what is left of the run when the calls about other
seats are erased.  Serial numbers have been given out in both, but not the same ones.  So the
watchers of the seat come in pairs, one in each world, and the lists of observers agree up to
these pairs once the watchers of others are left out.
-/

namespace ServiceDirectory.Seat

variable {σ τ : Type} {S : Seat} {common : σ → τ} {m : Ref .memory}
  {pairs : Watcher → Watcher → Prop}

/-- An observer is in one world what another is in the other world. -/
inductive Twin (pairs : Watcher → Watcher → Prop) : Observer → Observer → Prop
  | client (l : Ref .listener) : Twin pairs (.client l) (.client l)
  | watcher {x y : Watcher} (h : pairs x y) : Twin pairs (.watcher x) (.watcher y)

variable (S common m) in
/-- Apart from records and from the lists of observers, the worlds look the same. -/
structure Level (w v : World (Chronicle σ)) : Prop where
  snapshots : S.snapshots w = S.snapshots v
  common : common w.client.own = common v.client.own
  registry : w.registry S.registry =
    { v.registry S.registry with subscriptions := (w.registry S.registry).subscriptions }
  discovery : (w.registry S.registry).discovery = .memory m
  exported : ∀ md, (w.store md).exported = (v.store md).exported
  memory : w.memory = v.memory

variable (S pairs) in
/-- The pairs of watchers, each of which stands for the other.  They differ in their serial
numbers only, which have been given out. -/
structure Paired (w v : World (Chronicle σ)) : Prop where
  differ : ∀ {x y}, pairs x y → S.Owns x ∧ y = { x with serial := y.serial }
  given : ∀ {x y}, pairs x y → x.serial < w.next ∧ y.serial < v.next
  unique : Relator.BiUnique pairs

variable (S) in
/-- The watchers of the recorded subscriptions of the seat. -/
def watchers (w : World (Chronicle σ)) : List Watcher := (S.records w).map Subscription.watcher

variable (S common m pairs) in
/-- The worlds look the same. -/
structure Alike (w v : World (Chronicle σ)) : Prop extends Level S common m w v,
    Paired S pairs w v where
  filed : S.Filed w ∧ S.Filed v
  watchers : List.Forall₂ pairs (S.watchers w) (S.watchers v)
  observers : ∀ n service, List.Forall₂ (Twin pairs) ((w.observersAt n service).filter S.minds)
    ((v.observersAt n service).filter S.minds)

section

variable {w v w' v' : World (Chronicle σ)}

/-! ## Pairs -/

theorem Twin.flip {o o' : Observer} (h : Twin pairs o o') : Twin (flip pairs) o' o := by
  cases h with
  | client l => exact .client l
  | watcher h => exact .watcher h

theorem Paired.symm (h : S.Paired pairs w v) : S.Paired (flip pairs) v w where
  differ := by
    intro y x hpair
    obtain ⟨howns, hy⟩ := h.differ hpair
    rw [hy]
    exact ⟨howns, rfl⟩
  given hpair := (h.given hpair).symm
  unique := ⟨fun _ _ _ hx hy => h.unique.2 hx hy, fun _ _ _ hx hy => h.unique.1 hx hy⟩

theorem Paired.twins (h : S.Paired pairs w v) : Relator.BiUnique (Twin pairs) := by
  constructor
  · rintro _ _ _ (_ | hx) (_ | hy)
    · rfl
    · rw [h.unique.1 hx hy]
  · rintro _ _ _ (_ | hx) (_ | hy)
    · rfl
    · rw [h.unique.2 hx hy]

theorem Paired.later (h : S.Paired pairs w v) (hw : w.next ≤ w'.next) (hv : v.next ≤ v'.next) :
    S.Paired pairs w' v' where
  differ := h.differ
  given hpair := ⟨Nat.lt_of_lt_of_le (h.given hpair).1 hw, Nat.lt_of_lt_of_le (h.given hpair).2 hv⟩
  unique := h.unique

theorem Paired.minds_of_twin (h : S.Paired pairs w v) {o o' : Observer}
    (htwin : Twin pairs o o') : S.minds o = true := by
  cases htwin with
  | client l => rfl
  | watcher hpair => exact decide_eq_true (h.differ hpair).1

/-! ## What happens in one of the worlds -/

theorem Level.symm (h : S.Level common m w v) : S.Level common m v w where
  snapshots := h.snapshots.symm
  common := h.common.symm
  registry := by rw [h.registry]
  discovery := by
    have hdiscovery := h.discovery
    rw [h.registry] at hdiscovery
    exact hdiscovery
  exported md := (h.exported md).symm
  memory := h.memory.symm

theorem Alike.symm (h : S.Alike common m pairs w v) : S.Alike common m (flip pairs) v w where
  toLevel := h.toLevel.symm
  toPaired := h.toPaired.symm
  filed := h.filed.symm
  watchers := h.watchers.flip
  observers n service := ((h.observers n service).flip).imp fun _ _ htwin => htwin.flip

theorem Level.calm (h : S.Level common m w v) (hw : S.Calm common w w') :
    S.Level common m w' v where
  snapshots := hw.snapshots.trans h.snapshots
  common := hw.common.trans h.common
  registry := by rw [hw.registry, h.registry]
  discovery := by
    rw [hw.registry]
    exact h.discovery
  exported md := (hw.exported md).trans (h.exported md)
  memory := hw.memory.trans h.memory

theorem Level.calm_both (h : S.Level common m w v) (hw : S.Calm common w w')
    (hv : S.Calm common v v') : S.Level common m w' v' :=
  ((h.calm hw).symm.calm hv).symm

theorem Alike.aloof (h : S.Alike common m pairs w v) (hw : S.Aloof common w w') :
    S.Alike common m pairs w' v where
  toLevel := h.toLevel.calm hw.toCalm
  toPaired := h.toPaired.later hw.next_le (Nat.le_refl _)
  filed := ⟨hw.filed h.filed.1, h.filed.2⟩
  watchers := by
    rw [Seat.watchers, hw.records]
    exact h.watchers
  observers n service := by
    rw [hw.observers h.filed.1]
    exact h.observers n service

theorem Alike.aloof_right (h : S.Alike common m pairs w v) (hv : S.Aloof common v v') :
    S.Alike common m pairs w v' :=
  (h.symm.aloof hv).symm

theorem Alike.aloof_both (h : S.Alike common m pairs w v) (hw : S.Aloof common w w')
    (hv : S.Aloof common v v') : S.Alike common m pairs w' v' :=
  (h.aloof hw).aloof_right hv

/-! ## What happens in both worlds -/

theorem Alike.mem_iff (h : S.Alike common m pairs w v) {o o' : Observer}
    (htwin : Twin pairs o o') (n : Ref .notifier) (service : String) :
    o ∈ w.observersAt n service ↔ o' ∈ v.observersAt n service := by
  have hmem := List.rel_mem h.twins htwin (h.observers n service)
  have ho := h.minds_of_twin htwin
  have ho' := h.toPaired.symm.minds_of_twin htwin.flip
  simpa [List.mem_filter, ho, ho'] using hmem

theorem Alike.add (h : S.Alike common m pairs w v) {o o' : Observer} (htwin : Twin pairs o o')
    (n : Ref .notifier) (service : String) :
    S.Alike common m pairs (w.after (Notifier.add n service o))
      (v.after (Notifier.add n service o')) where
  toLevel := h.toLevel.calm_both (.add n service o w) (.add n service o' v)
  toPaired := h.toPaired.later (Nat.le_refl _) (Nat.le_refl _)
  filed := h.filed
  watchers := h.watchers
  observers n' service' := by
    have hsame := h.mem_iff htwin n' service'
    rw [World.observersAt_add, World.observersAt_add]
    by_cases hnew : n = n' ∧ service = service' ∧ o ∉ w.observersAt n' service'
    · rw [if_pos hnew, if_pos ⟨hnew.1, hnew.2.1, hnew.2.2 ∘ hsame.2⟩, List.filter_append,
        List.filter_append, List.filter_cons_of_pos (h.minds_of_twin htwin),
        List.filter_cons_of_pos (h.toPaired.symm.minds_of_twin htwin.flip)]
      exact List.rel_append (h.observers n' service') (.cons htwin .nil)
    · rw [if_neg hnew, if_neg fun hnew' => hnew ⟨hnew'.1, hnew'.2.1, hnew'.2.2 ∘ hsame.1⟩]
      exact h.observers n' service'

/-- Lists of observers go on agreeing when of two twins both are taken out or none. -/
theorem forall₂_filter {l l' : List Observer} {stays stays' : Observer → Bool}
    (h : List.Forall₂ (Twin pairs) (l.filter S.minds) (l'.filter S.minds))
    (hstays : ∀ o o', Twin pairs o o' → (stays o = true ↔ stays' o' = true)) :
    List.Forall₂ (Twin pairs) ((l.filter stays).filter S.minds)
      ((l'.filter stays').filter S.minds) := by
  rw [List.filter_comm, List.filter_comm (p := S.minds)]
  exact List.rel_filter (fun o o' htwin => hstays o o' htwin) h

theorem Alike.remove (h : S.Alike common m pairs w v) {o o' : Observer} (htwin : Twin pairs o o')
    (n : Ref .notifier) (service : String) :
    S.Alike common m pairs (w.after (Notifier.remove n service o))
      (v.after (Notifier.remove n service o')) where
  toLevel := h.toLevel.calm_both (.remove n service o w) (.remove n service o' v)
  toPaired := h.toPaired.later (Nat.le_refl _) (Nat.le_refl _)
  filed := h.filed
  watchers := h.watchers
  observers n' service' := by
    rw [World.observersAt_remove, World.observersAt_remove]
    split_ifs
    · refine forall₂_filter (h.observers n' service') fun p p' hp => ?_
      have hsame : p = o ↔ p' = o' := Relator.rel_eq h.twins hp htwin
      simp [hsame]
    · exact h.observers n' service'

theorem mem_taken_iff {url : Url} (hurl : url.fullString = S.url) (w : World (Chronicle σ))
    (x : Watcher) (service : String) :
    (∃ s ∈ ((w.registry S.registry).subscriptions.take url.fullString S.sink).1,
      Observer.watcher x = .watcher s.watcher ∧ service ∈ s.services) ↔
        x ∈ S.watchers w ∧ service ∈ x.services := by
  rw [SubscriptionTable.fst_take, hurl]
  change (∃ s ∈ S.records w, _) ↔ _
  constructor
  · rintro ⟨s, hs, hx, hservice⟩
    obtain rfl := Observer.watcher.inj hx
    exact ⟨List.mem_map_of_mem hs, hservice⟩
  · rintro ⟨hx, hservice⟩
    obtain ⟨s, hs, rfl⟩ := List.mem_map.1 hx
    exact ⟨s, hs, rfl, hservice⟩

/-- Both worlds take out the records of the seat. -/
theorem Alike.drop (h : S.Alike common m pairs w v) {url : Url} (hurl : url.fullString = S.url) :
    S.Alike common m pairs (w.after (Registry.dropSubscription S.registry url S.sink))
      (v.after (Registry.dropSubscription S.registry url S.sink)) where
  toLevel := h.toLevel.calm_both (.drop url S.sink w) (.drop url S.sink v)
  toPaired := h.toPaired.later (Nat.le_of_eq (next_dropped S.registry url S.sink w).symm)
    (Nat.le_of_eq (next_dropped S.registry url S.sink v).symm)
  filed := ⟨h.filed.1.drop url S.sink, h.filed.2.drop url S.sink⟩
  watchers := by
    have htakes : S.Takes S.registry url S.sink := ⟨rfl, hurl, rfl⟩
    rw [Seat.watchers, Seat.watchers, records_dropped_of_takes htakes,
      records_dropped_of_takes htakes]
    exact .nil
  observers n service := by
    rw [(Registry.dropSubscription_removal S.registry url S.sink w).observers,
      (Registry.dropSubscription_removal S.registry url S.sink v).observers,
      h.discovery, h.toLevel.symm.discovery, Discovery.notifiers_memory,
      Discovery.notifiers_memory, h.memory]
    split_ifs
    · refine forall₂_filter (h.observers n service) fun o o' htwin => ?_
      simp only [Bool.not_eq_true', decide_eq_false_iff_not]
      refine not_congr ?_
      cases htwin with
      | client l => simp
      | @watcher x y hpair =>
        have hmem : x ∈ S.watchers w ↔ y ∈ S.watchers v := List.rel_mem h.unique hpair h.watchers
        have hservices : x.services = y.services := by rw [(h.differ hpair).2]
        rw [mem_taken_iff hurl, mem_taken_iff hurl, hmem, hservices]
    · exact h.observers n service

/-- Both worlds put a record in. -/
theorem Alike.record (h : S.Alike common m pairs w v) {x y : Watcher} (hpair : pairs x y)
    {url : Url} (hsubscribed : x.subscribed = url) :
    S.Alike common m pairs
      (w.after (Registry.setSubscriptions S.registry
        ((w.registry S.registry).subscriptions.add url.fullString ⟨S.sink, x⟩)))
      (v.after (Registry.setSubscriptions S.registry
        ((v.registry S.registry).subscriptions.add url.fullString ⟨S.sink, y⟩))) := by
  obtain ⟨⟨hregistry, hurl, hsink⟩, hy⟩ := h.differ hpair
  rw [hsubscribed] at hurl
  have htakes : S.Takes S.registry url S.sink := ⟨rfl, hurl, rfl⟩
  refine ⟨h.toLevel.calm_both (.record _ w) (.record _ v),
    h.toPaired.later (Nat.le_refl _) (Nat.le_refl _),
    ⟨h.filed.1.record hregistry hsubscribed hsink, h.filed.2.record ?_ ?_ ?_⟩, ?_, h.observers⟩
  · rw [hy]
    exact hregistry
  · rw [hy]
    exact hsubscribed
  · rw [hy]
    exact hsink
  · rw [Seat.watchers, Seat.watchers, records_recorded_of_takes htakes,
      records_recorded_of_takes htakes, List.map_append, List.map_append]
    exact List.rel_append h.watchers (.cons hpair .nil)

/-- Both worlds make a watcher, with the next serial number. -/
theorem Alike.pair (h : S.Alike common m pairs w v) {x y : Watcher} (howns : S.Owns x)
    (hserial : x.serial = w.next) (hy : y = { x with serial := v.next }) :
    S.Alike common m (fun a b => pairs a b ∨ a = x ∧ b = y) { w with next := w.next + 1 }
      { v with next := v.next + 1 } where
  toLevel := h.toLevel.calm_both (Aloof.fresh w).toCalm (Aloof.fresh v).toCalm
  differ := by
    rintro a b (hab | ⟨rfl, rfl⟩)
    · exact h.differ hab
    · exact ⟨howns, by rw [hy]⟩
  given := by
    rintro a b (hab | ⟨rfl, rfl⟩)
    · exact ⟨Nat.lt_succ_of_lt (h.given hab).1, Nat.lt_succ_of_lt (h.given hab).2⟩
    · rw [hserial, hy]
      exact ⟨Nat.lt_succ_self _, Nat.lt_succ_self _⟩
  unique := by
    have hnew : ∀ {b}, ¬pairs x b := fun hxb => Nat.ne_of_lt (h.given hxb).1 hserial
    have hnew' : ∀ {a}, ¬pairs a y := fun hay => Nat.ne_of_lt (h.given hay).2 (by rw [hy])
    constructor
    · rintro a b c (hac | ⟨ha, hc⟩) (hbc | ⟨hb, hc'⟩)
      · exact h.unique.1 hac hbc
      · exact absurd (hc' ▸ hac) hnew'
      · exact absurd (hc ▸ hbc) hnew'
      · exact ha.trans hb.symm
    · rintro a b c (hab | ⟨ha, hb⟩) (hac | ⟨ha', hc⟩)
      · exact h.unique.2 hab hac
      · exact absurd (ha' ▸ hab) hnew
      · exact absurd (ha ▸ hac) hnew
      · exact hb.trans hc.symm
  filed := h.filed
  watchers := h.watchers.imp fun _ _ => Or.inl
  observers n service := (h.observers n service).imp fun _ _ htwin => by
    cases htwin with
    | client l => exact .client l
    | watcher hpair => exact .watcher (.inl hpair)

/-- Clients of both worlds have done something, with consequences that look the same. -/
theorem Alike.byClients (h : S.Alike common m pairs w v)
    (hw : w' = { w with client := w'.client }) (hv : v' = { v with client := v'.client })
    (hsnapshots : S.snapshots w' = S.snapshots v')
    (hcommon : common w'.client.own = common v'.client.own) :
    S.Alike common m pairs w' v' := by
  rw [hw, hv] at hsnapshots hcommon ⊢
  exact ⟨⟨hsnapshots, hcommon, h.registry, h.discovery, h.exported, h.memory⟩,
    ⟨h.differ, h.given, h.unique⟩, h.filed, h.watchers, h.observers⟩

/-- Both worlds export or unexport a URL. -/
theorem Alike.setStore (h : S.Alike common m pairs w v) (md : Ref .metadata)
    {store store' : MetadataStore} (hsame : store.exported = store'.exported) :
    S.Alike common m pairs (w.setStore md store) (v.setStore md store') := by
  refine ⟨⟨h.snapshots, h.common, h.registry, h.discovery, fun md' => ?_, h.memory⟩,
    ⟨h.differ, h.given, h.unique⟩, h.filed, h.watchers, h.observers⟩
  rw [World.store_setStore, World.store_setStore]
  split_ifs
  · exact hsame
  · exact h.exported md'

/-- Both worlds change the instances of a source. -/
theorem Alike.setMemory (h : S.Alike common m pairs w v) (m' : Ref .memory)
    (source : MemorySource) :
    S.Alike common m pairs (w.setMemory m' source) (v.setMemory m' source) := by
  refine ⟨⟨h.snapshots, h.common, h.registry, h.discovery, h.exported, funext fun m'' => ?_⟩,
    ⟨h.differ, h.given, h.unique⟩, h.filed, h.watchers, h.observers⟩
  rw [World.memory_setMemory, World.memory_setMemory, h.memory]

end

end ServiceDirectory.Seat
