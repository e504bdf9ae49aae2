import ServiceDirectory.Proofs.Discovery.Watches
import ServiceDirectory.Proofs.Leaving.Notebook

/-!
# What becomes of a seat

Two things are followed while anything may happen.  The records of a seat are counted against its
notebook, and its watchers are compared with its records: a watcher is where its record says,
unless the call that has made it is still under way.  So that a call can be looked at while others
are under way, the comparison makes exceptions for some watchers, and the watcher of the call
itself, the busy one, is allowed to be put on lists.

Once a seat is gone, nothing brings it back but a call that subscribes.
-/

namespace ServiceDirectory.Seat

variable {κ σ : Type} {S : Seat}

/-! ## Calls -/

theorem begun_le_of_suffix {calls calls' : List Entry} (h : calls <:+ calls') :
    begun calls ≤ begun calls' :=
  h.sublist.countP_le

theorem torn_le_of_suffix {calls calls' : List Entry} (h : calls <:+ calls') :
    torn calls ≤ torn calls' :=
  h.sublist.countP_le

/-! ## Watchers and records -/

variable (S) in
/-- Every watcher of the seat has a serial number that has been given out, and is where its record
says, but for some exceptions. -/
structure Kempt (except : Watcher → Prop) (w : World κ) : Prop where
  given : ∀ x, S.Owns x → ∀ n service, .watcher x ∈ w.observersAt n service → x.serial < w.next
  due : ∀ x, S.Owns x → ∀ n service, .watcher x ∈ w.observersAt n service →
    except x ∨ S.Due w x n service

variable (S) in
/-- Nothing is left of the seat: no record, and no watcher. -/
structure Gone (w : World κ) : Prop where
  records : S.records w = []
  unwatched : ∀ x, S.Owns x → ∀ n service, .watcher x ∉ w.observersAt n service
  unlisted : S.Unlisted w

/-- Where the table has no record, a watcher in order is not on any list. -/
theorem Kempt.gone {w : World κ} (h : S.Kempt (fun _ => False) w) (hrecords : S.records w = [])
    (hunlisted : S.Unlisted w) : S.Gone w where
  records := hrecords
  unwatched x hx n service hmem := by
    rcases h.due x hx n service hmem with hnone | ⟨-, -, s, hs, -⟩
    · exact hnone
    · rw [hrecords] at hs
      cases hs
  unlisted := hunlisted

/-- Where the wiring is the same and records have only been added, a watcher that was due is due
still. -/
theorem Due.mono {w w' : World κ} {x : Watcher} {n : Ref .notifier} {service : String}
    (h : S.Due w x n service)
    (hdiscovery : (w'.registry S.registry).discovery = (w.registry S.registry).discovery)
    (hwiring : Discovery.notifier? w' = Discovery.notifier? w)
    (hrecords : ∀ s ∈ S.records w, s ∈ S.records w') : S.Due w' x n service := by
  obtain ⟨hn, hservice, s, hs, hwatcher⟩ := h
  refine ⟨?_, hservice, s, hrecords s hs, hwatcher⟩
  rw [hdiscovery, Discovery.notifiers_congr hwiring]
  exact hn

variable (S) in
/-- Records and watchers go on as they should.  What was counted is counted, and no watcher of the
seat has come to a list, but for the busy ones at their places, and for new ones that are on
record. -/
structure TendsBut (busy : Watcher → Prop) (places : Ref .notifier → String → Prop)
    (w w' : World (Notebook σ)) : Prop where
  discovery : (w'.registry S.registry).discovery = (w.registry S.registry).discovery
  wiring : Discovery.notifier? w' = Discovery.notifier? w
  next_le : w.next ≤ w'.next
  unlisted : S.Unlisted w → S.Unlisted w'
  calls : w.client.calls <:+ w'.client.calls
  counted : ∀ base, (S.records w).length = completed base w.client.calls →
    (S.records w').length = completed base w'.client.calls
  placed : ∀ x, S.Owns x → x.serial < w.next → ∀ n service,
    .watcher x ∈ w'.observersAt n service →
      .watcher x ∈ w.observersAt n service ∨ busy x ∧ places n service
  kempt : torn w'.client.calls = torn w.client.calls → ∀ except : Watcher → Prop,
    (∀ x, busy x → except x) → (∀ x, except x → x.serial < w.next) →
      S.Kempt except w → S.Kempt except w'

variable (S) in
/-- Records and watchers go on as they should, and no watcher is busy. -/
def Tends : World (Notebook σ) → World (Notebook σ) → Prop :=
  S.TendsBut (fun _ => False) fun _ _ => False

variable (S) in
/-- Unless a call that subscribes begins, a seat that is gone stays gone and nothing is delivered
to it. -/
def Hushes (w w' : World (Notebook σ)) : Prop :=
  begun w'.client.calls = begun w.client.calls → S.Gone w → S.Gone w' ∧ S.heard w' = S.heard w

variable (S) in
/-- What every move does. -/
structure Leads (w w' : World (Notebook σ)) : Prop where
  tends : S.Tends w w'
  hushes : S.Hushes w w'

section Composing

variable {busy : Watcher → Prop} {places : Ref .notifier → String → Prop}
  {w v w' : World (Notebook σ)}

theorem TendsBut.refl (w : World (Notebook σ)) : S.TendsBut busy places w w :=
  ⟨rfl, rfl, Nat.le_refl _, id, List.suffix_refl _, fun _ h => h, fun _ _ _ _ _ h => Or.inl h,
    fun _ _ _ _ h => h⟩

theorem TendsBut.trans (h : S.TendsBut busy places w v) (h' : S.TendsBut busy places v w') :
    S.TendsBut busy places w w' where
  discovery := h'.discovery.trans h.discovery
  wiring := h'.wiring.trans h.wiring
  next_le := Nat.le_trans h.next_le h'.next_le
  unlisted hw := h'.unlisted (h.unlisted hw)
  calls := h.calls.trans h'.calls
  counted base hw := h'.counted base (h.counted base hw)
  placed x hx hserial n service hmem := by
    rcases h'.placed x hx (Nat.lt_of_lt_of_le hserial h.next_le) n service hmem with hmem | hbusy
    · exact h.placed x hx hserial n service hmem
    · exact Or.inr hbusy
  kempt htorn except hbusy hserial hw := by
    have hfirst := torn_le_of_suffix h.calls
    have hsecond := torn_le_of_suffix h'.calls
    have hv := h.kempt (by omega) except hbusy hserial hw
    exact h'.kempt (by omega) except hbusy
      (fun x hx => Nat.lt_of_lt_of_le (hserial x hx) h.next_le) hv

theorem Tends.but (h : S.Tends w w') : S.TendsBut busy places w w' where
  discovery := h.discovery
  wiring := h.wiring
  next_le := h.next_le
  unlisted := h.unlisted
  calls := h.calls
  counted := h.counted
  placed x hx hserial n service hmem :=
    (h.placed x hx hserial n service hmem).imp_right fun hnone => hnone.1.elim
  kempt htorn except _ := h.kempt htorn except fun _ hnone => hnone.elim

theorem Tends.trans (h : S.Tends w v) (h' : S.Tends v w') : S.Tends w w' := TendsBut.trans h h'

theorem Leads.refl (w : World (Notebook σ)) : S.Leads w w := ⟨.refl w, fun _ h => ⟨h, rfl⟩⟩

theorem Leads.trans (h : S.Leads w v) (h' : S.Leads v w') : S.Leads w w' where
  tends := h.tends.trans h'.tends
  hushes hbegun hw := by
    have hfirst := begun_le_of_suffix h.tends.calls
    have hsecond := begun_le_of_suffix h'.tends.calls
    obtain ⟨hv, hheard⟩ := h.hushes (by omega) hw
    obtain ⟨hw', hheard'⟩ := h'.hushes (by omega) hv
    exact ⟨hw', hheard'.trans hheard⟩

theorem Still.leads (h : S.Still w w') : S.Leads w w' where
  tends := by
    refine ⟨h.discovery, h.wiring, h.next_le, h.unlisted, ?_, fun base hw => ?_,
      fun x hx _ n service hmem => Or.inl (h.watched x hx n service hmem),
      fun _ except _ _ hw => ⟨fun x hx n service hmem => ?_, fun x hx n service hmem => ?_⟩⟩
    · simp only [h.calls, List.suffix_refl]
    · rw [h.records, h.calls]
      exact hw
    · exact Nat.lt_of_lt_of_le (hw.given x hx n service (h.watched x hx n service hmem)) h.next_le
    · refine (hw.due x hx n service (h.watched x hx n service hmem)).imp_right fun hdue => ?_
      exact hdue.mono h.discovery h.wiring fun s hs => h.records ▸ hs
  hushes _ hw := by
    refine ⟨⟨h.records.trans hw.records, fun x hx n service hmem => ?_, h.unlisted hw.unlisted⟩,
      h.heard⟩
    exact hw.unwatched x hx n service (h.watched x hx n service hmem)

end Composing

/-! ## Small steps -/

section Steps

variable {w w' : World (Notebook σ)}

/-- A step that leaves registries, dispatchers and the notebook alone. -/
theorem Still.of_watched (hregistries : w'.registries = w.registries)
    (hdispatchers : w'.dispatchers = w.dispatchers) (hclient : w'.client = w.client)
    (hwiring : Discovery.notifier? w' = Discovery.notifier? w) (hnext : w.next ≤ w'.next)
    (hwatched : ∀ x, S.Owns x → ∀ n service, .watcher x ∈ w'.observersAt n service →
      .watcher x ∈ w.observersAt n service) : S.Still w w' where
  records := by rw [Seat.records, Seat.records, World.registry, hregistries, ← World.registry]
  discovery := by rw [World.registry, hregistries, ← World.registry]
  wiring := hwiring
  next_le := hnext
  watched := hwatched
  unlisted hw id := by
    rw [World.dispatcher, hdispatchers, ← World.dispatcher]
    exact hw id
  calls := by rw [hclient]
  heard := by rw [Seat.heard, Seat.heard, hclient]

theorem Still.note (w : World (Notebook σ)) (n : Notice) : S.Still w (w.note n) :=
  .of_watched rfl rfl rfl rfl (Nat.le_refl _) fun _ _ _ _ h => h

theorem Still.fresh (w : World (Notebook σ)) : S.Still w { w with next := w.next + 1 } :=
  .of_watched rfl rfl rfl rfl (Nat.le_succ _) fun _ _ _ _ h => h

theorem Still.remove (n : Ref .notifier) (service : String) (o : Observer)
    (w : World (Notebook σ)) : S.Still w (w.after (Notifier.remove n service o)) := by
  refine .of_watched rfl rfl rfl rfl (Nat.le_refl _) fun x _ n' service' hmem => ?_
  rw [World.observersAt_remove] at hmem
  split_ifs at hmem
  · exact List.mem_of_mem_filter hmem
  · exact hmem

theorem Still.add {o : Observer} (ho : ∀ x, S.Owns x → o ≠ .watcher x) (n : Ref .notifier)
    (service : String) (w : World (Notebook σ)) :
    S.Still w (w.after (Notifier.add n service o)) := by
  refine .of_watched rfl rfl rfl rfl (Nat.le_refl _) fun x hx n' service' hmem => ?_
  rw [World.observersAt_add] at hmem
  split_ifs at hmem
  · rcases List.mem_append.1 hmem with hold | hnew
    · exact hold
    · exact absurd (List.mem_singleton.1 hnew).symm (ho x hx)
  · exact hmem

theorem Still.setWatched (b : Ref .backed) (service : String) (w : World (Notebook σ)) :
    S.Still w (w.after (BackedSource.setWatched b service)) :=
  .of_watched rfl rfl rfl (BackedSource.notifier?_setWatched w b service) (Nat.le_refl _)
    fun _ _ _ _ h => h

/-- Instances are put into the table of a source. -/
theorem Still.table (m : Ref .memory) (table : InstanceTable) (w : World (Notebook σ)) :
    S.Still w (w.setMemory m { w.memory m with table }) := by
  refine .of_watched rfl rfl rfl ?_ (Nat.le_refl _) fun _ _ _ _ h => h
  funext leaf
  cases leaf with
  | memory m' =>
    rw [Discovery.notifier?, Discovery.notifier?, World.memory_setMemory]
    split_ifs with hm
    · rw [hm]
    · rfl
  | backed _ => rfl
  | composite _ _ => rfl

theorem Still.subscribeUrl (m : Ref .metadata) (url : Url) (w : World (Notebook σ)) :
    S.Still w (w.after (MetadataStore.subscribeUrl m url)) := by
  rw [MetadataStore.after_subscribeUrl]
  exact .of_watched rfl rfl rfl rfl (Nat.le_refl _) fun _ _ _ _ h => h

theorem Still.unsubscribeUrl (m : Ref .metadata) (url : Url) (w : World (Notebook σ)) :
    S.Still w (w.after (MetadataStore.unsubscribeUrl m url)) := by
  rw [MetadataStore.after_unsubscribeUrl]
  exact .of_watched rfl rfl rfl rfl (Nat.le_refl _) fun _ _ _ _ h => h

/-- A delivery that is not for a watcher of the seat is started. -/
theorem Still.serving {delivery : Delivery} (hother : S.hears delivery = false)
    (w : World (Notebook σ)) : S.Still w (w.serving delivery) where
  records := rfl
  discovery := rfl
  wiring := rfl
  next_le := Nat.le_refl _
  watched _ _ _ _ h := h
  unlisted := id
  calls := rfl
  heard := by
    show (delivery :: w.client.delivered).filter S.hears = _
    rw [List.filter_cons_of_neg (by rw [hother]; decide)]
    rfl

/-- A delivery that is for a watcher of the seat changes nothing for records and watchers. -/
theorem Tends.serving (delivery : Delivery) (w : World (Notebook σ)) :
    S.Tends w (w.serving delivery) :=
  ⟨rfl, rfl, Nat.le_refl _, id, List.suffix_refl _, fun _ h => h, fun _ _ _ _ _ h => Or.inl h,
    fun _ _ _ _ h => ⟨h.given, h.due⟩⟩

/-- No watcher of the seat comes to a list by putting another one there. -/
theorem Leads.tolerates {o : Observer} (ho : ∀ x, S.Owns x → o ≠ .watcher x)
    (places : Ref .notifier → String → Prop) : Tolerates (S.Leads (σ := σ)) o places where
  refl := .refl
  trans := .trans
  stays h := Discovery.stays_of_wiring h.tends.wiring
  add n service w _ := (Still.add ho n service w).leads
  remove n service w := (Still.remove n service o w).leads
  setWatched b service w := (Still.setWatched b service w).leads
  note w n := (Still.note w n).leads

theorem TendsBut.add (watcher : Watcher) {places : Ref .notifier → String → Prop}
    {n : Ref .notifier} {service : String} (hplace : places n service)
    (w : World (Notebook σ)) :
    S.TendsBut (· = watcher) places w (w.after (Notifier.add n service (.watcher watcher))) := by
  have hmem : ∀ x n' service', .watcher x ∈ (w.after (Notifier.add n service
      (.watcher watcher))).observersAt n' service' →
      .watcher x ∈ w.observersAt n' service' ∨ x = watcher ∧ places n' service' := by
    intro x n' service' hmem
    rw [World.observersAt_add] at hmem
    split_ifs at hmem with hnew
    · obtain ⟨rfl, rfl, -⟩ := hnew
      rcases List.mem_append.1 hmem with hold | hadded
      · exact Or.inl hold
      · exact Or.inr ⟨Observer.watcher.inj (List.mem_singleton.1 hadded), hplace⟩
    · exact Or.inl hmem
  refine ⟨rfl, rfl, Nat.le_refl _, id, List.suffix_refl _, fun _ h => h,
    fun x _ _ n' service' => hmem x n' service', fun _ except hbusy hserial hw => ?_⟩
  refine ⟨fun x hx n' service' h => ?_, fun x hx n' service' h => ?_⟩
  · rcases hmem x n' service' h with hold | ⟨rfl, -⟩
    · exact hw.given x hx n' service' hold
    · exact hserial x (hbusy x rfl)
  · rcases hmem x n' service' h with hold | ⟨rfl, -⟩
    · exact hw.due x hx n' service' hold
    · exact Or.inl (hbusy x rfl)

/-- A busy watcher may come to the lists at its places. -/
theorem TendsBut.tolerates (watcher : Watcher) (places : Ref .notifier → String → Prop) :
    Tolerates (S.TendsBut (σ := σ) (· = watcher) places) (.watcher watcher) places where
  refl := .refl
  trans := .trans
  stays h := Discovery.stays_of_wiring h.wiring
  add _ _ w hplace := .add watcher hplace w
  remove n service w := (Still.remove n service _ w).leads.tends.but
  setWatched b service w := (Still.setWatched b service w).leads.tends.but
  note w n := (Still.note w n).leads.tends.but

end Steps

end ServiceDirectory.Seat
