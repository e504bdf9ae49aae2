import ServiceDirectory.Proofs.Freshness.Dropping

/-!
# New subscriptions

A call that subscribes has a watcher of its own until it records it.  Meanwhile anything may
happen around it: the watcher may be told of changes before the call has asked for the first
list, and others may come and go.  It is enough that the watcher is placed first and the
source asked then, and that the delivery starts with what was asked.
-/

namespace ServiceDirectory.Site

variable {σ : Type} (S : Site)

/-- A call works on a watcher of its own that it has not recorded. -/
structure Owns (watcher : Watcher) (w : World (Outside σ)) : Prop where
  sound : S.Sound w
  registry : watcher.registry = S.registry
  serial_lt : watcher.serial < w.next
  unrecorded : ¬S.Recorded w watcher

/-- Between `w` and `w'` a call has worked on its own watcher. -/
structure Prepares (watcher : Watcher) (w w' : World (Outside σ)) : Prop where
  owns : S.Owns watcher w'
  evolves : S.Evolves (· = watcher) (S.Settled w) w w'

/-- Between `w` and `w'` a watcher has come to be placed for some services. -/
def Gains (watcher : Watcher) (services : List String) (w w' : World (Outside σ)) : Prop :=
  ∀ service, S.Placed w watcher service ∨ service ∈ services → S.Placed w' watcher service

variable {S} {watcher : Watcher} {w v w' : World (Outside σ)}

theorem Owns.refl (h : S.Owns watcher w) : S.Prepares watcher w w :=
  ⟨h, (Still.refl w).evolves h.sound⟩

theorem Prepares.trans (h : S.Prepares watcher w v) (h' : S.Prepares watcher v w') :
    S.Prepares watcher w w' :=
  ⟨h'.owns, h.evolves.trans h'.evolves⟩

/-- What others do to a watcher without a record leaves it where it is. -/
theorem Owns.same (h : S.Owns watcher w) (hleads : S.Leads w w') : S.Same w w' watcher := by
  obtain ⟨-, hevolves⟩ := hleads h.sound
  rcases hevolves.kept watcher h.registry (fun hnone => hnone) h.serial_lt with hdrop | hsame
  · exact absurd hdrop.1 h.unrecorded
  · exact hsame

theorem Owns.prepares (h : S.Owns watcher w) (hleads : S.Leads w w') :
    S.Prepares watcher w w' where
  owns := by
    refine ⟨(hleads h.sound).1, h.registry, ?_, ?_⟩
    · exact Nat.lt_of_lt_of_le h.serial_lt (hleads h.sound).2.grows.next_le
    · intro hmem
      exact h.unrecorded ((h.same hleads).recorded.1 hmem)
  evolves := hleads.evolves h.sound

theorem Owns.placed (h : S.Owns watcher w) (hleads : S.Leads w w') {service : String}
    (hplaced : S.Placed w watcher service) : S.Placed w' watcher service :=
  hplaced.grows (hleads h.sound).2.grows (h.same hleads).told

/-- Lists may change at the places of the watcher itself. -/
theorem Owns.relisted (h : S.Owns watcher w) (hrelisted : Relisted w w')
    (hregistry : w'.registry S.registry = w.registry S.registry)
    (hothers : ∀ x, x ≠ watcher → ∀ service,
      .watcher x ∈ w'.observersAt S.notifier service ↔
        .watcher x ∈ w.observersAt S.notifier service) : S.Prepares watcher w w' := by
  have hrecorded : ∀ x, S.Recorded w' x ↔ S.Recorded w x := recorded_congr hregistry
  have hsound : S.Sound w' := by
    refine hrelisted.sound h.sound (by rw [hregistry]) ?_ ?_
    · rw [hregistry]
      exact h.sound.filed
    · intro x hmem
      exact h.sound.given x ((hrecorded x).1 hmem)
  have hnext : w.next ≤ w'.next := (hrelisted.grows (S := S)).next_le
  constructor
  · refine ⟨hsound, h.registry, Nat.lt_of_lt_of_le h.serial_lt hnext, ?_⟩
    intro hmem
    exact h.unrecorded ((hrecorded watcher).1 hmem)
  · refine h.sound.evolves hrelisted.grows (fun x => (hrecorded x).1) ?_ ?_
    · intro x _ hother
      exact Or.inr ⟨hrecorded x, hothers x hother⟩
    · intro x _ hother hsettled
      exact Or.inr (hrelisted.settled hsettled (hothers x hother))

/-! ## Putting the watcher in place -/

theorem Owns.add (h : S.Owns watcher w) (n : Ref .notifier) (service : String) :
    S.Prepares watcher w (w.after (Notifier.add n service (.watcher watcher))) := by
  refine h.relisted ⟨_, _, rfl⟩ rfl ?_
  intro x hother service'
  have hne : Observer.watcher x ≠ .watcher watcher := fun heq => hother (Observer.watcher.inj heq)
  rw [World.observersAt_add]
  split_ifs
  · rw [List.mem_append, List.mem_singleton]
    exact or_iff_left hne
  · rfl

theorem Owns.removal (h : S.Owns watcher w) {ns : List (Ref .notifier)}
    {gone : Observer → String → Bool} (hremoval : Removal ns gone w w')
    (hgone : ∀ o service, gone o service = true → o = .watcher watcher) :
    S.Prepares watcher w w' := by
  have hregistry : w'.registry S.registry = w.registry S.registry := by
    rw [hremoval.elsewhere]
    rfl
  refine h.relisted (Relisted.of_removal ⟨_, _, rfl⟩ hremoval) hregistry ?_
  intro x hother service
  rw [hremoval.observers]
  split_ifs
  · rw [List.mem_filter]
    refine and_iff_left ?_
    cases hx : gone (.watcher x) service with
    | false => rfl
    | true => exact absurd (Observer.watcher.inj (hgone _ _ hx)) hother
  · rfl

theorem Owns.unwatch (h : S.Owns watcher w) (d : Discovery) (services : List String) :
    S.Prepares watcher w (w.after (Registry.unwatch d services watcher)) :=
  h.removal (Registry.unwatch_removal d services watcher w)
    fun _ _ ho => (of_decide_eq_true ho).1

theorem source_after_setWatched (b b' : Ref .backed) (service : String)
    (w : World (Outside σ)) :
    (w.after (BackedSource.setWatched b service)).source b' = if b = b' then
      { w.source b with watched :=
          if (w.source b).watched.contains service then (w.source b).watched
          else (w.source b).watched ++ [service] }
    else w.source b' := by
  simp [BackedSource.setWatched]

/-- Counting a service as watched is nothing to take notice of, once the backend has accepted
the watch. -/
theorem still_setWatched (b : Ref .backed) (service : String) (w : World (Outside σ))
    (haccepted : (w.source b).hook ∈ w.client.accepted (w.source b).backend service) :
    S.Still w (w.after (BackedSource.setWatched b service)) := by
  refine ⟨rfl, fun _ => rfl, fun _ _ => rfl, ?_, fun _ _ => rfl, fun _ h => h, Nat.le_refl _⟩
  intro b' _
  have hsource := source_after_setWatched b b' service w
  by_cases hb : b = b'
  · subst hb
    rw [if_pos rfl] at hsource
    refine ⟨by rw [hsource], by rw [hsource]; rfl, ?_, ?_, fun h => h, fun _ => rfl,
      fun _ _ h => h⟩
    · intro service' hservice'
      rw [hsource]
      dsimp only
      split_ifs
      · exact hservice'
      · exact List.mem_append_left _ hservice'
    · intro service' hservice'
      rw [hsource] at hservice'
      dsimp only at hservice'
      split_ifs at hservice'
      · exact Or.inl hservice'
      · rcases List.mem_append.1 hservice' with hbefore | hnew
        · exact Or.inl hbefore
        · rw [List.mem_singleton.1 hnew]
          exact Or.inr haccepted
  · rw [if_neg hb] at hsource
    refine ⟨by rw [hsource], by rw [hsource], ?_, ?_, fun h => h, fun _ => rfl, fun _ _ h => h⟩
    · intro service' hservice'
      rwa [hsource]
    · intro service' hservice'
      rw [hsource] at hservice'
      exact Or.inl hservice'

theorem mem_watched_after_setWatched (b : Ref .backed) (service : String)
    (w : World (Outside σ)) :
    service ∈ ((w.after (BackedSource.setWatched b service)).source b).watched := by
  rw [source_after_setWatched, if_pos rfl]
  dsimp only
  split_ifs with hcontains
  · exact List.contains_iff_mem.1 hcontains
  · exact List.mem_append_right _ (List.mem_singleton.2 rfl)

/-- A watcher that comes on the list of one more service, which the source of a backend
watches, is placed for it. -/
theorem gains_backed {b : Ref .backed} (hd : S.discovery = .backed b) {service : String}
    (hgrown : S.Grows w v)
    (htold : ∀ service', .watcher watcher ∈ w.observersAt S.notifier service' ∨
      service' = service → .watcher watcher ∈ v.observersAt S.notifier service')
    (hwatched : service ∈ (v.source b).watched) : S.Gains watcher [service] w v := by
  intro service' hplaced
  rw [List.mem_singleton] at hplaced
  refine ⟨htold service' (hplaced.imp_left Placed.told), ?_⟩
  intro b' hb'
  obtain rfl : b = b' := Discovery.backed.inj (hd.symm.trans hb')
  rcases hplaced with hplaced | rfl
  · exact hgrown.watched b hd service' (hplaced.reported b hd)
  · exact hwatched

section Behaving

variable {host : Host (Outside σ)} (hhost : S.Behaves S.Leads host)

include hhost

/-- However the addition to a backed source ends, the call has only prepared its watcher.
When it succeeds, the watcher is placed for the service too. -/
theorem Owns.addObserver_backed (h : S.Owns watcher w) {b : Ref .backed}
    (hd : S.discovery = .backed b) (service : String) :
    S.Prepares watcher w
      (w.after (BackedSource.addObserver host b service (.watcher watcher)).run) ∧
    (w.result (BackedSource.addObserver host b service (.watcher watcher)).run = .ok () →
      S.Gains watcher [service] w
        (w.after (BackedSource.addObserver host b service (.watcher watcher)).run)) := by
  have hn : (w.source b).notifier = S.notifier := by
    have hnotifier := h.sound.notifier
    rw [hd] at hnotifier
    exact Option.some.inj hnotifier
  have hadded := h.add S.notifier service
  have htold : ∀ service', .watcher watcher ∈ w.observersAt S.notifier service' ∨
      service' = service → .watcher watcher ∈
        (w.after (Notifier.add S.notifier service (.watcher watcher))).observersAt
          S.notifier service' :=
    fun service' => (World.mem_observersAt_add w S.notifier service service' _).2
  have hways := BackedSource.addObserver_cases host b service (.watcher watcher) w
  dsimp only at hways
  rw [hn] at hways
  generalize w.after (Notifier.add S.notifier service (.watcher watcher)) = v
    at hadded htold hways
  have hasked := hhost.watch (w.source b).backend service (w.source b).hook v
  have haccepted := hhost.watch_ok (w.source b).backend service (w.source b).hook v
  generalize v.after (host.watch (w.source b).backend service (w.source b).hook) = u
    at hways hasked haccepted
  have hprepared := hadded.trans (hadded.owns.prepares hasked)
  rcases hways with ⟨hwatching, -, hfinal⟩ | ⟨-, hok, -, hfinal⟩ | ⟨cause, -, hresult, hfinal⟩ |
    ⟨payload, -, hresult, hfinal⟩
  · rw [hfinal]
    refine ⟨hadded, fun _ => ?_⟩
    exact gains_backed hd hadded.evolves.grows htold (List.contains_iff_mem.1 hwatching)
  · have hhook := hprepared.evolves.grows.hook b hd
    have hset : S.Still u (u.after (BackedSource.setWatched b service)) := by
      apply still_setWatched
      rw [hhook, show (u.source b).backend = (w.source b).backend from
        congrArg WatchHook.backend hhook]
      exact haccepted hok
    have hdone := hset.trans (Still.note _ (.watchInstalled (w.source b).name service))
    have hfinished := hprepared.trans (hprepared.owns.prepares hdone.leads)
    rw [hfinal]
    refine ⟨hfinished, fun _ => gains_backed hd hfinished.evolves.grows ?_ ?_⟩
    · intro service' hbefore
      refine ((hprepared.owns.same hdone.leads).told service').2 ?_
      exact ((hadded.owns.same hasked).told service').2 (htold service' hbefore)
    · exact mem_watched_after_setWatched b service u
  · have hremoved := hprepared.owns.removal
      (Discovery.removeObserver_one u S.notifier service (.watcher watcher))
      (fun _ _ ho => (of_decide_eq_true ho).1)
    rw [hfinal, hresult]
    exact ⟨hprepared.trans hremoved, fun hok => nomatch hok⟩
  · rw [hfinal, hresult]
    exact ⟨hprepared, fun hok => nomatch hok⟩

theorem Owns.addObserver (h : S.Owns watcher w) (service : String) :
    S.Prepares watcher w
      (w.after (S.discovery.addObserver host service (.watcher watcher)).run) ∧
    (w.result (S.discovery.addObserver host service (.watcher watcher)).run = .ok () →
      S.Gains watcher [service] w
        (w.after (S.discovery.addObserver host service (.watcher watcher)).run)) := by
  have hnotifier := h.sound.notifier
  cases hd : S.discovery with
  | memory m =>
    have hfinal : w.after (Discovery.addObserver host service (.watcher watcher) (.memory m)).run =
        w.after (Notifier.add S.notifier service (.watcher watcher)) := by
      rw [hd] at hnotifier
      rw [← Option.some.inj hnotifier]
      rfl
    rw [hfinal]
    refine ⟨h.add S.notifier service, fun _ service' hplaced => ?_⟩
    rw [List.mem_singleton] at hplaced
    refine ⟨(World.mem_observersAt_add w S.notifier service service' _).2
      (hplaced.imp_left Placed.told), ?_⟩
    intro b hb
    rw [hd] at hb
    cases hb
  | backed b => exact h.addObserver_backed hhost hd service
  | composite c sources =>
    rw [hd] at hnotifier
    cases hnotifier

theorem Owns.watchEach (h : S.Owns watcher w) (tried services : List String) :
    S.Prepares watcher w
      (w.after (Registry.watchEach host S.discovery watcher tried services).run) ∧
    (w.result (Registry.watchEach host S.discovery watcher tried services).run = .ok () →
      S.Gains watcher services w
        (w.after (Registry.watchEach host S.discovery watcher tried services).run)) := by
  induction services generalizing tried w with
  | nil =>
    refine ⟨h.refl, fun _ service hplaced => ?_⟩
    exact hplaced.resolve_right List.not_mem_nil
  | cons next rest ih =>
    obtain ⟨hadded, hgains⟩ := h.addObserver hhost next
    have hways := Registry.watchEach_cases host S.discovery watcher tried next rest w
    dsimp only at hways
    generalize w.after (S.discovery.addObserver host next (.watcher watcher)).run = v
      at hadded hgains hways
    rcases hways with ⟨hok, hresult, hfinal⟩ | ⟨cause, -, hresult, hfinal⟩ |
      ⟨payload, -, hresult, hfinal⟩
    · obtain ⟨hrest, hgainsRest⟩ := ih hadded.owns (tried ++ [next])
      rw [hfinal, hresult]
      refine ⟨hadded.trans hrest, fun hokRest service hplaced => ?_⟩
      apply hgainsRest hokRest
      rcases hplaced with hplaced | hservice
      · exact Or.inl (hgains hok service (Or.inl hplaced))
      · rcases List.mem_cons.1 hservice with rfl | hservice
        · exact Or.inl (hgains hok service (Or.inr (List.mem_singleton.2 rfl)))
        · exact Or.inr hservice
    · rw [hfinal, hresult]
      exact ⟨hadded.trans (hadded.owns.unwatch _ _), fun hok => nomatch hok⟩
    · rw [hfinal, hresult]
      exact ⟨hadded, fun hok => nomatch hok⟩

end Behaving

end ServiceDirectory.Site
