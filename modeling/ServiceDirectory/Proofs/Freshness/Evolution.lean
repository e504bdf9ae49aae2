import ServiceDirectory.Proofs.Freshness.Site
import ServiceDirectory.Proofs.Registry.Table

/-!
# Settled watchers

A watcher is settled when nothing more has to happen for its sink to know the instances:
it is on the lists of its services, and either its latest delivery has carried what the
source lists now, or a task is waiting that will tell it to look again.

`Evolves` says what becomes of the watchers between two worlds.  A watcher that is settled
stays so until its record is dropped, and a watcher with a new record is settled.  While a
call is under way it has a watcher of its own to which this does not apply yet, and a
change of instances unsettles watchers that have yet to be told; the two parameters of
`Evolves` speak of these.
-/

namespace ServiceDirectory.Site

variable {σ : Type} (S : Site)

/-- A watcher is that of a record. -/
def Recorded (w : World (Outside σ)) (watcher : Watcher) : Prop :=
  ∃ url, ∃ s ∈ (w.registry S.registry).subscriptions.get url, s.watcher = watcher

/-- Changes of a service are reported, and a watcher is among those who are told. -/
structure Placed (w : World (Outside σ)) (watcher : Watcher) (service : String) : Prop where
  told : .watcher watcher ∈ w.observersAt S.notifier service
  reported : ∀ b, S.discovery = .backed b → service ∈ (w.source b).watched

/-- A watcher is placed for all its services. -/
def Ready (w : World (Outside σ)) (watcher : Watcher) : Prop :=
  ∀ service ∈ watcher.services, S.Placed w watcher service

/-- A task tells the watchers of a service that it has changed. -/
def TellsOf (task : Task) (service : String) : Prop :=
  (∃ instances, task.event.content = .membership service instances) ∧
    Buckets.Reach S.notifier task.buckets

/-- A watcher has nothing to catch up with that is not under way. -/
structure Settled (w : World (Outside σ)) (watcher : Watcher) : Prop where
  ready : S.Ready w watcher
  current : w.latest? watcher = some (S.urls w watcher.subscribed watcher.services) ∨
    ∃ task ∈ w.client.pending, ∃ service ∈ watcher.services, S.TellsOf task service

/-- What holds of a site at all times: it is wired, and the table is in order. -/
structure Sound (w : World (Outside σ)) : Prop extends S.Wired w where
  filed : (w.registry S.registry).subscriptions.Filed S.registry
  given : ∀ watcher, S.Recorded w watcher → watcher.serial < w.next

/-- A watcher has lost its record. -/
def Dropped (w w' : World (Outside σ)) (watcher : Watcher) : Prop :=
  S.Recorded w watcher ∧ ¬S.Recorded w' watcher

/-- A watcher has a record as before, or none as before, and is on the same lists. -/
structure Same (w w' : World (Outside σ)) (watcher : Watcher) : Prop where
  recorded : S.Recorded w' watcher ↔ S.Recorded w watcher
  told : ∀ service, .watcher watcher ∈ w'.observersAt S.notifier service ↔
    .watcher watcher ∈ w.observersAt S.notifier service

/-- Serial numbers are used up, and the source gets further watches. -/
structure Grows (w w' : World (Outside σ)) : Prop where
  next_le : w.next ≤ w'.next
  hook : ∀ b, S.discovery = .backed b → (w'.source b).hook = (w.source b).hook
  watched : ∀ b, S.discovery = .backed b → ∀ service ∈ (w.source b).watched,
    service ∈ (w'.source b).watched

/-- What becomes of the watchers of a registry, those apart that are a call's `own`.  One that
`settles` is settled in the end, unless it is dropped. -/
structure Evolves (own settles : Watcher → Prop) (w w' : World (Outside σ)) : Prop where
  grows : S.Grows w w'
  kept : ∀ watcher : Watcher, watcher.registry = S.registry → ¬own watcher →
    watcher.serial < w.next → S.Dropped w w' watcher ∨ S.Same w w' watcher
  settled : ∀ watcher : Watcher, watcher.registry = S.registry → ¬own watcher →
    watcher.serial < w.next → settles watcher → S.Dropped w w' watcher ∨ S.Settled w' watcher
  fresh : ∀ watcher : Watcher, watcher.registry = S.registry → ¬own watcher →
    w.next ≤ watcher.serial → S.Recorded w' watcher → S.Settled w' watcher

variable {S} {w v w' : World (Outside σ)}

/-! ## From one world to the next -/

theorem recorded_congr (hregistry : w'.registry S.registry = w.registry S.registry)
    (watcher : Watcher) : S.Recorded w' watcher ↔ S.Recorded w watcher := by
  unfold Recorded
  rw [hregistry]

/-- What clients remember may change, as long as it is not what the site relies on. -/
theorem Still.withClient (w : World (Outside σ)) {client : Outside σ}
    (hlisted : client.listed = w.client.listed)
    (haccepted : ∀ b service, ∀ hook ∈ w.client.accepted b service,
      hook ∈ client.accepted b service)
    (hlatest : ∀ watcher : Watcher, watcher.registry = S.registry →
      World.latest? { w with client } watcher = w.latest? watcher)
    (hpending : ∀ task ∈ w.client.pending, task ∈ client.pending) :
    S.Still w { w with client } where
  registry := rfl
  observers _ := rfl
  memory _ _ := rfl
  source b _ := by
    refine ⟨rfl, rfl, fun _ h => h, fun _ h => Or.inl h, fun h => h, ?_, haccepted _⟩
    intro service
    show client.listed _ service = _
    rw [hlisted]
  latest := hlatest
  pending := hpending
  next_le := Nat.le_refl _

/-- Serial numbers may be given out, the log and the metadata stores may change. -/
theorem Still.sameClient (w : World (Outside σ)) (journal : List Notice)
    (stores : OrderedMap (Ref .metadata) MetadataStore) {next : Nat} (hnext : w.next ≤ next) :
    S.Still w { w with next, journal, stores } where
  registry := rfl
  observers _ := rfl
  memory _ _ := rfl
  source _ _ := ⟨rfl, rfl, fun _ h => h, fun _ h => Or.inl h, fun h => h, fun _ => rfl,
    fun _ _ h => h⟩
  latest _ _ := rfl
  pending _ h := h
  next_le := hnext

theorem Still.refl (w : World (Outside σ)) : S.Still w w :=
  Still.sameClient w w.journal w.stores (Nat.le_refl _)

theorem Still.note (w : World (Outside σ)) (n : Notice) : S.Still w (w.note n) :=
  Still.sameClient w (n :: w.journal) w.stores (Nat.le_refl _)

theorem Same.refl (w : World (Outside σ)) (watcher : Watcher) : S.Same w w watcher :=
  ⟨Iff.rfl, fun _ => Iff.rfl⟩

theorem Same.trans {watcher : Watcher} (h : S.Same w v watcher) (h' : S.Same v w' watcher) :
    S.Same w w' watcher :=
  ⟨h'.recorded.trans h.recorded, fun service => (h'.told service).trans (h.told service)⟩

theorem Grows.refl (w : World (Outside σ)) : S.Grows w w :=
  ⟨Nat.le_refl _, fun _ _ => rfl, fun _ _ _ h => h⟩

theorem Grows.trans (h : S.Grows w v) (h' : S.Grows v w') : S.Grows w w' where
  next_le := Nat.le_trans h.next_le h'.next_le
  hook b hb := (h'.hook b hb).trans (h.hook b hb)
  watched b hb service hservice := h'.watched b hb service (h.watched b hb service hservice)

theorem Placed.grows {watcher : Watcher} {service : String} (h : S.Placed w watcher service)
    (hgrows : S.Grows w w')
    (htold : ∀ service, .watcher watcher ∈ w'.observersAt S.notifier service ↔
      .watcher watcher ∈ w.observersAt S.notifier service) : S.Placed w' watcher service where
  told := (htold service).2 h.told
  reported b hb := hgrows.watched b hb service (h.reported b hb)

theorem Ready.grows {watcher : Watcher} (h : S.Ready w watcher) (hgrows : S.Grows w w')
    (htold : ∀ service, .watcher watcher ∈ w'.observersAt S.notifier service ↔
      .watcher watcher ∈ w.observersAt S.notifier service) : S.Ready w' watcher :=
  fun service hservice => (h service hservice).grows hgrows htold

theorem Sound.withClient (h : S.Sound w) {client : Outside σ}
    (haccepted : client.accepted = w.client.accepted) : S.Sound { w with client } := by
  refine ⟨⟨h.discovery, h.notifier, h.reached, ?_⟩, h.filed, h.given⟩
  intro b hb service hservice
  show (w.source b).hook ∈ client.accepted (w.source b).backend service
  rw [haccepted]
  exact h.accepted b hb service hservice

/-- A step that records nothing new evolves what it keeps. -/
theorem Sound.evolves {own settles : Watcher → Prop} (h : S.Sound w) (hgrows : S.Grows w w')
    (hrecorded : ∀ watcher, S.Recorded w' watcher → S.Recorded w watcher)
    (hkept : ∀ watcher : Watcher, watcher.registry = S.registry → ¬own watcher →
      S.Dropped w w' watcher ∨ S.Same w w' watcher)
    (hsettled : ∀ watcher : Watcher, watcher.registry = S.registry → ¬own watcher →
      settles watcher → S.Dropped w w' watcher ∨ S.Settled w' watcher) :
    S.Evolves own settles w w' where
  grows := hgrows
  kept watcher hregistry hown _ := hkept watcher hregistry hown
  settled watcher hregistry hown _ := hsettled watcher hregistry hown
  fresh watcher _ _ hserial hmem :=
    absurd (h.given watcher (hrecorded watcher hmem)) (Nat.not_lt.2 hserial)

namespace Evolves

variable {own settles settles' final : Watcher → Prop}

theorem mono {own' : Watcher → Prop} (h : S.Evolves own settles w w')
    (hown : ∀ watcher, own watcher → own' watcher)
    (hsettles : ∀ watcher : Watcher, watcher.registry = S.registry → settles' watcher →
      settles watcher) : S.Evolves own' settles' w w' where
  grows := h.grows
  kept watcher hregistry hapart := h.kept watcher hregistry fun h => hapart (hown watcher h)
  settled watcher hregistry hapart hserial hsettle :=
    h.settled watcher hregistry (fun h => hapart (hown watcher h)) hserial
      (hsettles watcher hregistry hsettle)
  fresh watcher hregistry hapart := h.fresh watcher hregistry fun h => hapart (hown watcher h)

/-- One evolution after another.  What settles in the end has to settle in the second one,
unless the first has dropped it. -/
theorem andThen (h : S.Evolves own settles w v) (h' : S.Evolves own settles' v w')
    (hgoOn : ∀ watcher, S.Settled v watcher → settles' watcher)
    (hfinal : ∀ watcher : Watcher, watcher.registry = S.registry → ¬own watcher →
      watcher.serial < w.next → final watcher → S.Dropped w v watcher ∨ settles' watcher) :
    S.Evolves own final w w' := by
  have hdropped : ∀ watcher : Watcher, watcher.registry = S.registry → ¬own watcher →
      watcher.serial < w.next → S.Dropped w v watcher → S.Dropped w w' watcher := by
    intro watcher hregistry hown hserial hdrop
    refine ⟨hdrop.1, fun hmem => ?_⟩
    rcases h'.kept watcher hregistry hown (Nat.lt_of_lt_of_le hserial h.grows.next_le) with
      hdrop' | hsame
    · exact hdrop'.2 hmem
    · exact hdrop.2 (hsame.recorded.1 hmem)
  have hlater : ∀ watcher : Watcher, watcher.registry = S.registry → ¬own watcher →
      watcher.serial < w.next → S.Dropped v w' watcher → S.Dropped w w' watcher := by
    intro watcher hregistry hown hserial hdrop
    rcases h.kept watcher hregistry hown hserial with hdrop' | hsame
    · exact absurd hdrop.1 hdrop'.2
    · exact ⟨hsame.recorded.1 hdrop.1, hdrop.2⟩
  refine ⟨h.grows.trans h'.grows, ?_, ?_, ?_⟩
  · intro watcher hregistry hown hserial
    have hserial' := Nat.lt_of_lt_of_le hserial h.grows.next_le
    rcases h.kept watcher hregistry hown hserial with hdrop | hsame
    · exact Or.inl (hdropped watcher hregistry hown hserial hdrop)
    rcases h'.kept watcher hregistry hown hserial' with hdrop | hsame'
    · exact Or.inl (hlater watcher hregistry hown hserial hdrop)
    · exact Or.inr (hsame.trans hsame')
  · intro watcher hregistry hown hserial hfin
    have hserial' := Nat.lt_of_lt_of_le hserial h.grows.next_le
    rcases hfinal watcher hregistry hown hserial hfin with hdrop | hsettle
    · exact Or.inl (hdropped watcher hregistry hown hserial hdrop)
    · exact (h'.settled watcher hregistry hown hserial' hsettle).imp_left
        (hlater watcher hregistry hown hserial)
  · intro watcher hregistry hown hserial hmem
    by_cases hserial' : watcher.serial < v.next
    · rcases h'.kept watcher hregistry hown hserial' with hdrop | hsame
      · exact absurd hmem hdrop.2
      have hsettled := h.fresh watcher hregistry hown hserial (hsame.recorded.1 hmem)
      rcases h'.settled watcher hregistry hown hserial' (hgoOn watcher hsettled) with
        hdrop | hsettled'
      · exact absurd hmem hdrop.2
      · exact hsettled'
    · exact h'.fresh watcher hregistry hown (Nat.not_lt.1 hserial') hmem

theorem trans (h : S.Evolves own settles w v) (h' : S.Evolves own (S.Settled v) v w') :
    S.Evolves own settles w w' :=
  h.andThen h' (fun _ h => h) h.settled

/-- A call whose own watchers are new, and settled if they are recorded, needs no exception
for them. -/
theorem release (h : S.Evolves own settles w w')
    (hnew : ∀ watcher, own watcher → w.next ≤ watcher.serial)
    (hsettled : ∀ watcher, own watcher → S.Recorded w' watcher → S.Settled w' watcher) :
    S.Evolves (fun _ => False) settles w w' where
  grows := h.grows
  kept watcher hregistry _ hserial :=
    h.kept watcher hregistry (fun hown => Nat.not_lt.2 (hnew watcher hown) hserial) hserial
  settled watcher hregistry _ hserial :=
    h.settled watcher hregistry (fun hown => Nat.not_lt.2 (hnew watcher hown) hserial) hserial
  fresh watcher hregistry _ hserial hmem := by
    by_cases hown : own watcher
    · exact hsettled watcher hown hmem
    · exact h.fresh watcher hregistry hown hserial hmem

end Evolves

/-! ## Steps of which a site takes no notice -/

namespace Still

theorem recorded (h : S.Still w w') (watcher : Watcher) :
    S.Recorded w' watcher ↔ S.Recorded w watcher :=
  recorded_congr h.registry watcher

theorem same (h : S.Still w w') {watcher : Watcher} (hregistry : watcher.registry = S.registry) :
    S.Same w w' watcher where
  recorded := h.recorded watcher
  told service := by
    have hcounts := Registry.isWatcherOf_of_registry watcher hregistry
    have hfilter : ∀ l : List Observer, .watcher watcher ∈ l ↔
        .watcher watcher ∈ l.filter (Observer.isWatcherOf S.registry) := by
      intro l
      rw [List.mem_filter, hcounts, and_iff_left rfl]
    rw [hfilter, h.observers, ← hfilter]

theorem grows (h : S.Still w w') : S.Grows w w' :=
  ⟨h.next_le, fun b hb => (h.source b hb).hook, fun b hb => (h.source b hb).watched⟩

theorem backend_eq {b : Ref .backed} (h : S.SourceStill b w w') :
    (w'.source b).backend = (w.source b).backend :=
  congrArg WatchHook.backend h.hook

theorem dispatcher_eq {b : Ref .backed} (h : S.SourceStill b w w') :
    (w'.source b).dispatcher = (w.source b).dispatcher :=
  congrArg WatchHook.dispatcher h.hook

theorem listed_eq (h : S.Still w w') (service : String) :
    S.listed w' service = S.listed w service := by
  unfold listed
  split
  · rename_i m hm
    rw [h.memory m hm]
  · rename_i b hb
    have hsource := h.source b hb
    rw [backend_eq hsource, hsource.listed]
  · rfl

theorem urls_eq (h : S.Still w w') (url : Url) (services : List String) :
    S.urls w' url services = S.urls w url services := by
  simp only [urls, h.listed_eq]

theorem settled (h : S.Still w w') {watcher : Watcher}
    (hregistry : watcher.registry = S.registry) (hsettled : S.Settled w watcher) :
    S.Settled w' watcher where
  ready := hsettled.ready.grows h.grows (h.same hregistry).told
  current := by
    rw [h.latest watcher hregistry, h.urls_eq]
    rcases hsettled.current with hlatest | ⟨task, htask, htells⟩
    · exact Or.inl hlatest
    · exact Or.inr ⟨task, h.pending task htask, htells⟩

theorem sound (h : S.Still w w') (hsound : S.Sound w) : S.Sound w' where
  discovery := by
    rw [h.registry]
    exact hsound.discovery
  notifier := by
    have hnotifier := hsound.notifier
    cases hd : S.discovery with
    | memory m =>
      rw [hd] at hnotifier
      simpa [Discovery.notifier?, h.memory m hd] using hnotifier
    | backed b =>
      rw [hd] at hnotifier
      simpa [Discovery.notifier?, (h.source b hd).notifier] using hnotifier
    | composite c sources =>
      rw [hd] at hnotifier
      cases hnotifier
  reached b hb := by
    have hsource := h.source b hb
    rw [dispatcher_eq hsource]
    exact hsource.reached (hsound.reached b hb)
  accepted b hb service hservice := by
    have hsource := h.source b hb
    rw [hsource.hook, backend_eq hsource]
    rcases hsource.fresh service hservice with hbefore | hnew
    · exact hsource.accepted service _ (hsound.accepted b hb service hbefore)
    · exact hnew
  filed := by
    rw [h.registry]
    exact hsound.filed
  given watcher hmem :=
    Nat.lt_of_lt_of_le (hsound.given watcher ((h.recorded watcher).1 hmem)) h.next_le

theorem trans (h : S.Still w v) (h' : S.Still v w') : S.Still w w' where
  registry := h'.registry.trans h.registry
  observers service := (h'.observers service).trans (h.observers service)
  memory m hm := (h'.memory m hm).trans (h.memory m hm)
  source b hb := by
    have hfirst := h.source b hb
    have hnext := h'.source b hb
    have hbackend := backend_eq hfirst
    have hdispatcher := dispatcher_eq hfirst
    refine ⟨hnext.notifier.trans hfirst.notifier, hnext.hook.trans hfirst.hook, ?_, ?_, ?_, ?_, ?_⟩
    · intro service hservice
      exact hnext.watched service (hfirst.watched service hservice)
    · intro service hservice
      rcases hnext.fresh service hservice with hbefore | hnew
      · rcases hfirst.fresh service hbefore with hbefore | hnew
        · exact Or.inl hbefore
        · rw [← hbackend] at hnew ⊢
          exact Or.inr (hnext.accepted service _ hnew)
      · rw [hbackend, hfirst.hook] at hnew
        exact Or.inr hnew
    · intro hreached
      have hreached' := hnext.reached
      rw [hdispatcher] at hreached'
      exact hreached' (hfirst.reached hreached)
    · intro service
      have hlisted := hnext.listed service
      rw [hbackend] at hlisted
      exact hlisted.trans (hfirst.listed service)
    · intro service hook hhook
      have haccepted := hnext.accepted service hook
      rw [hbackend] at haccepted
      exact haccepted (hfirst.accepted service hook hhook)
  latest watcher hregistry := (h'.latest watcher hregistry).trans (h.latest watcher hregistry)
  pending task htask := h'.pending task (h.pending task htask)
  next_le := Nat.le_trans h.next_le h'.next_le

theorem evolves {own : Watcher → Prop} (h : S.Still w w') (hsound : S.Sound w) :
    S.Evolves own (S.Settled w) w w' :=
  hsound.evolves h.grows (fun watcher => (h.recorded watcher).1)
    (fun _ hregistry _ => Or.inr (h.same hregistry))
    (fun _ hregistry _ hsettled => Or.inr (h.settled hregistry hsettled))

end Still

/-! ## What a run of steps leads to -/

variable (S)

/-- A sound site stays sound, and its watchers evolve.  Those that are `told` and ready for it
are settled in the end. -/
def Tells (told : Watcher → Prop) (w w' : World (Outside σ)) : Prop :=
  S.Sound w → S.Sound w' ∧
    S.Evolves (fun _ => False) (fun watcher => S.Settled w watcher ∨
      told watcher ∧ S.Ready w watcher) w w'

/-- A sound site stays sound, and its watchers evolve. -/
def Leads : World (Outside σ) → World (Outside σ) → Prop := S.Tells fun _ => False

variable {S} {told told' : Watcher → Prop}

theorem Tells.mono (h : S.Tells told w w')
    (hle : S.Sound w → ∀ watcher : Watcher, watcher.registry = S.registry → S.Ready w watcher →
      told' watcher → told watcher) : S.Tells told' w w' := by
  intro hsound
  obtain ⟨hsound', hevolves⟩ := h hsound
  refine ⟨hsound', hevolves.mono (fun _ h => h) ?_⟩
  rintro watcher hregistry (hsettled | ⟨htold, hready⟩)
  · exact Or.inl hsettled
  · exact Or.inr ⟨hle hsound watcher hregistry hready htold, hready⟩

theorem Tells.leads (h : S.Tells told w w') : S.Leads w w' :=
  h.mono fun _ _ _ _ hnone => hnone.elim

/-- What is told on the way has been told in the end. -/
theorem Tells.trans (h : S.Tells told w v) (h' : S.Tells told' v w') :
    S.Tells (fun watcher => told watcher ∨ told' watcher) w w' := by
  intro hsound
  obtain ⟨hsound₁, hevolves₁⟩ := h hsound
  obtain ⟨hsound₂, hevolves₂⟩ := h' hsound₁
  refine ⟨hsound₂, hevolves₁.andThen hevolves₂ (fun _ h => Or.inl h) ?_⟩
  intro watcher hregistry hown hserial hsettle
  have hfirst : S.Settled w watcher ∨ told watcher ∧ S.Ready w watcher →
      S.Dropped w v watcher ∨ S.Settled v watcher ∨ told' watcher ∧ S.Ready v watcher :=
    fun hsettle => (hevolves₁.settled watcher hregistry hown hserial hsettle).imp_right Or.inl
  rcases hsettle with hsettled | ⟨htold | htold, hready⟩
  · exact hfirst (Or.inl hsettled)
  · exact hfirst (Or.inr ⟨htold, hready⟩)
  · rcases hevolves₁.kept watcher hregistry hown hserial with hdrop | hsame
    · exact Or.inl hdrop
    · exact Or.inr (Or.inr ⟨htold, hready.grows hevolves₁.grows hsame.told⟩)

theorem Tells.trans_leads (h : S.Tells told w v) (h' : S.Leads v w') : S.Tells told w w' :=
  (Tells.trans h h').mono fun _ _ _ _ => Or.inl

theorem Leads.trans_tells (h : S.Leads w v) (h' : S.Tells told v w') : S.Tells told w w' :=
  (Tells.trans h h').mono fun _ _ _ _ => Or.inr

theorem Leads.trans (h : S.Leads w v) (h' : S.Leads v w') : S.Leads w w' :=
  Tells.trans_leads h h'

theorem Leads.intro
    (h : S.Sound w → S.Sound w' ∧ S.Evolves (fun _ => False) (S.Settled w) w w') :
    S.Leads w w' := by
  intro hsound
  obtain ⟨hsound', hevolves⟩ := h hsound
  refine ⟨hsound', hevolves.mono (fun _ h => h) ?_⟩
  intro watcher _ hsettle
  exact hsettle.resolve_right fun hnone => hnone.1

theorem Still.leads (h : S.Still w w') : S.Leads w w' :=
  Leads.intro fun hsound => ⟨h.sound hsound, h.evolves hsound⟩

theorem Leads.refl (w : World (Outside σ)) : S.Leads w w := (Still.refl w).leads

theorem Leads.evolves {own : Watcher → Prop} (h : S.Leads w w') (hsound : S.Sound w) :
    S.Evolves own (S.Settled w) w w' :=
  (h hsound).2.mono (fun _ h => h.elim) fun _ _ => Or.inl

/-- A step that unsettles only watchers which are told afterwards. -/
theorem Leads.of_unsettling (hsound : S.Sound w → S.Sound v)
    (hstep : S.Sound w →
      S.Evolves (fun _ => False) (fun watcher => S.Settled w watcher ∧ ¬told watcher) w v)
    (h : S.Tells told v w') : S.Leads w w' := by
  intro hstart
  obtain ⟨hend, hevolves⟩ := h (hsound hstart)
  refine ⟨hend, (hstep hstart).andThen hevolves (fun _ h => Or.inl h) ?_⟩
  intro watcher hregistry hown hserial hsettle
  have hsettled := hsettle.resolve_right fun hnone => hnone.1
  by_cases htold : told watcher
  · rcases (hstep hstart).kept watcher hregistry hown hserial with hdrop | hsame
    · exact Or.inl hdrop
    · exact Or.inr (Or.inr ⟨htold, hsettled.ready.grows (hstep hstart).grows hsame.told⟩)
  · exact ((hstep hstart).settled watcher hregistry hown hserial ⟨hsettled, htold⟩).imp_right
      Or.inl

theorem Leads.forM {α : Type} {f : α → Run (Outside σ) Unit} {tells : α → Watcher → Prop}
    (list : List α) (hf : ∀ a ∈ list, ∀ v, S.Tells (tells a) v (v.after (f a)))
    (w : World (Outside σ)) :
    S.Tells (fun watcher => ∃ a ∈ list, tells a watcher) w (w.after (list.forM f)) := by
  induction list generalizing w with
  | nil =>
    refine (Leads.refl w).mono ?_
    rintro - watcher - - ⟨a, ha, -⟩
    cases ha
  | cons a rest ih =>
    rw [World.after_forM_cons]
    have hfirst := hf a List.mem_cons_self w
    have hrest := ih (fun b hb => hf b (List.mem_cons_of_mem a hb)) (w.after (f a))
    refine (hfirst.trans hrest).mono ?_
    rintro - watcher - - ⟨b, hb, htells⟩
    rcases List.mem_cons.1 hb with rfl | hb
    · exact Or.inl htells
    · exact Or.inr ⟨b, hb, htells⟩

theorem Behaves.mono {M M' : World (Outside σ) → World (Outside σ) → Prop}
    {host : Host (Outside σ)} (h : S.Behaves M host) (hle : ∀ {w w'}, M w w' → M' w w') :
    S.Behaves M' host where
  onEvent listener event w := hle (h.onEvent listener event w)
  deliver delivery w := hle (h.deliver delivery w)
  handOff executor task w := hle (h.handOff executor task w)
  command b c w := hle (h.command b c w)
  lookup c key group w := hle (h.lookup c key group w)
  watch b service hook w := hle (h.watch b service hook w)
  watch_ok := h.watch_ok
  instances := h.instances
  instances_ok := h.instances_ok
  enter := h.enter
  enter_true := h.enter_true
  leave := h.leave

end ServiceDirectory.Site
