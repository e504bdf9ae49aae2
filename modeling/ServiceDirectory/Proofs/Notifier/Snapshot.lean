import ServiceDirectory.Proofs.Dispatcher.Reacting
import ServiceDirectory.Proofs.Notifier.Bucket

/-!
# What a notification goes by

A notification goes by the bucket of its service as it is when the notification begins.  The
observers that it tells may call the notifier themselves, and may start a notification within
the notification.  All this comes later in the log, so it is seen by the notifications that
begin after it and not by those that are under way.
-/

namespace ServiceDirectory.Notifier

/-! ## Places in a bucket -/

/-- The service that a request is about. -/
def Request.service : Request → String
  | add service _ | remove service _ | clear service => service

variable {κ : Type} {n : Ref .notifier} {service : String} {o a b : Observer}
  {log : List Request} {w w' : World κ}

/-- The requests of a log that are about a service. -/
def about (service : String) (log : List Request) : List Request :=
  log.filter fun r => r.service = service

/-- The number of the addition with which an observer has come to a service, unless it has been
taken off since.  To add an observer that is there is not to add it anew. -/
def since? (service : String) (o : Observer) : List Request → Option ℕ
  | [] => none
  | .add service' o' :: earlier =>
    if service' = service ∧ o' = o then some ((since? service o earlier).getD earlier.length)
    else since? service o earlier
  | .remove service' o' :: earlier =>
    if service' = service ∧ o' = o then none else since? service o earlier
  | .clear service' :: earlier => if service' = service then none else since? service o earlier

/-- Of two observers of a service, one has come before the other. -/
def Precedes (service : String) (log : List Request) (a b : Observer) : Prop :=
  ∃ i j, since? service a log = some i ∧ since? service b log = some j ∧ i < j

theorem since?_lt {i : ℕ} (h : since? service o log = some i) : i < log.length := by
  induction log generalizing i with
  | nil => cases h
  | cons r earlier ih =>
    have hlater : ∀ {j}, since? service o earlier = some j → j < earlier.length + 1 :=
      fun hj => Nat.lt_succ_of_lt (ih hj)
    rw [List.length_cons]
    cases r with
    | add service' o' =>
      rw [since?] at h
      split_ifs at h
      · cases hearlier : since? service o earlier with
        | none =>
          rw [hearlier] at h
          obtain rfl := Option.some.inj h
          exact Nat.lt_succ_self _
        | some j =>
          rw [hearlier] at h
          obtain rfl := Option.some.inj h
          exact hlater hearlier
      · exact hlater h
    | remove service' o' =>
      rw [since?] at h
      split_ifs at h
      exact hlater h
    | clear service' =>
      rw [since?] at h
      split_ifs at h
      exact hlater h

/-- Who has come and not gone is in the bucket. -/
theorem mem_bucket_iff : o ∈ bucket service log ↔ (since? service o log).isSome = true := by
  induction log with
  | nil => simp [bucket, since?]
  | cons r earlier ih =>
    cases r with
    | add service' o' =>
      rw [bucket, since?]
      by_cases hservice : service' = service
      · rw [if_pos hservice, mem_enlist, ih]
        by_cases ho : o' = o
        · simp [hservice, ho]
        · simp [ho, Ne.symm ho]
      · simp [hservice, ih]
    | remove service' o' =>
      rw [bucket, since?]
      by_cases hservice : service' = service
      · rw [if_pos hservice, (bucket_nodup service earlier).mem_erase_iff, ih]
        by_cases ho : o' = o
        · simp [hservice, ho]
        · simp [ho, Ne.symm ho]
      · simp [hservice, ih]
    | clear service' =>
      rw [bucket, since?]
      by_cases hservice : service' = service
      · simp [hservice]
      · simp [hservice, ih]

/-- A request leaves the place of whoever is there before and after it. -/
theorem since?_cons {r : Request} (hbefore : o ∈ bucket service log)
    (hafter : o ∈ bucket service (r :: log)) :
    since? service o (r :: log) = since? service o log := by
  obtain ⟨i, hi⟩ := Option.isSome_iff_exists.1 (mem_bucket_iff.1 hbefore)
  have hthere := mem_bucket_iff.1 hafter
  cases r with
  | add service' o' =>
    rw [since?]
    split_ifs
    · rw [hi]
      rfl
    · rfl
  | remove service' o' =>
    rw [since?] at hthere ⊢
    split_ifs at hthere ⊢
    · cases hthere
    · rfl
  | clear service' =>
    rw [since?] at hthere ⊢
    split_ifs at hthere ⊢
    · cases hthere
    · rfl

theorem Precedes.cons {r : Request} (h : Precedes service log a b)
    (ha : a ∈ bucket service (r :: log)) (hb : b ∈ bucket service (r :: log)) :
    Precedes service (r :: log) a b := by
  obtain ⟨i, j, hi, hj, hlt⟩ := h
  have hbefore : ∀ {c k}, since? service c log = some k → c ∈ bucket service log := fun hk =>
    mem_bucket_iff.2 (Option.isSome_iff_exists.2 ⟨_, hk⟩)
  exact ⟨i, j, (since?_cons (hbefore hi) ha).trans hi, (since?_cons (hbefore hj) hb).trans hj, hlt⟩

/-- A request takes observers out of a bucket, or puts a new one behind the others. -/
theorem bucket_cons (service : String) (r : Request) (log : List Request) :
    (bucket service (r :: log)).Sublist (bucket service log) ∨
      ∃ o, r = .add service o ∧ o ∉ bucket service log ∧
        bucket service (r :: log) = bucket service log ++ [o] := by
  cases r with
  | add service' o =>
    rw [bucket]
    by_cases hservice : service' = service
    · by_cases ho : o ∈ bucket service log
      · rw [if_pos hservice, enlist, if_pos ho]
        exact Or.inl (List.Sublist.refl _)
      · rw [if_pos hservice, enlist, if_neg ho]
        exact Or.inr ⟨o, by rw [hservice], ho, rfl⟩
    · rw [if_neg hservice]
      exact Or.inl (List.Sublist.refl _)
  | remove service' o =>
    rw [bucket]
    split_ifs
    · exact Or.inl List.erase_sublist
    · exact Or.inl (List.Sublist.refl _)
  | clear service' =>
    rw [bucket]
    split_ifs
    · exact Or.inl (List.nil_sublist _)
    · exact Or.inl (List.Sublist.refl _)

/-- A bucket is in the order in which its observers have come. -/
theorem bucket_inOrder (service : String) (log : List Request) :
    (bucket service log).Pairwise (Precedes service log) := by
  induction log with
  | nil => exact List.Pairwise.nil
  | cons r earlier ih =>
    rcases bucket_cons service r earlier with hsub | ⟨o, rfl, hnew, hbucket⟩
    · exact (ih.sublist hsub).imp_of_mem fun ha hb h => h.cons ha hb
    · have hold : ∀ {c}, c ∈ bucket service earlier →
          c ∈ bucket service (.add service o :: earlier) := fun hc =>
        hbucket ▸ List.mem_append_left _ hc
      have hlast : since? service o (.add service o :: earlier) = some earlier.length := by
        have hnone : since? service o earlier = none := by
          rw [← Option.not_isSome_iff_eq_none, ← mem_bucket_iff]
          exact hnew
        rw [since?, if_pos ⟨rfl, rfl⟩, hnone]
        rfl
      rw [hbucket]
      refine List.pairwise_append.2 ⟨?_, List.pairwise_singleton _ _, fun a ha b hb => ?_⟩
      · exact ih.imp_of_mem fun ha hb h => h.cons (hold ha) (hold hb)
      · obtain rfl := List.mem_singleton.1 hb
        obtain ⟨i, hi⟩ := Option.isSome_iff_exists.1 (mem_bucket_iff.1 ha)
        exact ⟨i, earlier.length, (since?_cons ha (hold ha)).trans hi, hlast, since?_lt hi⟩

/-- The requests about other services leave a bucket alone. -/
theorem bucket_about (service : String) (log : List Request) :
    bucket service (about service log) = bucket service log := by
  induction log with
  | nil => rfl
  | cons r earlier ih =>
    have hother : r.service ≠ service → bucket service (r :: earlier) = bucket service earlier := by
      intro hne
      cases r <;> exact if_neg hne
    by_cases hservice : r.service = service
    · rw [about, List.filter_cons_of_pos (by simpa using hservice), ← about]
      cases r <;> simp only [bucket, ih]
    · rw [about, List.filter_cons_of_neg (by simpa using hservice), ← about, ih, hother hservice]

/-! ## What comes after a moment -/

/-- Whatever has been done to a notifier between two worlds has been done by requests. -/
def Leads (n : Ref .notifier) (w w' : World κ) : Prop :=
  ∀ log, Logged n log w → ∃ later, Logged n (later ++ log) w'

theorem Leads.elsewhere (h : w'.audience n = w.audience n) : Leads n w w' := fun _ hlog =>
  ⟨[], hlog.meanwhile h⟩

theorem leads_disregardsLog (n : Ref .notifier) : DisregardsLog (κ := κ) (Leads n) where
  refl _ := .elsewhere rfl
  trans h h' log hlog := by
    obtain ⟨later, hv⟩ := h log hlog
    obtain ⟨later', hw⟩ := h' (later ++ log) hv
    exact ⟨later' ++ later, List.append_assoc _ _ _ ▸ hw⟩
  note _ _ := .elsewhere rfl

theorem Leads.request (r : Request) (w : World κ) : Leads n w (w.after (r.perform n)) :=
  fun _ hlog => ⟨[r], hlog.call r⟩

/-- A notification leads on if what its observers do leads on, and they may notify as well. -/
theorem Leads.notify {host : Host κ} (hhost : host.ReactsWithin (Leads n)) (event : Event)
    (w : World κ) : Leads n w (w.after (Notifier.notify host n event)) :=
  notify_keepsTo (leads_disregardsLog n) hhost n event w

/-! ## Notifications -/

/-- At every moment, be it within a notification or not, the observers of a service are those
that have been added and not been taken off since, each once and in the order in which they
have come; who has been taken off and comes again comes last.  What is asked of other services,
and all else that is different in another world, does not matter.  A notification tells the
observers of the moment in which it begins, whoever panics.  They may call the notifier while
they are told: when a turn begins, the log has become longer, and the rest of the turns is what
it has been. -/
theorem snapshot_of_logged (h : Logged n log w) (service : String) :
    let observers := (w.audience n).observers service
    observers.Nodup ∧
    (∀ o, o ∈ observers ↔ (since? service o log).isSome = true) ∧
    observers.Pairwise (Precedes service log) ∧
    (∀ o earlier, log = .add service o :: earlier → since? service o earlier = none →
      observers.getLast? = some o) ∧
    (∀ log' (w' : World κ), Logged n log' w' → about service log' = about service log →
      (w'.audience n).observers service = observers) ∧
    ∀ (host : Host κ) (event : Event) (instances : List Instance),
      event.content = .membership service instances →
      let final := w.after (notify host n event)
      ∃ v, (v = w ∨ ∃ notice, v = w.note notice) ∧
        Dispatcher.Told host event v (observers.map Listener.observer) final ∧
        (host.ReactsWithin (Leads n) → ∀ told untold, observers = told ++ untold →
          ∃ u later, Dispatcher.Told host event v (told.map Listener.observer) u ∧
            Logged n (later ++ log) u ∧
            Dispatcher.Told host event u (untold.map Listener.observer) final) := by
  intro observers
  have hbucket : observers = bucket service log := h.observers_eq service
  refine ⟨?_, ?_, ?_, ?_, ?_, fun host event instances hcontent => ?_⟩
  · exact hbucket ▸ bucket_nodup service log
  · exact fun o => hbucket ▸ mem_bucket_iff
  · exact hbucket ▸ bucket_inOrder service log
  · rintro o earlier rfl hgone
    have hnew : o ∉ bucket service earlier := by
      rw [mem_bucket_iff, hgone]
      simp
    rw [hbucket, bucket, if_pos rfl, enlist, if_neg hnew, List.getLast?_concat]
  · intro log' w' h' habout
    rw [h'.observers_eq, hbucket, ← bucket_about service log', habout, bucket_about]
  · obtain ⟨v, hnoted, htold⟩ := Dispatcher.told_notify hcontent n w
    refine ⟨v, hnoted, htold, fun hhost told untold hturns => ?_⟩
    have hbegun : Logged n log v := by
      rcases hnoted with rfl | ⟨notice, rfl⟩
      · exact h
      · exact h.meanwhile rfl
    have hsplit : observers.map Listener.observer =
        told.map Listener.observer ++ untold.map Listener.observer := by
      rw [hturns, List.map_append]
    obtain ⟨u, hfirst, hrest⟩ := Dispatcher.told_append.1 (hsplit ▸ htold)
    obtain ⟨later, hlogged⟩ := hfirst.observers_keepTo (leads_disregardsLog n) hhost log hbegun
    exact ⟨u, later, hfirst, hlogged, hrest⟩

/-! ## A listener that notifies again -/

section Nesting

/-- The listeners keep a list of the calls. -/
def listing : Host (List (Ref .listener)) :=
  { Host.quiet with
    onEvent := fun l _ => do
      modify fun w => { w with client := w.client ++ [l] }
      return none }

/-- One of them besides takes itself off, has a third one join, notifies again, and panics. -/
def nesting : Host (List (Ref .listener)) :=
  { Host.quiet with
    onEvent := fun l event => do
      modify fun w => { w with client := w.client ++ [l] }
      if l = ⟨2⟩ then
        Request.perform ⟨0⟩ (.remove "svc" (.client ⟨2⟩))
        Request.perform ⟨0⟩ (.add "svc" (.client ⟨3⟩))
        notify listing ⟨0⟩ event
        return some (.text "boom")
      else return none }

theorem listing_reactsWithin : listing.ReactsWithin (Leads ⟨0⟩) where
  onEvent _ _ _ := .elsewhere rfl
  deliver _ _ := .elsewhere rfl
  handOff _ _ _ := .elsewhere rfl
  instances _ _ _ := .elsewhere rfl
  enter _ _ := .elsewhere rfl
  leave _ _ := .elsewhere rfl

theorem nesting_reactsWithin : nesting.ReactsWithin (Leads ⟨0⟩) where
  onEvent l event w := by
    have hlisted : Leads ⟨0⟩ w { w with client := w.client ++ [l] } := .elsewhere rfl
    by_cases hl : l = ⟨2⟩
    · subst hl
      have hleads := leads_disregardsLog (κ := List (Ref .listener)) ⟨0⟩
      exact hleads.trans (hleads.trans (hleads.trans hlisted
        (.request (.remove "svc" (.client ⟨2⟩)) _)) (.request (.add "svc" (.client ⟨3⟩)) _))
        (.notify listing_reactsWithin event _)
    · have hafter : w.after (nesting.onEvent l event) = { w with client := w.client ++ [l] } := by
        simp [nesting, hl]
      rw [hafter]
      exact hlisted
  deliver _ _ := .elsewhere rfl
  handOff _ _ _ := .elsewhere rfl
  instances _ _ _ := .elsewhere rfl
  enter _ _ := .elsewhere rfl
  leave _ _ := .elsewhere rfl

/-- The first listener goes and comes again, so it is behind the second one. -/
def comings : List Request :=
  [.add "svc" (.client ⟨1⟩), .add "other" (.client ⟨4⟩), .remove "svc" (.client ⟨1⟩),
    .add "svc" (.client ⟨2⟩), .add "svc" (.client ⟨1⟩)]

def summoned : World (List (Ref .listener)) :=
  comings.foldr (fun r w => w.after (r.perform ⟨0⟩)) ((World.initial []).after create)

/-- The first listener has the highest priority, which does not matter. -/
def assembled : World (List (Ref .listener)) :=
  summoned.setProfile ⟨1⟩ ⟨some .membership, highestPriority⟩

theorem assembled_logged : Logged ⟨0⟩ comings assembled := by
  have hcreated : Logged ⟨0⟩ [] ((World.initial ([] : List (Ref .listener))).after create) :=
    .created _ rfl
  have hsummoned : Logged ⟨0⟩ comings summoned :=
    ((((hcreated.call _).call _).call _).call _).call _
  have hprofile : ∀ (w : World (List (Ref .listener))) (p : Profile),
      (w.setProfile ⟨1⟩ p).audience ⟨0⟩ = w.audience ⟨0⟩ := fun _ _ => rfl
  exact hsummoned.meanwhile (hprofile summoned _)

/-- When the second listener has its turn, the notification that it starts tells the first and
the third one.  The notification that is under way goes on to tell the first one only. -/
theorem snapshot_of_logged_nesting :
    let event : Event := .raise "source" (.membership "svc" [])
    Logged ⟨0⟩ comings assembled ∧ nesting.ReactsWithin (Leads ⟨0⟩) ∧
      (assembled.audience ⟨0⟩).observers "svc" = [.client ⟨2⟩, .client ⟨1⟩] ∧
      ((assembled.audience ⟨0⟩).observers "svc").Pairwise (Precedes "svc" comings) ∧
      (∃ v u later, Dispatcher.Told nesting event v [.observer (.client ⟨2⟩)] u ∧
        Logged ⟨0⟩ (later ++ comings) u ∧
        Dispatcher.Told nesting event u [.observer (.client ⟨1⟩)]
          (assembled.after (notify nesting ⟨0⟩ event))) ∧
      (assembled.after (notify nesting ⟨0⟩ event)).client = [⟨2⟩, ⟨1⟩, ⟨3⟩, ⟨1⟩] := by
  intro event
  obtain ⟨-, -, horder, -, -, hnotify⟩ := snapshot_of_logged assembled_logged "svc"
  obtain ⟨v, -, -, hturns⟩ := hnotify nesting event [] rfl
  obtain ⟨u, later, hfirst, hlogged, hrest⟩ :=
    hturns nesting_reactsWithin [.client ⟨2⟩] [.client ⟨1⟩] (by decide +kernel)
  exact ⟨assembled_logged, nesting_reactsWithin, by decide +kernel, horder,
    ⟨v, u, later, hfirst, hlogged, hrest⟩, by decide +kernel⟩

end Nesting

end ServiceDirectory.Notifier
