import ServiceDirectory.Proofs.Discovery.Adding
import ServiceDirectory.Proofs.Freshness.Making

/-!
# The watches of a source

A source asks its backend for a watch when an observer joins a service that is not watched yet.
The observer is put on its list first and taken off again when the backend refuses.  So three
things have to agree after any sequence of calls: which watches the backend has accepted, which
services count as watched, and who is on the lists.

An addition holds the source until the backend has answered, so no other addition comes in
between.  Removals do not wait: while the backend is asked, observers may be taken off.
-/

namespace ServiceDirectory

variable {κ : Type}

theorem World.mem_observersAt_remove (w : World κ) (n : Ref .notifier)
    (service service' : String) (o o' : Observer) :
    o' ∈ (w.after (Notifier.remove n service o)).observersAt n service' ↔
      o' ∈ w.observersAt n service' ∧ ¬(service' = service ∧ o' = o) := by
  rw [World.observersAt_remove]
  by_cases hservice : service = service'
  · subst hservice
    simp
  · simp [hservice, Ne.symm hservice]

namespace BackedSource

/-- A call on a source, an addition with how it has ended. -/
inductive Entry
  | added (service : String) (o : Observer) (answer : Except Stop Unit)
  | removed (service : String) (o : Observer)

/-- How the last addition of an observer has ended, unless the observer has been removed since.
The log has the latest call first. -/
def standing (service : String) (o : Observer) : List Entry → Option (Except Stop Unit)
  | [] => none
  | .added service' o' answer :: earlier =>
    if service = service' ∧ o = o' then some answer else standing service o earlier
  | .removed service' o' :: earlier =>
    if service = service' ∧ o = o' then none else standing service o earlier

/-- What the log says of removals. -/
def departures (gone : List (String × Observer)) : List Entry :=
  gone.map fun place => .removed place.1 place.2

theorem standing_departures (service : String) (o : Observer) (gone : List (String × Observer))
    (log : List Entry) :
    standing service o (departures gone ++ log) =
      if (service, o) ∈ gone then none else standing service o log := by
  induction gone with
  | nil => simp [departures]
  | cons place rest ih =>
    obtain ⟨service', o'⟩ := place
    show (if service = service' ∧ o = o' then none
      else standing service o (departures rest ++ log)) = _
    simp only [ih, List.mem_cons, Prod.mk.injEq]
    split_ifs <;> simp_all

/-- An addition that has not failed leaves the observer on the list. -/
def Stays (answer : Except Stop Unit) : Prop := ∀ cause, answer ≠ .error (.failed cause)

theorem stays_ok : Stays (.ok ()) := fun _ h => nomatch h

theorem stays_panicked (payload : Payload) : Stays (.error (.panicked payload)) := fun _ h =>
  nomatch h

theorem not_stays_failed (cause : Failure) : ¬Stays (.error (.failed cause)) := fun h => h cause rfl

/-! ## What may happen while a backend is asked -/

/-- Observers are taken off the lists of a source one after the other.  Besides, everything may
change but the source and its lists. -/
inductive Leaves (id : Ref .backed) : List (String × Observer) → World κ → World κ → Prop
  | none (w : World κ) : Leaves id [] w w
  | removed {gone : List (String × Observer)} {w v : World κ} (h : Leaves id gone w v)
    (service : String) (o : Observer) :
    Leaves id ((service, o) :: gone) w (v.after ((Discovery.backed id).removeObserver service o))
  | meanwhile {gone : List (String × Observer)} {w v v' : World κ} (h : Leaves id gone w v)
    (hsource : v'.source id = v.source id)
    (hobservers : ∀ service, v'.observersAt (v.source id).notifier service =
      v.observersAt (v.source id).notifier service) : Leaves id gone w v'

section Leaving

variable {id : Ref .backed} {gone : List (String × Observer)} {v w : World κ}

theorem Leaves.source (h : Leaves id gone w v) : v.source id = w.source id := by
  induction h with
  | none _ => rfl
  | removed _ _ _ ih => exact ih
  | meanwhile _ hsource _ ih => exact hsource.trans ih

theorem Leaves.mem_iff (h : Leaves id gone w v) (service : String) (o : Observer) :
    o ∈ v.observersAt (w.source id).notifier service ↔
      o ∈ w.observersAt (w.source id).notifier service ∧ (service, o) ∉ gone := by
  induction h with
  | none _ => simp
  | @removed gone w v h service' o' ih =>
    have hremoved : v.after ((Discovery.backed id).removeObserver service' o') =
        v.after (Notifier.remove (v.source id).notifier service' o') := rfl
    rw [hremoved, h.source, World.mem_observersAt_remove, ih, List.mem_cons, not_or, Prod.mk.injEq,
      and_assoc, and_comm (b := ¬(service = service' ∧ o = o'))]
  | meanwhile h hsource hobservers ih =>
    rw [h.source] at hobservers
    rw [hobservers, ih]

end Leaving

/-! ## Additions -/

/-- The observer is on the list, and then the backend is asked. -/
def joining (w : World κ) (id : Ref .backed) (service : String) (o : Observer) : World κ :=
  w.after (Notifier.add (w.source id).notifier service o)

/-- The question to the backend. -/
def ask (host : Host κ) (w : World κ) (id : Ref .backed) (service : String) :
    Run κ (Except Stop Unit) :=
  host.watch (w.source id).backend service (w.source id).hook

/-- While an observer is added, others may be taken off if the backend is asked at all.  The
`tally` counts the watches of the source that its backend has accepted. -/
structure Undisturbed (host : Host κ) (tally : κ → String → Nat) (id : Ref .backed)
    (service : String) (o : Observer) (gone : List (String × Observer)) (w : World κ) : Prop where
  watched : isWatching w id service = true → gone = []
  leaves : isWatching w id service = false →
    Leaves id gone (joining w id service o) ((joining w id service o).after (ask host w id service))
  accepted : isWatching w id service = false →
    (joining w id service o).result (ask host w id service) = .ok () →
    ∀ service', tally ((joining w id service o).after (ask host w id service)).client service' =
      tally w.client service' + if service' = service then 1 else 0
  refused : isWatching w id service = false →
    (joining w id service o).result (ask host w id service) ≠ .ok () →
    ∀ service', tally ((joining w id service o).after (ask host w id service)).client service' =
      tally w.client service'

section Adding

variable {host : Host κ} {tally : κ → String → Nat} {id : Ref .backed} {service : String}
  {o : Observer} {gone : List (String × Observer)} {w : World κ}

theorem isWatching_setWatched (w : World κ) (id : Ref .backed) (service service' : String) :
    isWatching (w.after (setWatched id service)) id service' =
      (isWatching w id service' || decide (service' = service)) := by
  have hafter : (w.after (setWatched id service)).source id = { w.source id with
      watched := if (w.source id).watched.contains service then (w.source id).watched
        else (w.source id).watched ++ [service] } := by
    rw [setWatched, World.after_modify]
    dsimp only
    rw [World.source_setSource, if_pos rfl]
  rw [isWatching, isWatching, hafter]
  dsimp only
  split_ifs with hknown
  · by_cases hservice : service' = service
    · subst hservice
      simpa using hknown
    · simp [hservice]
  · simp

theorem notifier_setWatched (w : World κ) (id : Ref .backed) (service : String) :
    ((w.after (setWatched id service)).source id).notifier = (w.source id).notifier := by
  rw [setWatched, World.after_modify]
  dsimp only
  rw [World.source_setSource, if_pos rfl]

theorem notifier?_setWatched (w : World κ) (b : Ref .backed) (service : String) :
    Discovery.notifier? (w.after (setWatched b service)) = Discovery.notifier? w := by
  funext leaf
  cases leaf with
  | memory m => rfl
  | composite _ _ => rfl
  | backed b' =>
    show some ((w.after (setWatched b service)).source b').notifier = _
    by_cases hb : b = b'
    · subst hb
      rw [notifier_setWatched]
      rfl
    · simp [setWatched, Discovery.notifier?, hb]

theorem mem_joining (w : World κ) (id : Ref .backed) (service service' : String)
    (o o' : Observer) :
    o' ∈ (joining w id service o).observersAt (w.source id).notifier service' ↔
      o' ∈ w.observersAt (w.source id).notifier service' ∨ service' = service ∧ o' = o := by
  rw [joining, World.observersAt_add]
  by_cases hservice : service = service'
  · subst hservice
    by_cases ho : o ∈ w.observersAt (w.source id).notifier service
    · simp only [ho, not_true, and_false, if_false, true_and]
      exact ⟨Or.inl, fun h => h.elim (fun h => h) fun h => h ▸ ho⟩
    · simp [ho]
  · simp [hservice, Ne.symm hservice]

/-- What an addition comes to: who is on the lists, what counts as watched, and what the backend
has accepted. -/
structure Outcome (tally : κ → String → Nat) (id : Ref .backed) (service : String) (o : Observer)
    (gone : List (String × Observer)) (answer : Except Stop Unit) (w w' : World κ) : Prop where
  notifier : (w'.source id).notifier = (w.source id).notifier
  mem_iff : ∀ service' o', o' ∈ w'.observersAt (w.source id).notifier service' ↔
    (if service' = service ∧ o' = o then Stays answer
      else o' ∈ w.observersAt (w.source id).notifier service') ∧ (service', o') ∉ gone
  watching : ∀ service', isWatching w' id service' = true ↔
    isWatching w id service' = true ∨ service' = service ∧ answer = .ok ()
  tally : ∀ service', tally w'.client service' + (isWatching w id service').toNat =
    tally w.client service' + (isWatching w' id service').toNat

/-- Until the backend has answered, the observer is on the list unless it has been taken off. -/
theorem Undisturbed.mem_asked (h : Undisturbed host tally id service o gone w)
    (hnew : isWatching w id service = false) (service' : String) (o' : Observer) :
    o' ∈ ((joining w id service o).after (ask host w id service)).observersAt
        (w.source id).notifier service' ↔
      (o' ∈ w.observersAt (w.source id).notifier service' ∨ service' = service ∧ o' = o) ∧
        (service', o') ∉ gone := by
  rw [← mem_joining]
  exact (h.leaves hnew).mem_iff service' o'

/-- An observer that stays is on its list in the end, and the others are where they were. -/
theorem mem_iff_of_stays {answer : Except Stop Unit} (hstays : Stays answer) (service' : String)
    (o' : Observer) :
    (o' ∈ w.observersAt (w.source id).notifier service' ∨ service' = service ∧ o' = o) ∧
        (service', o') ∉ gone ↔
      (if service' = service ∧ o' = o then Stays answer
        else o' ∈ w.observersAt (w.source id).notifier service') ∧ (service', o') ∉ gone := by
  by_cases hplace : service' = service ∧ o' = o
  · simp [hplace, hstays]
  · simp [hplace]

/-- Who joins a watched service need not wait for an answer. -/
theorem result_addObserver_of_watching (host : Host κ) (o : Observer)
    (h : isWatching w id service = true) :
    w.result (addObserver host id service o).run = .ok () := by
  rw [addObserver, World.result_get_bind_except, World.result_ofRun_bind,
    World.result_get_bind_except]
  exact congrArg (fun x : Act κ Unit => World.result _ x.run) (if_pos h)

/-- Where the record of the source has not changed, neither have its watches. -/
theorem Outcome.of_source {answer : Except Stop Unit} {w' : World κ}
    (hsource : w'.source id = w.source id)
    (hmem : ∀ service' o', o' ∈ w'.observersAt (w.source id).notifier service' ↔
      (if service' = service ∧ o' = o then Stays answer
        else o' ∈ w.observersAt (w.source id).notifier service') ∧ (service', o') ∉ gone)
    (hwatched : answer = .ok () → isWatching w id service = true)
    (htally : ∀ service', tally w'.client service' = tally w.client service') :
    Outcome tally id service o gone answer w w' := by
  have hsame : ∀ service', isWatching w' id service' = isWatching w id service' := fun service' =>
    congrArg (fun source : BackedSource => source.watched.contains service') hsource
  refine ⟨congrArg BackedSource.notifier hsource, hmem, fun service' => ?_, fun service' => ?_⟩
  · rw [hsame]
    refine ⟨Or.inl, ?_⟩
    rintro (hold | ⟨rfl, hok⟩)
    · exact hold
    · exact hwatched hok
  · rw [hsame, htally]

/-- Each of the four ways in which an addition can end comes to this. -/
theorem Undisturbed.outcome (h : Undisturbed host tally id service o gone w) :
    Outcome tally id service o gone (w.result (addObserver host id service o).run) w
      (w.after (addObserver host id service o).run) := by
  let u := (joining w id service o).after (ask host w id service)
  have hsource : isWatching w id service = false → u.source id = w.source id := fun hnew =>
    (h.leaves hnew).source
  have hasked : w.result (addObserver host id service o).run ≠ .ok () →
      isWatching w id service = false := by
    intro hstop
    rw [← Bool.not_eq_true]
    exact fun hwatched => hstop (result_addObserver_of_watching host o hwatched)
  rcases addObserver_cases host id service o w with
    ⟨hwatched, hresult, hfinal⟩ | ⟨hnew, hanswer, hresult, hfinal⟩ |
    ⟨cause, hanswer, hresult, hfinal⟩ | ⟨payload, hanswer, hresult, hfinal⟩
  · change w.after (addObserver host id service o).run = joining w id service o at hfinal
    rw [hresult, hfinal]
    refine .of_source rfl (fun service' o' => ?_) (fun _ => hwatched) fun _ => rfl
    rw [← mem_iff_of_stays stays_ok, mem_joining, h.watched hwatched]
    simp
  · change isWatching w id service = false at hnew
    change w.after (addObserver host id service o).run =
      (u.after (setWatched id service)).note (.watchInstalled (w.source id).name service) at hfinal
    rw [hresult, hfinal]
    have hnow : ∀ service', isWatching ((u.after (setWatched id service)).note
        (.watchInstalled (w.source id).name service)) id service' =
          (isWatching w id service' || decide (service' = service)) := by
      intro service'
      rw [isWatching, isWatching, ← hsource hnew]
      exact isWatching_setWatched u id service service'
    refine ⟨?_, fun service' o' => ?_, fun service' => ?_, fun service' => ?_⟩
    · exact (notifier_setWatched u id service).trans (congrArg BackedSource.notifier (hsource hnew))
    · rw [← mem_iff_of_stays stays_ok]
      exact h.mem_asked hnew service' o'
    · rw [hnow]
      simp
    · have htally : tally u.client service' = _ := h.accepted hnew hanswer service'
      rw [hnow]
      show tally u.client service' + _ = _
      by_cases hservice : service' = service
      · subst hservice
        simp [htally, hnew]
      · simp [htally, hservice]
  · change w.after (addObserver host id service o).run =
      u.after (Notifier.remove (w.source id).notifier service o) at hfinal
    have hnew := hasked (hresult ▸ nofun)
    rw [hresult, hfinal]
    refine .of_source (hsource hnew) (fun service' o' => ?_) nofun
      (h.refused hnew fun hok => nomatch hanswer.symm.trans hok)
    rw [World.mem_observersAt_remove, h.mem_asked hnew]
    by_cases hplace : service' = service ∧ o' = o
    · simp [hplace, not_stays_failed]
    · simp [hplace]
  · change w.after (addObserver host id service o).run = u at hfinal
    have hnew := hasked (hresult ▸ nofun)
    rw [hresult, hfinal]
    refine .of_source (hsource hnew) (fun service' o' => ?_) nofun
      (h.refused hnew fun hok => nomatch hanswer.symm.trans hok)
    rw [← mem_iff_of_stays (stays_panicked payload)]
    exact h.mem_asked hnew service' o'

end Adding

/-! ## Runs -/

/-- A source that has been made with a notifier of its own, and the log of its calls.  Whatever
else happens to the world, the source changes by its calls only. -/
inductive Kept (host : Host κ) (tally : κ → String → Nat) (id : Ref .backed) (n : Ref .notifier) :
    List Entry → World κ → Prop
  | created (name : String) (backend : Ref .backend) (dispatcher : Ref .dispatcher) (w : World κ)
    (hid : w.result (create name backend dispatcher n).run = .ok id)
    (hown : ∀ service, w.observersAt n service = [])
    (hnone : ∀ service, tally w.client service = 0) :
    Kept host tally id n [] (w.after (create name backend dispatcher n).run)
  | added {log : List Entry} {w : World κ} (h : Kept host tally id n log w) (service : String)
    (o : Observer) (gone : List (String × Observer))
    (hcall : Undisturbed host tally id service o gone w) :
    Kept host tally id n
      (departures gone ++ .added service o (w.result (addObserver host id service o).run) :: log)
      (w.after (addObserver host id service o).run)
  | removed {log : List Entry} {w : World κ} (h : Kept host tally id n log w) (service : String)
    (o : Observer) :
    Kept host tally id n (.removed service o :: log)
      (w.after ((Discovery.backed id).removeObserver service o))
  | meanwhile {log : List Entry} {w w' : World κ} (h : Kept host tally id n log w)
    (hsource : w'.source id = w.source id)
    (hobservers : ∀ service, w'.observersAt n service = w.observersAt n service)
    (htally : ∀ service, tally w'.client service = tally w.client service) :
    Kept host tally id n log w'

/-- The books of a source are in order. -/
structure Books (tally : κ → String → Nat) (id : Ref .backed) (n : Ref .notifier)
    (log : List Entry) (w : World κ) : Prop where
  notifier : (w.source id).notifier = n
  tally : ∀ service, tally w.client service = (isWatching w id service).toNat
  mem_iff : ∀ service o, o ∈ w.observersAt n service ↔
    ∃ answer, standing service o log = some answer ∧ Stays answer
  watched : ∀ service o, .added service o (.ok ()) ∈ log → isWatching w id service = true

section Keeping

variable {host : Host κ} {tally : κ → String → Nat} {id : Ref .backed} {n : Ref .notifier}
  {log : List Entry} {w w' : World κ}

theorem Books.created (name : String) (backend : Ref .backend) (dispatcher : Ref .dispatcher)
    (hid : w.result (create name backend dispatcher n).run = .ok id)
    (hown : ∀ service, w.observersAt n service = [])
    (hnone : ∀ service, tally w.client service = 0) :
    Books tally id n [] (w.after (create name backend dispatcher n).run) := by
  have hmade : (w.after (create name backend dispatcher n).run).source id =
      ⟨name, backend, dispatcher, n, []⟩ := by
    obtain rfl : (⟨w.next + 1⟩ : Ref .backed) = id := Except.ok.inj hid
    rw [after_create, World.source_setSource, if_pos rfl]
  have hidle : ∀ service, isWatching (w.after (create name backend dispatcher n).run) id service =
      false := by
    intro service
    rw [isWatching, hmade]
    rfl
  refine ⟨congrArg BackedSource.notifier hmade, fun service => ?_, fun service o => ?_, nofun⟩
  · rw [hidle]
    exact hnone service
  · show o ∈ w.observersAt n service ↔ _
    rw [hown]
    simp [standing]

theorem Books.added {service : String} {o : Observer} {gone : List (String × Observer)}
    (h : Books tally id n log w) (hcall : Undisturbed host tally id service o gone w) :
    Books tally id n
      (departures gone ++ .added service o (w.result (addObserver host id service o).run) :: log)
      (w.after (addObserver host id service o).run) := by
  have hout := hcall.outcome
  refine ⟨hout.notifier.trans h.notifier, fun service' => ?_, fun service' o' => ?_,
    fun service' o' hmem => ?_⟩
  · have hbalance := hout.tally service'
    rw [h.tally] at hbalance
    omega
  · have hmem := hout.mem_iff service' o'
    rw [h.notifier, h.mem_iff] at hmem
    rw [hmem, standing_departures, standing]
    split_ifs <;> simp_all
  · rw [hout.watching]
    rcases List.mem_append.1 hmem with hgone | hmem
    · obtain ⟨place, -, hplace⟩ := List.mem_map.1 hgone
      cases hplace
    · rcases List.mem_cons.1 hmem with hnow | hearlier
      · obtain ⟨rfl, -, hok⟩ := Entry.added.inj hnow
        exact Or.inr ⟨rfl, hok.symm⟩
      · exact Or.inl (h.watched service' o' hearlier)

theorem Books.removed (h : Books tally id n log w) (service : String) (o : Observer) :
    Books tally id n (.removed service o :: log)
      (w.after ((Discovery.backed id).removeObserver service o)) := by
  have hafter : w.after ((Discovery.backed id).removeObserver service o) =
      w.after (Notifier.remove (w.source id).notifier service o) := rfl
  rw [hafter]
  refine ⟨h.notifier, h.tally, fun service' o' => ?_, fun service' o' hmem => ?_⟩
  · rw [h.notifier, World.mem_observersAt_remove, h.mem_iff, standing]
    by_cases hplace : service' = service ∧ o' = o
    · simp [hplace]
    · simp [hplace]
  · exact h.watched service' o' ((List.mem_cons.1 hmem).resolve_left nofun)

theorem Kept.books (h : Kept host tally id n log w) : Books tally id n log w := by
  induction h with
  | created name backend dispatcher w hid hown hnone =>
    exact .created name backend dispatcher hid hown hnone
  | added _ service o gone hcall ih => exact ih.added hcall
  | removed _ service o ih => exact ih.removed service o
  | @meanwhile log w w' _ hsource hobservers htally ih =>
    have hsame : ∀ service, isWatching w' id service = isWatching w id service := fun service =>
      congrArg (fun source : BackedSource => source.watched.contains service) hsource
    refine ⟨hsource ▸ ih.notifier, fun service => ?_, fun service o => ?_, fun service o hmem => ?_⟩
    · rw [htally, hsame, ih.tally]
    · rw [hobservers, ih.mem_iff]
    · rw [hsame, ih.watched service o hmem]

theorem mem_of_standing {service : String} {o : Observer} {answer : Except Stop Unit}
    (h : standing service o log = some answer) : .added service o answer ∈ log := by
  induction log with
  | nil => cases h
  | cons entry earlier ih =>
    cases entry with
    | added service' o' answer' =>
      rw [standing] at h
      split_ifs at h with hplace
      · obtain ⟨rfl, rfl⟩ := hplace
        obtain rfl := Option.some.inj h
        exact List.mem_cons_self
      · exact List.mem_cons_of_mem _ (ih h)
    | removed service' o' =>
      rw [standing] at h
      split_ifs at h
      exact List.mem_cons_of_mem _ (ih h)

/-- The books of a source, after any calls on it and whatever its backend answers.  The backend
has accepted a watch of a service at most once, and has done so if the service counts as watched.
An addition returns if and only if the service is watched afterwards, and one that fails leaves
the observer off the list.  An observer is on the list of a service if its last addition has not
failed and it has not been removed since.  Unless the backend has panicked, that addition has
returned, and a service that somebody observes is watched. -/
theorem watches_of_kept (h : Kept host tally id n log w) :
    (∀ service, tally w.client service ≤ 1 ∧
      (isWatching w id service = true ↔ tally w.client service = 1)) ∧
    (∀ service o gone, Undisturbed host tally id service o gone w →
      let answer := w.result (addObserver host id service o).run
      let final := w.after (addObserver host id service o).run
      (answer = .ok () ↔ isWatching final id service = true) ∧
      ((∃ cause, answer = .error (.failed cause)) → o ∉ final.observersAt n service)) ∧
    (∀ service o, o ∈ w.observersAt n service ↔
      ∃ answer, standing service o log = some answer ∧ ∀ cause, answer ≠ .error (.failed cause)) ∧
    ((∀ service o payload, .added service o (.error (.panicked payload)) ∉ log) →
      (∀ service, w.observersAt n service ≠ [] → isWatching w id service = true) ∧
      ∀ service o, o ∈ w.observersAt n service ↔ standing service o log = some (.ok ())) := by
  have hbooks := h.books
  refine ⟨fun service => ?_, fun service o gone hcall => ⟨?_, ?_⟩, hbooks.mem_iff, fun hcalm => ?_⟩
  · rw [hbooks.tally]
    cases isWatching w id service <;> simp
  · rw [hcall.outcome.watching]
    refine ⟨fun hok => Or.inr ⟨rfl, hok⟩, ?_⟩
    rintro (hwatched | ⟨-, hok⟩)
    · exact result_addObserver_of_watching host o hwatched
    · exact hok
  · rintro ⟨cause, hfailed⟩ hmem
    rw [← hbooks.notifier, hcall.outcome.mem_iff, if_pos ⟨rfl, rfl⟩, hfailed] at hmem
    exact not_stays_failed cause hmem.1
  · have hjoined : ∀ service o, o ∈ w.observersAt n service ↔
        standing service o log = some (.ok ()) := by
      intro service o
      rw [hbooks.mem_iff]
      constructor
      · rintro ⟨answer, hstanding, hstays⟩
        rcases answer with (cause | payload) | _
        · exact absurd hstays (not_stays_failed cause)
        · exact absurd (mem_of_standing hstanding) (hcalm service o payload)
        · exact hstanding
      · exact fun hok => ⟨_, hok, stays_ok⟩
    refine ⟨fun service hne => ?_, hjoined⟩
    obtain ⟨o, ho⟩ := List.exists_mem_of_ne_nil _ hne
    exact hbooks.watched service o (mem_of_standing ((hjoined service o).1 ho))

end Keeping

/-! ## A backend that wavers -/

section Wavering

/-- The backend keeps a list of the services for which it has accepted a watch, and a number of
refusals that are left.  When it accepts, it has one listener taken off. -/
def wavering : Host (List String × Nat) :=
  { Host.quiet with
    watch := fun _ service _ => do
      match (← get).client.2 with
      | left + 1 =>
        modify fun w => { w with client := (w.client.1, left) }
        return .error (.failed (.collaborator "unreachable"))
      | 0 =>
        modify fun w => { w with client := (service :: w.client.1, 0) }
        (Discovery.backed ⟨3⟩).removeObserver "svc" (.client ⟨11⟩)
        return .ok () }

def accepted (client : List String × Nat) (service : String) : Nat := client.1.count service

/-- A source with a notifier of its own, and a backend that refuses once. -/
def apart : World (List String × Nat) :=
  let w := ((World.initial ([], 1)).after Notifier.create).after (Dispatcher.create .direct)
  w.after (create "mock" ⟨20⟩ ⟨1⟩ ⟨0⟩).run

theorem apart_kept : Kept wavering accepted ⟨3⟩ ⟨0⟩ [] apart :=
  .created "mock" ⟨20⟩ ⟨1⟩ _ rfl (fun _ => rfl) fun _ => rfl

/-- The first listener is refused. -/
def refusedOnce : World (List String × Nat) :=
  apart.after (addObserver wavering ⟨3⟩ "svc" (.client ⟨11⟩)).run

def refusal : Except Stop Unit := .error (.failed (.collaborator "unreachable"))

theorem apart_undisturbed : Undisturbed wavering accepted ⟨3⟩ "svc" (.client ⟨11⟩) [] apart where
  watched := nofun
  leaves _ := (Leaves.none _).meanwhile rfl fun _ => rfl
  accepted _ hok := nomatch hok
  refused _ _ _ := rfl

theorem refusedOnce_kept :
    Kept wavering accepted ⟨3⟩ ⟨0⟩ [.added "svc" (.client ⟨11⟩) refusal] refusedOnce :=
  apart_kept.added "svc" (.client ⟨11⟩) [] apart_undisturbed

/-- It comes back and is accepted, and is taken off before the backend has answered. -/
def acceptedThen : World (List String × Nat) :=
  refusedOnce.after (addObserver wavering ⟨3⟩ "svc" (.client ⟨11⟩)).run

theorem acceptedThen_kept :
    Kept wavering accepted ⟨3⟩ ⟨0⟩
      [.removed "svc" (.client ⟨11⟩), .added "svc" (.client ⟨11⟩) (.ok ()),
        .added "svc" (.client ⟨11⟩) refusal] acceptedThen := by
  refine refusedOnce_kept.added "svc" (.client ⟨11⟩) [("svc", .client ⟨11⟩)]
    ⟨nofun, fun _ => ?_, fun _ _ service => ?_, fun _ hstop => absurd rfl hstop⟩
  · have hcounted : Leaves ⟨3⟩ [] (joining refusedOnce ⟨3⟩ "svc" (.client ⟨11⟩))
        { joining refusedOnce ⟨3⟩ "svc" (.client ⟨11⟩) with client := (["svc"], 0) } :=
      (Leaves.none _).meanwhile rfl fun _ => rfl
    exact hcounted.removed "svc" (.client ⟨11⟩)
  · show ["svc"].count service = 0 + _
    rw [List.count_singleton]
    by_cases hservice : service = "svc"
    · simp [hservice]
    · simp [hservice, Ne.symm hservice]

/-- Another listener joins without a question. -/
def attendedTo : World (List String × Nat) :=
  acceptedThen.after (addObserver wavering ⟨3⟩ "svc" (.client ⟨12⟩)).run

def visits : List Entry :=
  [.added "svc" (.client ⟨12⟩) (.ok ()), .removed "svc" (.client ⟨11⟩),
    .added "svc" (.client ⟨11⟩) (.ok ()), .added "svc" (.client ⟨11⟩) refusal]

theorem attendedTo_kept : Kept wavering accepted ⟨3⟩ ⟨0⟩ visits attendedTo :=
  acceptedThen_kept.added "svc" (.client ⟨12⟩) [] ⟨fun _ => rfl, nofun, nofun, nofun⟩

/-- The first listener is not on the list after the refusal.  In the end the service has been
watched once, and the list holds the listener that has stayed. -/
theorem watches_of_kept_wavering :
    Kept wavering accepted ⟨3⟩ ⟨0⟩ visits attendedTo ∧
      Observer.client ⟨11⟩ ∉ refusedOnce.observersAt ⟨0⟩ "svc" ∧
      isWatching refusedOnce ⟨3⟩ "svc" = false ∧ isWatching attendedTo ⟨3⟩ "svc" = true ∧
      accepted attendedTo.client "svc" = 1 ∧
      Observer.client ⟨12⟩ ∈ attendedTo.observersAt ⟨0⟩ "svc" ∧
      Observer.client ⟨11⟩ ∉ attendedTo.observersAt ⟨0⟩ "svc" := by
  obtain ⟨-, hnext, -, -⟩ := watches_of_kept apart_kept
  obtain ⟨hanswer, hfailed⟩ := hnext "svc" (.client ⟨11⟩) [] apart_undisturbed
  obtain ⟨hwatches, -, -, hcalm⟩ := watches_of_kept attendedTo_kept
  obtain ⟨hobserved, hjoined⟩ := hcalm fun service o payload => by simp [visits, refusal]
  have hthere : Observer.client ⟨12⟩ ∈ attendedTo.observersAt ⟨0⟩ "svc" := (hjoined _ _).2 rfl
  have hwatched : isWatching attendedTo ⟨3⟩ "svc" = true :=
    hobserved "svc" (List.ne_nil_of_mem hthere)
  refine ⟨attendedTo_kept, hfailed ⟨_, rfl⟩, ?_, hwatched, (hwatches "svc").2.1 hwatched, hthere,
    ?_⟩
  · exact Bool.eq_false_iff.2 fun hyes => nomatch hanswer.2 hyes
  · rw [hjoined]
    nofun

end Wavering

end BackedSource

end ServiceDirectory
