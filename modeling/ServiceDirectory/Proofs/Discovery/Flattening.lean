import Mathlib.Data.List.Basic
import ServiceDirectory.Discovery.Observers
import ServiceDirectory.Proofs.Discovery.Paging
import ServiceDirectory.Proofs.Discovery.Tree

/-!
# Composites of composites

A composite goes through its sources from left to right and stops at the first one that fails.
What it makes of their answers may as well be made of parts of them first, so it does not matter
how composites are nested: a tree is asked by asking its leaves from left to right, as one
composite of the leaves is.
-/

namespace ServiceDirectory

/-- Sorted names are known from which names they are. -/
theorem sortedNames_eq_of_mem_iff {names names' : List String}
    (h : ∀ x, x ∈ names ↔ x ∈ names') : sortedNames names = sortedNames names' := by
  have hdistinct (names : List String) : (sortedNames names).Nodup := by
    refine (pairwise_sortedNames names).imp ?_
    rintro x y hlt rfl
    exact String.lt_irrefl x hlt
  have hperm : (sortedNames names).Perm (sortedNames names') := by
    rw [List.perm_ext_iff_of_nodup (hdistinct names) (hdistinct names')]
    intro x
    rw [mem_sortedNames, mem_sortedNames, h]
  exact hperm.eq_of_pairwise (fun x y _ _ hxy hyx => absurd hxy (String.lt_asymm hyx))
    (pairwise_sortedNames names) (pairwise_sortedNames names')

/-- Lists of names may be sorted one by one before they are sorted together. -/
theorem sortedNames_flatten_map (lists : List (List String)) :
    sortedNames (lists.map sortedNames).flatten = sortedNames lists.flatten := by
  refine sortedNames_eq_of_mem_iff fun x => ?_
  simp

theorem sortedNames_sortedNames (names : List String) :
    sortedNames (sortedNames names) = sortedNames names :=
  sortedNames_eq_of_mem_iff fun _ => mem_sortedNames

section Sequences

variable {m : Type → Type} [Monad m] [LawfulMonad m] {α β γ : Type}

/-- Whatever is done for the members of some lists is done for one list after the other. -/
theorem mapM_flatMap (f : β → m γ) (g : α → List β) (l : List α) :
    (l.flatMap g).mapM f = List.flatten <$> l.mapM fun a => (g a).mapM f := by
  induction l with
  | nil => simp
  | cons a l ih => simp [List.mapM_append, ih]

theorem mapM_eq_map_mapM {f : β → γ} {ask : α → m γ} {ask' : α → m β} {l : List α}
    (h : ∀ a ∈ l, ask a = f <$> ask' a) : l.mapM ask = List.map f <$> l.mapM ask' := by
  induction l with
  | nil => simp
  | cons a l ih =>
    rw [List.mapM_cons, List.mapM_cons, h a List.mem_cons_self,
      ih fun b hb => h b (List.mem_cons_of_mem _ hb)]
    simp

theorem forM_eq_map_mapM (f : α → m Unit) (l : List α) :
    l.forM f = (fun _ => ()) <$> l.mapM f := by
  induction l with
  | nil => simp
  | cons a l ih =>
    rw [List.forM_eq_forM] at ih ⊢
    rw [List.forM_cons, List.mapM_cons, ih]
    simp

end Sequences

namespace Discovery

variable {κ : Type}

/-! ## Trees and their leaves -/

/-- Nesting does not matter for a way of asking sources: composites gather the answers of their
sources, and an answer may be gathered from parts that have been gathered before. -/
structure Gathers {m : Type → Type} [Monad m] {α : Type} (ask : Discovery → m α)
    (gather : List α → α) : Prop where
  memory : ∀ id, (fun a => gather [a]) <$> ask (memory id) = ask (memory id)
  backed : ∀ id, (fun a => gather [a]) <$> ask (backed id) = ask (backed id)
  composite : ∀ id sources, ask (composite id sources) = gather <$> sources.mapM ask
  parts : ∀ lists : List (List α), gather (lists.map gather) = gather lists.flatten

theorem Gathers.eq_leaves {m : Type → Type} [Monad m] [LawfulMonad m] {α : Type}
    {ask : Discovery → m α} {gather : List α → α} (h : Gathers ask gather) (d : Discovery) :
    ask d = gather <$> d.leaves.mapM ask := by
  induction d using treeInduction with
  | memory id => simpa [leaves] using (h.memory id).symm
  | backed id => simpa [leaves] using (h.backed id).symm
  | composite id sources ih =>
    rw [h.composite, mapM_eq_map_mapM ih, leaves, leavesOfAll_eq_flatMap, mapM_flatMap]
    simp [h.parts]

/-- A tree does what one composite of its leaves does. -/
theorem Gathers.eq_composite {m : Type → Type} [Monad m] [LawfulMonad m] {α : Type}
    {ask : Discovery → m α} {gather : List α → α} (h : Gathers ask gather) (d : Discovery)
    (id : Ref .composite) : ask d = ask (.composite id d.leaves) :=
  (h.eq_leaves d).trans (h.composite id d.leaves).symm

section Asking

variable (host : Host κ) (service : String) (o : Observer)

theorem instances_gathers : Gathers (instances host service) List.flatten where
  memory id := by simp
  backed id := by simp
  composite id sources := by
    show instancesOfAll host service sources = _
    induction sources with
    | nil => simp [instancesOfAll]
    | cons source rest ih => simp [instancesOfAll, ih]
  parts lists := List.flatten_flatten.symm

theorem serviceNamesOfAll_eq_mapM (sources : List Discovery) :
    serviceNamesOfAll host sources = List.flatten <$> sources.mapM (serviceNames host) := by
  induction sources with
  | nil => simp [serviceNamesOfAll]
  | cons source rest ih => simp [serviceNamesOfAll, ih]

/-- The names that the sources give are sorted already when a composite sorts them. -/
theorem services_gathers : Gathers (services host) fun names => sortedNames names.flatten where
  memory id := by simp [services, sortedNames_sortedNames]
  backed id := by simp [services, sortedNames_sortedNames]
  composite id sources := by
    have hsorted : ∀ source ∈ sources, source.services host =
        sortedNames <$> source.serviceNames host := fun source _ => by simp [services]
    rw [mapM_eq_map_mapM hsorted, services, serviceNames, serviceNamesOfAll_eq_mapM]
    simp [sortedNames_flatten_map]
  parts lists := by
    have hflatten : (lists.map fun names => sortedNames names.flatten) =
        (lists.map List.flatten).map sortedNames := by simp
    rw [hflatten, sortedNames_flatten_map, List.flatten_flatten]

theorem addObserver_gathers : Gathers (addObserver host service o) fun _ => () where
  memory id := by simp
  backed id := by simp
  composite id sources := by
    show addObserverToAll host service o sources = _
    induction sources with
    | nil => simp [addObserverToAll]
    | cons source rest ih => simp [addObserverToAll, ih]
  parts _ := rfl

theorem removeObserver_gathers :
    Gathers (m := Run κ) (removeObserver service o) fun _ => () where
  memory id := by simp
  backed id := by simp
  composite id sources := by
    show removeObserverFromAll service o sources = _
    induction sources with
    | nil => simp [removeObserverFromAll]
    | cons source rest ih => simp [removeObserverFromAll, ih]
  parts _ := rfl

end Asking

/-! ## One leaf after the other -/

/-- Sources are asked from left to right, each in the world that the one before it has left,
until one fails; the sources behind that one are not asked. -/
inductive InTurn {ε α : Type} (ask : Discovery → ExceptT ε (Run κ) α) :
    List Discovery → World κ → Except ε (List α) → World κ → Prop
  | done (w : World κ) : InTurn ask [] w (.ok []) w
  | stopped {d : Discovery} {rest : List Discovery} {w : World κ} {cause : ε}
      (failed : w.result (ask d).run = .error cause) :
      InTurn ask (d :: rest) w (.error cause) (w.after (ask d).run)
  | next {d : Discovery} {rest : List Discovery} {w w' : World κ} {a : α}
      {answers : Except ε (List α)} (first : w.result (ask d).run = .ok a)
      (others : InTurn ask rest (w.after (ask d).run) answers w') :
      InTurn ask (d :: rest) w (answers.map (a :: ·)) w'

theorem inTurn_mapM {ε α : Type} (ask : Discovery → ExceptT ε (Run κ) α)
    (sources : List Discovery) (w : World κ) :
    InTurn ask sources w (w.result (sources.mapM ask).run) (w.after (sources.mapM ask).run) := by
  induction sources generalizing w with
  | nil => exact .done w
  | cons d rest ih =>
    rw [List.mapM_cons]
    cases hfirst : w.result (ask d).run with
    | error cause =>
      rw [World.result_bind_of_error hfirst, World.after_bind_of_error hfirst]
      exact .stopped hfirst
    | ok a =>
      rw [World.result_bind_of_ok hfirst, World.after_bind_of_ok hfirst,
        World.after_bind_pure_except]
      have hrest : (w.after (ask d).run).result
          (rest.mapM ask >>= fun others => pure (a :: others)).run =
            ((w.after (ask d).run).result (rest.mapM ask).run).map (a :: ·) := by
        rw [World.result_bind_except]
        cases (w.after (ask d).run).result (rest.mapM ask).run <;> rfl
      rw [hrest]
      exact .next hfirst (ih _)

theorem Gathers.inTurn {ε α : Type} {ask : Discovery → ExceptT ε (Run κ) α}
    {gather : List α → α} (h : Gathers ask gather) (d : Discovery) (w : World κ) :
    ∃ answers, InTurn ask d.leaves w answers (w.after (ask d).run) ∧
      w.result (ask d).run = answers.map gather := by
  have hturn := inTurn_mapM ask d.leaves w
  rw [h.eq_leaves d, map_eq_pure_bind, World.after_bind_pure_except]
  refine ⟨_, hturn, ?_⟩
  rw [World.result_bind_except]
  cases w.result (d.leaves.mapM ask).run <;> rfl

theorem after_page (host : Host κ) (d : Discovery) (service : String) (offset size : UInt64)
    (healthyOnly : Bool) (w : World κ) :
    w.after (d.page host service offset size healthyOnly).run =
      w.after (d.instances host service).run := by
  rw [page, World.after_bind_pure_except]

/-- However composites are nested, they answer, fail and act as one composite of the leaves.
The leaves are gone through from left to right: what they answer is put together, the first
failure is passed on, and nothing is done behind the leaf that has failed. -/
theorem nested_eq_flat (host : Host κ) (service : String) (o : Observer) (d : Discovery)
    (id : Ref .composite) :
    (d.instances host service = (composite id d.leaves).instances host service ∧
      d.services host = (composite id d.leaves).services host ∧
      (∀ offset size healthyOnly, d.page host service offset size healthyOnly =
        (composite id d.leaves).page host service offset size healthyOnly) ∧
      d.addObserver host service o = (composite id d.leaves).addObserver host service o ∧
      (d.removeObserver service o : Run κ Unit) =
        (composite id d.leaves).removeObserver service o) ∧
    (d.removeObserver service o : Run κ Unit) =
      d.leaves.forM (fun leaf => leaf.removeObserver service o) ∧
    ∀ w : World κ,
      (∃ answers, InTurn (instances host service) d.leaves w answers
          (w.after (d.instances host service).run) ∧
        w.result (d.instances host service).run = answers.map List.flatten ∧
        ∀ offset size healthyOnly,
          w.after (d.page host service offset size healthyOnly).run =
            w.after (d.instances host service).run ∧
          w.result (d.page host service offset size healthyOnly).run =
            answers.map fun lists => (Page.window lists.flatten offset size).retain fun x =>
              !healthyOnly || x.healthy) ∧
      (∃ answers, InTurn (services host) d.leaves w answers (w.after (d.services host).run) ∧
        w.result (d.services host).run = answers.map fun names => sortedNames names.flatten) ∧
      ∃ answers, InTurn (addObserver host service o) d.leaves w answers
          (w.after (d.addObserver host service o).run) ∧
        w.result (d.addObserver host service o).run = answers.map fun _ => () := by
  have hinstances := instances_gathers host service
  have hservices := services_gathers host
  have hadd := addObserver_gathers host service o
  have hremove := removeObserver_gathers (κ := κ) service o
  refine ⟨⟨hinstances.eq_composite d id, hservices.eq_composite d id, ?_,
    hadd.eq_composite d id, hremove.eq_composite d id⟩, ?_, fun w =>
    ⟨?_, hservices.inTurn d w, hadd.inTurn d w⟩⟩
  · intro offset size healthyOnly
    rw [page, page, hinstances.eq_composite d id]
  · rw [hremove.eq_leaves d, forM_eq_map_mapM]
  · obtain ⟨answers, hturn, hresult⟩ := hinstances.inTurn d w
    refine ⟨answers, hturn, hresult, fun offset size healthyOnly =>
      ⟨after_page host d service offset size healthyOnly w, ?_⟩⟩
    rw [result_page, hresult]
    cases answers <;> rfl

end Discovery

end ServiceDirectory
