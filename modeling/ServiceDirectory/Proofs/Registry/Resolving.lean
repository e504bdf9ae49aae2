import ServiceDirectory.Configuration
import ServiceDirectory.Proofs.Registry.Asking
import ServiceDirectory.Proofs.Text.Parts
import ServiceDirectory.Registry.Subscribe
import Mathlib.Data.List.Forall2

/-!
# The services of an interface

A value of the configuration gives names between commas.  Which names it gives, and in which
order, is said here by the pieces of the value, and a value may be written in many ways that all
give the same names: with blanks around the names, with blank pieces, and with names that come
again.  Where the configuration is kept in memory, the value that counts is the one that was
published last for the interface in the group of the registry.
-/

namespace ServiceDirectory

open Text

/-! ## The names in a value -/

/-- A value gives these names: what is left of its pieces between commas without the blanks at
their ends, unless nothing is left, each once and in the order in which they come first. -/
inductive Configures (value : String) (names : List String) : Prop
  | intro {parts kept : List (List Char)} (hparts : MadeOf ',' value.toList parts)
    (hkept : List.Forall₂ Trimmed parts kept)
    (hmem : ∀ name, name ∈ names ↔ name ≠ "" ∧ name.toList ∈ kept)
    (horder : names.Pairwise fun a b => kept.idxOf a.toList < kept.idxOf b.toList)

/-- The names in pieces that have been trimmed. -/
def namesOf (kept : List (List Char)) : List String :=
  firstOccurrences ((kept.filter fun piece => !piece.isEmpty).map String.ofList)

theorem configuredNames_eq (value : String) :
    configuredNames value = namesOf ((pieces ',' value.toList).map trim) := rfl

section NamesOf

variable {kept : List (List Char)} {piece : List Char} {name : String}

theorem namesOf_cons_nil (kept : List (List Char)) : namesOf ([] :: kept) = namesOf kept := rfl

theorem namesOf_cons (hpiece : piece ≠ []) (kept : List (List Char)) :
    namesOf (piece :: kept) =
      String.ofList piece :: (namesOf kept).filter (· ≠ String.ofList piece) := by
  rw [namesOf, List.filter_cons_of_pos (by simpa using hpiece)]
  rfl

theorem toList_ne_nil : name.toList ≠ [] ↔ name ≠ "" := by
  rw [Ne, Ne, ← String.toList_inj]
  rfl

theorem eq_ofList_iff : name = String.ofList piece ↔ name.toList = piece := by
  rw [← String.toList_inj, String.toList_ofList]

theorem mem_namesOf : name ∈ namesOf kept ↔ name ≠ "" ∧ name.toList ∈ kept := by
  induction kept with
  | nil => simp [namesOf, firstOccurrences]
  | cons piece kept ih =>
    by_cases hpiece : piece = []
    · subst hpiece
      rw [namesOf_cons_nil, ih, List.mem_cons, and_congr_right_iff]
      exact fun hname => (or_iff_right (toList_ne_nil.2 hname)).symm
    · rw [namesOf_cons hpiece, List.mem_cons, List.mem_filter, ih, List.mem_cons,
        decide_eq_true_iff, Ne, Ne, eq_ofList_iff]
      by_cases heq : name.toList = piece
      · have hname : name ≠ "" := toList_ne_nil.1 (heq ▸ hpiece)
        simp [heq, hname]
      · simp [heq]

theorem namesOf_inOrder (kept : List (List Char)) :
    (namesOf kept).Pairwise fun a b => kept.idxOf a.toList < kept.idxOf b.toList := by
  induction kept with
  | nil => exact List.Pairwise.nil
  | cons piece kept ih =>
    -- A name that does not begin at this piece stands one place further on.
    have hlater : ∀ name : String, name.toList ≠ piece →
        (piece :: kept).idxOf name.toList = kept.idxOf name.toList + 1 :=
      fun name hne => List.idxOf_cons_ne kept (Ne.symm hne)
    by_cases hpiece : piece = []
    · subst hpiece
      rw [namesOf_cons_nil]
      refine ih.imp_of_mem fun {a b} ha hb hlt => ?_
      rw [hlater a (toList_ne_nil.2 (mem_namesOf.1 ha).1),
        hlater b (toList_ne_nil.2 (mem_namesOf.1 hb).1)]
      exact Nat.succ_lt_succ hlt
    · rw [namesOf_cons hpiece]
      have hother : ∀ name ∈ (namesOf kept).filter (· ≠ String.ofList piece),
          name.toList ≠ piece := by
        intro name hname
        rw [Ne, ← eq_ofList_iff]
        simpa using (List.mem_filter.1 hname).2
      refine List.pairwise_cons.2 ⟨fun name hname => ?_, (ih.filter _).imp_of_mem ?_⟩
      · rw [hlater name (hother name hname), String.toList_ofList, List.idxOf_cons_self]
        exact Nat.succ_pos _
      · intro a b ha hb hlt
        rw [hlater a (hother a ha), hlater b (hother b hb)]
        exact Nat.succ_lt_succ hlt

end NamesOf

section Configures

variable {value : String} {names names' : List String}

theorem forall₂_trimmed_iff {parts kept : List (List Char)} :
    List.Forall₂ Trimmed parts kept ↔ parts.map trim = kept := by
  rw [← List.forall₂_eq_eq_eq, List.forall₂_map_left_iff]
  simp only [trim_eq_iff]

theorem nodup_of_inOrder {kept : List (List Char)}
    (h : names.Pairwise fun a b => kept.idxOf a.toList < kept.idxOf b.toList) : names.Nodup := by
  refine h.imp fun {a b} hlt heq => ?_
  rw [heq] at hlt
  exact Nat.lt_irrefl _ hlt

theorem configures_configuredNames (value : String) :
    Configures value (configuredNames value) :=
  .intro (pieces_eq_iff.1 rfl) (forall₂_trimmed_iff.2 rfl) (fun _ => mem_namesOf)
    (namesOf_inOrder _)

theorem Configures.nodup (h : Configures value names) : names.Nodup := by
  obtain ⟨-, -, -, horder⟩ := h
  exact nodup_of_inOrder horder

/-- A value gives one list of names only. -/
theorem Configures.unique (h : Configures value names) (h' : Configures value names') :
    names = names' := by
  have hnodup := h.nodup
  have hnodup' := h'.nodup
  obtain ⟨hparts, hkept, hmem, horder⟩ := h
  obtain ⟨hparts', hkept', hmem', horder'⟩ := h'
  obtain rfl := pieces_eq_iff.2 hparts
  obtain rfl := pieces_eq_iff.2 hparts'
  obtain rfl := forall₂_trimmed_iff.1 hkept
  obtain rfl := forall₂_trimmed_iff.1 hkept'
  have hperm : names.Perm names' := by
    rw [List.perm_ext_iff_of_nodup hnodup hnodup']
    exact fun name => (hmem name).trans (hmem' name).symm
  exact hperm.eq_of_pairwise (fun a b _ _ hab hba => absurd hab (Nat.lt_asymm hba)) horder horder'

theorem configuredNames_eq_iff : configuredNames value = names ↔ Configures value names := by
  constructor
  · rintro rfl
    exact configures_configuredNames value
  · exact (configures_configuredNames value).unique

end Configures

/-! ## Names that are written again -/

/-- Pieces that give some names, when others have been given before them: the names stand in their
order with blanks around them, a piece may be blank, and a name may come again anywhere behind
its first occurrence. -/
inductive Respells : List String → List String → List (List Char) → Prop
  | done (given : List String) : Respells given [] []
  | blank {given names : List String} {piece : List Char} {parts : List (List Char)}
    (hblank : ∀ c ∈ piece, isBlank c = true) (hrest : Respells given names parts) :
    Respells given names (piece :: parts)
  | again {given names : List String} {name : String} {front back : List Char}
    {parts : List (List Char)} (hgiven : name ∈ given)
    (hblank : ∀ c ∈ front ++ back, isBlank c = true) (hrest : Respells given names parts) :
    Respells given names ((front ++ name.toList ++ back) :: parts)
  | next {given names : List String} {name : String} {front back : List Char}
    {parts : List (List Char)} (hblank : ∀ c ∈ front ++ back, isBlank c = true)
    (hrest : Respells (name :: given) names parts) :
    Respells given (name :: names) ((front ++ name.toList ++ back) :: parts)

/-- A text that can stand as a name between commas. -/
structure IsName (name : String) : Prop where
  nonempty : name ≠ ""
  unblanked : Trimmed name.toList name.toList
  apart : ',' ∉ name.toList

theorem isName_of_mem_configuredNames {value name : String} (h : name ∈ configuredNames value) :
    IsName name := by
  obtain ⟨hnonempty, hkept⟩ := mem_namesOf.1 h
  obtain ⟨piece, hpiece, htrim⟩ := List.mem_map.1 hkept
  obtain ⟨⟨front, back, hparts, -⟩, hhead, hlast⟩ := trim_eq_iff.1 htrim
  refine ⟨hnonempty, ⟨⟨[], [], by simp, nofun⟩, hhead, hlast⟩, fun hcomma => ?_⟩
  refine not_mem_of_mem_pieces hpiece ?_
  rw [hparts]
  exact List.mem_append_left _ (List.mem_append_right _ hcomma)

section Respells

variable {given names : List String} {parts : List (List Char)}

theorem trim_padded {name : String} (h : IsName name) {front back : List Char}
    (hblank : ∀ c ∈ front ++ back, isBlank c = true) :
    trim (front ++ name.toList ++ back) = name.toList :=
  trim_eq_iff.2 ⟨⟨front, back, rfl, hblank⟩, h.unblanked.head, h.unblanked.last⟩

theorem trim_blank {piece : List Char} (hblank : ∀ c ∈ piece, isBlank c = true) :
    trim piece = [] :=
  trim_eq_iff.2 ⟨⟨piece, [], by simp, by simpa using hblank⟩, nofun, nofun⟩

theorem comma_notMem_of_blank {piece : List Char} (hblank : ∀ c ∈ piece, isBlank c = true) :
    ',' ∉ piece := by
  intro hcomma
  exact absurd (hblank ',' hcomma) (by decide)

/-- Of what the pieces give, the names that have not been given before are left. -/
theorem Respells.namesOf_trimmed (h : Respells given names parts)
    (hnames : ∀ name ∈ given ++ names, IsName name) (hnodup : names.Nodup)
    (hfresh : given.Disjoint names) :
    (namesOf (parts.map trim)).filter (· ∉ given) = names := by
  induction h with
  | done given => rfl
  | blank hblank _ ih =>
    rw [List.map_cons, trim_blank hblank, namesOf_cons_nil]
    exact ih hnames hnodup hfresh
  | @again given names name front back parts hgiven hblank _ ih =>
    have hname := hnames name (List.mem_append_left _ hgiven)
    rw [List.map_cons, trim_padded hname hblank, namesOf_cons (toList_ne_nil.2 hname.nonempty),
      String.ofList_toList, List.filter_cons_of_neg (by simpa using hgiven), List.filter_filter]
    rw [← ih hnames hnodup hfresh]
    refine List.filter_congr fun other _ => ?_
    by_cases hother : other ∈ given
    · simp [hother]
    · have hne : other ≠ name := fun heq => hother (heq ▸ hgiven)
      simp [hother, hne]
  | @next given names name front back parts hblank _ ih =>
    have hname := hnames name (List.mem_append_right _ List.mem_cons_self)
    obtain ⟨hlast, hnodup⟩ := List.nodup_cons.1 hnodup
    obtain ⟨hnew, hfresh⟩ := List.disjoint_cons_right.1 hfresh
    have hrest := ih (fun other hother => hnames other (by simpa [or_left_comm] using hother))
      hnodup (List.disjoint_cons_left.2 ⟨hlast, hfresh⟩)
    rw [List.map_cons, trim_padded hname hblank, namesOf_cons (toList_ne_nil.2 hname.nonempty),
      String.ofList_toList, List.filter_cons_of_pos (by simpa using hnew), List.filter_filter]
    refine congrArg (name :: ·) (Eq.trans (List.filter_congr fun other _ => ?_) hrest)
    simp [Bool.and_comm]

theorem Respells.apart (h : Respells given names parts)
    (hnames : ∀ name ∈ given ++ names, IsName name) : ∀ piece ∈ parts, ',' ∉ piece := by
  have hpadded : ∀ {name : String} {front back : List Char}, IsName name →
      (∀ c ∈ front ++ back, isBlank c = true) → ',' ∉ front ++ name.toList ++ back := by
    intro name front back hname hblank hcomma
    have hpad := comma_notMem_of_blank hblank
    simp only [List.mem_append, not_or] at hcomma hpad
    exact hcomma.elim (fun h => h.elim hpad.1 hname.apart) hpad.2
  induction h with
  | done given => exact nofun
  | blank hblank _ ih => exact List.forall_mem_cons.2 ⟨comma_notMem_of_blank hblank, ih hnames⟩
  | again hgiven hblank _ ih =>
    exact List.forall_mem_cons.2
      ⟨hpadded (hnames _ (List.mem_append_left _ hgiven)) hblank, ih hnames⟩
  | next hblank _ ih =>
    exact List.forall_mem_cons.2
      ⟨hpadded (hnames _ (List.mem_append_right _ List.mem_cons_self)) hblank,
        ih fun other hother => hnames other (by simpa [or_left_comm] using hother)⟩

/-- The names that a value gives, written again, give the same names. -/
theorem configuredNames_of_respells {value : String} (hnames : Configures value names)
    (h : Respells [] names parts) :
    configuredNames (String.ofList (List.intercalate [','] parts)) = names := by
  obtain rfl := configuredNames_eq_iff.2 hnames
  have hname : ∀ name ∈ [] ++ configuredNames value, IsName name :=
    fun name hname => isName_of_mem_configuredNames hname
  have hgiven := h.namesOf_trimmed hname hnames.nodup (List.disjoint_nil_left _)
  rw [List.filter_eq_self.2 (by simp)] at hgiven
  rw [configuredNames_eq, String.toList_ofList]
  by_cases hparts : parts = []
  · subst hparts
    exact hgiven
  · rw [pieces_intercalate hparts (h.apart hname)]
    exact hgiven

end Respells

/-! ## Values in memory -/

namespace Configuration

/-- A change of a configuration in memory. -/
inductive Edit
  | publish (key group value : String)
  | remove (key group : String)

namespace Edit

/-- The key and the group that an edit is about. -/
def place : Edit → String × String
  | publish key group _ => (key, group)
  | remove key group => (key, group)

/-- The value that an edit leaves at its place. -/
def value? : Edit → Option String
  | publish _ _ value => some value
  | remove _ _ => none

def apply (c : Configuration) : Edit → Configuration
  | publish key group value => (c.publish key group value).2
  | remove key group => (c.remove key group).2

theorem get_apply (c : Configuration) (e : Edit) (key group : String) :
    (e.apply c).get key group = if e.place = (key, group) then e.value? else c.get key group := by
  cases e with
  | publish key' group' value => simp [apply, place, value?, and_comm]
  | remove key' group' =>
    simp [apply, place, value?, Configuration.remove, Configuration.get, and_comm]

end Edit

/-- A configuration that edits have made from an empty one, by the value that the last edit of a
place has left there.  Edits of other places may come at any time. -/
inductive Holds (key group : String) : Option String → Configuration → Prop
  | empty : Holds key group none .empty
  | edit {value? : Option String} {c : Configuration} (h : Holds key group value? c) (e : Edit)
    (hplace : e.place = (key, group)) : Holds key group e.value? (e.apply c)
  | elsewhere {value? : Option String} {c : Configuration} (h : Holds key group value? c)
    (e : Edit) (hplace : e.place ≠ (key, group)) : Holds key group value? (e.apply c)

theorem Holds.get_eq {key group : String} {value? : Option String} {c : Configuration}
    (h : Holds key group value? c) : c.get key group = value? := by
  induction h with
  | empty => rfl
  | edit _ e hplace _ => rw [Edit.get_apply, if_pos hplace]
  | elsewhere _ e hplace ih => rw [Edit.get_apply, if_neg hplace, ih]

end Configuration

/-! ## Resolving an interface -/

variable {κ : Type}

/-- The configurations are kept in memory by the clients, and a look-up reads one of them. -/
def Host.LooksUpIn (host : Host κ) (read : κ → Ref .configuration → Configuration) : Prop :=
  ∀ c key group (w : World κ), w.result (host.lookup c key group) =
    .ok ((read w.client c).get key group) ∧ w.after (host.lookup c key group) = w

namespace Registry

/-- The registry resolves the interface to these services, and nothing is changed by that. -/
def Resolves (host : Host κ) (id : Ref .registry) (interface : String) (w : World κ)
    (names : List String) : Prop :=
  w.result (serviceNames host id interface).run = .ok names ∧
    w.after (serviceNames host id interface).run = w

variable {host : Host κ} {read : κ → Ref .configuration → Configuration} {id : Ref .registry}
  {interface : String} {w : World κ}

theorem resolves_of_get (hhost : host.LooksUpIn read) {value? : Option String}
    (h : (read w.client (w.registry id).configuration).get interface (w.registry id).group =
      value?) :
    Resolves host id interface w ((value?.map configuredNames).getD []) := by
  obtain ⟨hresult, hafter⟩ := hhost (w.registry id).configuration interface (w.registry id).group w
  rw [h] at hresult
  constructor
  · rw [result_serviceNames, hresult]
    rfl
  · rw [after_serviceNames, hafter]

/-- A registry resolves an interface to the names that its configuration gives, whatever the value
looks like.  In memory, only what is published for the interface in the group of the registry
counts: where there is a value, all others leave it alone, and the same names may be published
again in any other writing. -/
theorem resolves_of_configured (host : Host κ) (id : Ref .registry) (interface : String) :
    (∀ (w : World κ) (value : String),
      w.result (host.lookup (w.registry id).configuration interface (w.registry id).group) =
          .ok (some value) →
        ∃ names, w.result (serviceNames host id interface).run = .ok names ∧ names.Nodup ∧
          Configures value names) ∧
    ∀ read, host.LooksUpIn read → ∀ (w : World κ) (value? : Option String),
      (read w.client (w.registry id).configuration).Holds interface (w.registry id).group value? →
        ∃ names, Resolves host id interface w names ∧ (value? = none → names = []) ∧
          (∀ value, value? = some value → names.Nodup ∧ Configures value names) ∧
          ∀ parts, Respells [] names parts → ∀ w' : World κ,
            Configuration.Holds interface (w'.registry id).group
                (some (String.ofList (List.intercalate [','] parts)))
                (read w'.client (w'.registry id).configuration) →
              Resolves host id interface w' names := by
  refine ⟨fun w value hlookup => ⟨configuredNames value, ?_, ?_⟩, fun read hhost w value? h => ?_⟩
  · rw [result_serviceNames, hlookup]
    rfl
  · exact ⟨(configures_configuredNames value).nodup, configures_configuredNames value⟩
  · -- Without a value there are no names, as there are none in the empty value.
    have hconfigures : Configures (value?.getD "") ((value?.map configuredNames).getD []) := by
      cases value? with
      | none => exact configures_configuredNames ""
      | some value => exact configures_configuredNames value
    refine ⟨_, resolves_of_get hhost h.get_eq, fun hnone => ?_, fun value hvalue => ?_,
      fun parts hparts w' h' => ?_⟩
    · rw [hnone]
      rfl
    · subst hvalue
      exact ⟨hconfigures.nodup, hconfigures⟩
    · have hagain := resolves_of_get hhost h'.get_eq
      rwa [Option.map_some, Option.getD_some, configuredNames_of_respells hconfigures hparts]
        at hagain

/-! ## A value that is written anew -/

section Rewriting

/-- The clients keep one configuration. -/
def stored : Host Configuration :=
  { Host.quiet with lookup := fun _ key group => do return .ok ((← get).client.get key group) }

/-- The value has taken the place of another one, and other places have values too. -/
def mapped (value : String) : Configuration :=
  [Configuration.Edit.publish "Svc" "group" "old", .publish "Svc" "other" "x",
    .publish "Svc" "group" value, .publish "Echo" "group" "y", .remove "Echo" "other"].foldl
    Configuration.Edit.apply .empty

theorem mapped_holds (value : String) :
    Configuration.Holds "Svc" "group" (some value) (mapped value) :=
  ((((Configuration.Holds.empty.edit (.publish "Svc" "group" "old") rfl).elsewhere
    (.publish "Svc" "other" "x") (by decide)).edit (.publish "Svc" "group" value) rfl).elsewhere
      (.publish "Echo" "group" "y") (by decide)).elsewhere (.remove "Echo" "other") (by decide)

/-- A registry with the configuration. -/
def entrusted (value : String) : World Configuration :=
  (World.initial (mapped value)).after
    (create (.ofParts "registry" "r" none "") "group" ⟨9⟩ (.backed ⟨5⟩) ⟨3⟩)

/-- The pieces of another value with the same names. -/
def rewritten : List (List Char) :=
  [[], ['\t'] ++ "app-b".toList ++ [' '], [] ++ "app-b".toList ++ [], [' '],
    [] ++ "app-a".toList ++ [], [' '] ++ "app-b".toList ++ []]

theorem rewritten_respells : Respells [] ["app-b", "app-a"] rewritten :=
  have hblank {piece : List Char} (h : piece.all isBlank = true) : ∀ c ∈ piece, isBlank c = true :=
    List.all_eq_true.1 h
  .blank (hblank rfl) (.next (hblank rfl) (.again (by decide) (hblank rfl) (.blank (hblank rfl)
    (.next (hblank rfl) (.again (by decide) (hblank rfl) (.done _))))))

theorem resolves_of_configured_rewritten :
    let value := " app-b, app-a,,app-b "
    let names := ["app-b", "app-a"]
    stored.LooksUpIn (fun c _ => c) ∧
      Configuration.Holds "Svc" "group" (some value) (mapped value) ∧ Configures value names ∧
      Resolves stored ⟨0⟩ "Svc" (entrusted value) names ∧ Respells [] names rewritten ∧
      Resolves stored ⟨0⟩ "Svc" (entrusted ",\tapp-b ,app-b, ,app-a, app-b") names := by
  intro value names
  have hlooks : stored.LooksUpIn fun c _ => c := fun _ _ _ _ => ⟨rfl, rfl⟩
  have hnames : Configures value names := configuredNames_eq_iff.1 (by decide +kernel)
  obtain ⟨resolved, hresolves, -, hvalue, hagain⟩ :=
    (resolves_of_configured stored ⟨0⟩ "Svc").2 _ hlooks (entrusted value) _ (mapped_holds value)
  obtain rfl := (hvalue value rfl).2.unique hnames
  have hjoined : String.ofList (List.intercalate [','] rewritten) =
      ",\tapp-b ,app-b, ,app-a, app-b" := by
    decide +kernel
  exact ⟨hlooks, mapped_holds value, hnames, hresolves, rewritten_respells,
    hagain rewritten rewritten_respells _ (hjoined ▸ mapped_holds _)⟩

end Rewriting

end Registry

end ServiceDirectory
