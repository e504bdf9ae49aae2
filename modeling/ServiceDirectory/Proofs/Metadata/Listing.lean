import ServiceDirectory.Proofs.Metadata.Coupling
import ServiceDirectory.Proofs.Metadata.Recording

/-!
# What a metadata store lists

The listings of a store are functions of the calls that have been made on it.  A key is there
from its first insertion on, and keys stand in the order of these.  Under a key stand the
strings whose latest call records them, in the order of their latest insertions.  `Follows`
says so of one table, and every call keeps it.
-/

namespace ServiceDirectory

namespace UrlTable

variable {t : UrlTable}

theorem add_fst (t : UrlTable) (u : Url) :
    (t.add u).1 = true ↔ u.fullString ∉ t.get u.serviceKey := by
  unfold add
  dsimp only
  rw [get_opened]
  split_ifs with hknown <;> simp [hknown]

theorem remove_fst (t : UrlTable) (u : Url) :
    (t.remove u).1 = true ↔ u.fullString ∈ t.get u.serviceKey := by
  unfold remove
  rw [get]
  split
  · rename_i hnone
    simp [hnone]
  · rename_i urls hsome
    rw [hsome, Option.getD_some]
    split_ifs with hknown <;> simp [hknown]

theorem keyOrder_add (t : UrlTable) (u : Url) :
    (t.add u).2.keyOrder = (t.opened u.serviceKey).keyOrder := by
  unfold add
  dsimp only
  split_ifs <;> rfl

/-- Keys never go. -/
theorem keyOrder_remove (t : UrlTable) (u : Url) : (t.remove u).2.keyOrder = t.keyOrder := by
  unfold remove
  split
  · rfl
  · split_ifs <;> rfl

end UrlTable

namespace MetadataStore

variable {κ : Type}

/-! ## Calls -/

/-- The two tables of a store. -/
inductive Side
  | exported
  | subscribed
deriving DecidableEq

def table (m : MetadataStore) : Side → UrlTable
  | .exported => m.exported
  | .subscribed => m.subscribed

def setTable (m : MetadataStore) (side : Side) (t : UrlTable) : MetadataStore :=
  match side with
  | .exported => { m with exported := t }
  | .subscribed => { m with subscribed := t }

theorem table_setTable (m : MetadataStore) (side side' : Side) (t : UrlTable) :
    (m.setTable side t).table side' = if side = side' then t else m.table side' := by
  cases side <;> cases side' <;> rfl

/-- A call that records a URL in a table of a store, or forgets it there. -/
structure Request where
  side : Side
  records : Bool
  url : Url

namespace Request

/-- What a request makes the store do. -/
def perform (m : Ref .metadata) (r : Request) : Run κ Bool :=
  match r.side, r.records with
  | .exported, true => exportUrl m r.url
  | .exported, false => unexportUrl m r.url
  | .subscribed, true => subscribeUrl m r.url
  | .subscribed, false => unsubscribeUrl m r.url

/-- What a request answers, and what it makes of its table. -/
def edit (r : Request) (t : UrlTable) : Bool × UrlTable :=
  if r.records then t.add r.url else t.remove r.url

theorem get_edit_of_ne {r : Request} {key : String} (hkey : r.url.serviceKey ≠ key)
    (t : UrlTable) : (r.edit t).2.get key = t.get key := by
  unfold edit
  split_ifs
  · rw [UrlTable.get_add, if_neg fun hnew => hkey hnew.1]
  · rw [UrlTable.get_remove, if_neg hkey]

theorem result_perform (w : World κ) (m : Ref .metadata) (r : Request) :
    w.result (r.perform m) = (r.edit ((w.store m).table r.side)).1 := by
  obtain ⟨side, records, u⟩ := r
  cases side <;> cases records <;> rfl

theorem store_after_perform (w : World κ) (m : Ref .metadata) (r : Request) :
    (w.after (r.perform m)).store m =
      (w.store m).setTable r.side (r.edit ((w.store m).table r.side)).2 := by
  have hset : ∀ (store : MetadataStore) (notice : Notice),
      ((w.setStore m store).note notice).store m = store := by
    intro store notice
    show (w.setStore m store).store m = store
    rw [World.store_setStore, if_pos rfl]
  obtain ⟨side, records, u⟩ := r
  match side, records with
  | .exported, true => exact (congrArg (World.store · m) (after_exportUrl w m u)).trans (hset _ _)
  | .exported, false =>
    exact (congrArg (World.store · m) (after_unexportUrl w m u)).trans (hset _ _)
  | .subscribed, true =>
    exact (congrArg (World.store · m) (after_subscribeUrl w m u)).trans (hset _ _)
  | .subscribed, false =>
    exact (congrArg (World.store · m) (after_unsubscribeUrl w m u)).trans (hset _ _)

/-- A request writes to its own table only. -/
theorem table_after_perform (w : World κ) (m : Ref .metadata) (r : Request) (side : Side) :
    ((w.after (r.perform m)).store m).table side =
      if r.side = side then (r.edit ((w.store m).table side)).2 else (w.store m).table side := by
  rw [store_after_perform, table_setTable]
  split_ifs with hside
  · rw [hside]
  · rfl

/-- Whether a request is about a string under a key of a table. -/
def IsAbout (r : Request) (side : Side) (key text : String) : Prop :=
  r.side = side ∧ r.url.serviceKey = key ∧ r.url.fullString = text

instance (r : Request) (side : Side) (key text : String) : Decidable (r.IsAbout side key text) :=
  inferInstanceAs (Decidable (_ ∧ _ ∧ _))

end Request

/-! ## Logs

A log has the latest request first. -/

/-- Whether the latest request about a string records it. -/
def recordedIn (side : Side) (key text : String) : List Request → Bool
  | [] => false
  | r :: earlier =>
    if r.IsAbout side key text then r.records else recordedIn side key text earlier

/-- Whether a request inserts its string when it follows a log: it records a string that is
not there. -/
def Request.inserts (r : Request) (log : List Request) : Bool :=
  r.records && !recordedIn r.side r.url.serviceKey r.url.fullString log

/-- The number of the request that was the latest to insert a string, or zero. -/
def insertedAt (side : Side) (key text : String) : List Request → Nat
  | [] => 0
  | r :: earlier =>
    if r.IsAbout side key text ∧ r.inserts earlier then earlier.length + 1
    else insertedAt side key text earlier

/-- The number of the request that was the first to insert a string under a key, or zero. -/
def openedAt (side : Side) (key : String) : List Request → Nat
  | [] => 0
  | r :: earlier =>
    if openedAt side key earlier = 0 ∧ r.side = side ∧ r.url.serviceKey = key ∧
        r.inserts earlier then earlier.length + 1
    else openedAt side key earlier

variable {side : Side} {key text : String} {log : List Request} {r : Request}

theorem insertedAt_le (side : Side) (key text : String) (log : List Request) :
    insertedAt side key text log ≤ log.length := by
  induction log with
  | nil => exact Nat.le_refl _
  | cons r earlier ih =>
    rw [insertedAt, List.length_cons]
    split_ifs <;> omega

theorem openedAt_le (side : Side) (key : String) (log : List Request) :
    openedAt side key log ≤ log.length := by
  induction log with
  | nil => exact Nat.le_refl _
  | cons r earlier ih =>
    rw [openedAt, List.length_cons]
    split_ifs <;> omega

/-- The list is what a log leaves under a key: the strings that are recorded, each once, in the
order of their latest insertions. -/
structure Lists (side : Side) (key : String) (log : List Request) (list : List String) :
    Prop where
  nodup : list.Nodup
  mem : ∀ text, text ∈ list ↔ recordedIn side key text log = true
  order : list.Pairwise fun s t => insertedAt side key s log < insertedAt side key t log

/-- A request that is not about the list leaves it, and so does one that changes nothing. -/
theorem Lists.skip {list : List String} (h : Lists side key log list)
    (hsame : ∀ text, r.IsAbout side key text → recordedIn side key text log = r.records) :
    Lists side key (r :: log) list := by
  have hinserted : ∀ text, insertedAt side key text (r :: log) = insertedAt side key text log := by
    intro text
    rw [insertedAt, if_neg]
    rintro ⟨habout, hinserts⟩
    have hrecords := hsame text habout
    obtain ⟨rfl, rfl, rfl⟩ := habout
    simp [Request.inserts, hrecords] at hinserts
  refine ⟨h.nodup, fun text => ?_, ?_⟩
  · rw [h.mem, recordedIn]
    split_ifs with habout
    · rw [hsame text habout]
    · rfl
  · exact h.order.imp fun hlt => by rwa [hinserted, hinserted]

theorem Lists.add {list : List String} (h : Lists side key log list) (hside : r.side = side)
    (hkey : r.url.serviceKey = key) (hrecords : r.records = true)
    (hnew : r.url.fullString ∉ list) :
    Lists side key (r :: log) (list ++ [r.url.fullString]) := by
  subst hside hkey
  have habsent : recordedIn r.side r.url.serviceKey r.url.fullString log = false := by
    rwa [h.mem, Bool.not_eq_true] at hnew
  have hinserts : r.inserts log = true := by simp [Request.inserts, hrecords, habsent]
  have habout : r.IsAbout r.side r.url.serviceKey r.url.fullString := ⟨rfl, rfl, rfl⟩
  have hother : ∀ text ∈ list, ¬r.IsAbout r.side r.url.serviceKey text := by
    rintro text htext ⟨-, -, rfl⟩
    exact hnew htext
  refine ⟨List.concat_eq_append ▸ h.nodup.concat hnew, fun text => ?_, ?_⟩
  · rw [List.mem_append, List.mem_singleton, h.mem, recordedIn]
    split_ifs with hsame
    · simp [hsame.2.2, hrecords]
    · refine or_iff_left fun htext => hsame ⟨rfl, rfl, htext.symm⟩
  · rw [List.pairwise_append]
    refine ⟨?_, List.pairwise_singleton _ _, ?_⟩
    · refine h.order.imp_of_mem fun {s t} hs ht hlt => ?_
      rw [insertedAt, if_neg fun hs' => hother s hs hs'.1, insertedAt,
        if_neg fun ht' => hother t ht ht'.1]
      exact hlt
    · intro s hs t ht
      rw [List.mem_singleton] at ht
      subst ht
      rw [insertedAt, if_neg fun hs' => hother s hs hs'.1, insertedAt, if_pos ⟨habout, hinserts⟩]
      exact Nat.lt_succ_of_le (insertedAt_le _ _ _ _)

theorem Lists.erase {list : List String} (h : Lists side key log list) (hside : r.side = side)
    (hkey : r.url.serviceKey = key) (hforgets : r.records = false) :
    Lists side key (r :: log) (list.erase r.url.fullString) := by
  subst hside hkey
  have hinserted : ∀ text, insertedAt r.side r.url.serviceKey text (r :: log) =
      insertedAt r.side r.url.serviceKey text log := by
    intro text
    rw [insertedAt, if_neg]
    rintro ⟨-, hinserts⟩
    simp [Request.inserts, hforgets] at hinserts
  refine ⟨h.nodup.erase _, fun text => ?_, ?_⟩
  · rw [h.nodup.mem_erase_iff, h.mem, recordedIn]
    split_ifs with hsame
    · simp [hsame.2.2, hforgets]
    · refine and_iff_right fun htext => hsame ⟨rfl, rfl, htext.symm⟩
  · refine (h.order.sublist List.erase_sublist).imp fun hlt => ?_
    rwa [hinserted, hinserted]

/-- The keys under which a log has inserted something, in the order of the first insertions. -/
structure Opens (side : Side) (log : List Request) (keys : List String) : Prop where
  nodup : keys.Nodup
  mem : ∀ key, key ∈ keys ↔ openedAt side key log ≠ 0
  order : keys.Pairwise fun k k' => openedAt side k log < openedAt side k' log

theorem Opens.skip {keys : List String} (h : Opens side log keys)
    (hsame : r.side = side → r.inserts log = false) : Opens side (r :: log) keys := by
  have hopened : ∀ key, openedAt side key (r :: log) = openedAt side key log := by
    intro key
    rw [openedAt, if_neg]
    rintro ⟨-, hside, -, hinserts⟩
    rw [hsame hside] at hinserts
    cases hinserts
  exact ⟨h.nodup, fun key => by rw [h.mem, hopened],
    h.order.imp fun hlt => by rwa [hopened, hopened]⟩

theorem Opens.insert {keys : List String} (h : Opens side log keys) (hside : r.side = side)
    (hinserts : r.inserts log = true) :
    Opens side (r :: log)
      (if r.url.serviceKey ∈ keys then keys else keys ++ [r.url.serviceKey]) := by
  have hold : ∀ key, openedAt side key log ≠ 0 →
      openedAt side key (r :: log) = openedAt side key log := by
    intro key hopened
    rw [openedAt, if_neg fun hnew => hopened hnew.1]
  have hother : ∀ key, r.url.serviceKey ≠ key →
      openedAt side key (r :: log) = openedAt side key log := by
    intro key hkey
    rw [openedAt, if_neg fun hnew => hkey hnew.2.2.1]
  have horder : keys.Pairwise fun k k' =>
      openedAt side k (r :: log) < openedAt side k' (r :: log) :=
    h.order.imp_of_mem fun hk hk' hlt => by
      rwa [hold _ ((h.mem _).1 hk), hold _ ((h.mem _).1 hk')]
  split_ifs with hknown
  · refine ⟨h.nodup, fun key => ?_, horder⟩
    by_cases hkey : r.url.serviceKey = key
    · subst hkey
      rw [hold _ ((h.mem _).1 hknown), h.mem]
    · rw [hother key hkey, h.mem]
  · have hzero : openedAt side r.url.serviceKey log = 0 := by
      rwa [h.mem, not_not] at hknown
    have hnew : openedAt side r.url.serviceKey (r :: log) = log.length + 1 := by
      rw [openedAt, if_pos ⟨hzero, hside, rfl, hinserts⟩]
    refine ⟨List.concat_eq_append ▸ h.nodup.concat hknown, fun key => ?_, ?_⟩
    · rw [List.mem_append, List.mem_singleton]
      by_cases hkey : r.url.serviceKey = key
      · subst hkey
        simp [hnew]
      · rw [hother key hkey, h.mem]
        exact or_iff_left (Ne.symm hkey)
    · rw [List.pairwise_append]
      refine ⟨horder, List.pairwise_singleton _ _, ?_⟩
      intro k hk k' hk'
      rw [List.mem_singleton] at hk'
      subst hk'
      rw [hold _ ((h.mem _).1 hk), hnew]
      exact Nat.lt_succ_of_le (openedAt_le _ _ _)

/-- A table is what a log leaves in it. -/
structure Follows (side : Side) (log : List Request) (t : UrlTable) : Prop where
  coupled : t.Coupled
  opens : Opens side log t.keyOrder
  lists : ∀ key, Lists side key log (t.get key)

namespace Follows

variable {t : UrlTable}

theorem empty (side : Side) : Follows side [] .empty where
  coupled := UrlTable.coupled_empty
  opens := ⟨List.nodup_nil, fun _ => by simp [UrlTable.empty, openedAt], List.Pairwise.nil⟩
  lists _ := ⟨List.nodup_nil, fun _ => by simp [recordedIn], List.Pairwise.nil⟩

/-- A request on the other table is as good as none. -/
theorem other (h : Follows side log t) (hside : r.side ≠ side) : Follows side (r :: log) t where
  coupled := h.coupled
  opens := h.opens.skip fun hsame => absurd hsame hside
  lists key := (h.lists key).skip fun _ habout => absurd habout.1 hside

theorem inserts_iff (h : Follows side log t) (hside : r.side = side) :
    r.inserts log = true ↔ r.records = true ∧ r.url.fullString ∉ t.get r.url.serviceKey := by
  rw [(h.lists _).mem, Request.inserts, hside]
  simp

theorem add (h : Follows side log t) (hside : r.side = side) (hrecords : r.records = true) :
    Follows side (r :: log) (t.add r.url).2 where
  coupled := h.coupled.add r.url
  opens := by
    rw [UrlTable.keyOrder_add, h.coupled.keyOrder_opened]
    by_cases hknown : r.url.fullString ∈ t.get r.url.serviceKey
    · rw [enlist, if_pos (h.coupled.mem_keyOrder_of_mem_get hknown)]
      refine h.opens.skip fun _ => ?_
      rw [← Bool.not_eq_true, h.inserts_iff hside]
      exact fun hnew => hnew.2 hknown
    · exact h.opens.insert hside ((h.inserts_iff hside).2 ⟨hrecords, hknown⟩)
  lists key := by
    rw [UrlTable.get_add]
    split_ifs with hnew
    · exact (h.lists key).add hside hnew.1 hrecords hnew.2
    · refine (h.lists key).skip ?_
      rintro text ⟨-, hkey, rfl⟩
      rw [hrecords, ← (h.lists key).mem]
      exact Decidable.byContradiction fun habsent => hnew ⟨hkey, habsent⟩

theorem remove (h : Follows side log t) (hside : r.side = side) (hforgets : r.records = false) :
    Follows side (r :: log) (t.remove r.url).2 where
  coupled := h.coupled.remove r.url
  opens := by
    rw [UrlTable.keyOrder_remove]
    exact h.opens.skip fun _ => by simp [Request.inserts, hforgets]
  lists key := by
    rw [UrlTable.get_remove]
    split_ifs with hkey
    · exact (h.lists key).erase hside hkey hforgets
    · exact (h.lists key).skip fun _ habout => absurd habout.2.1 hkey

theorem edit (h : Follows side log t) (hside : r.side = side) :
    Follows side (r :: log) (r.edit t).2 := by
  unfold Request.edit
  cases hrecords : r.records with
  | true => exact h.add hside hrecords
  | false => exact h.remove hside hrecords

end Follows

/-! ## Stores and their logs -/

/-- The log of the requests that a store has had since it was made.  Whatever else happens to
the world, the store changes by its requests only. -/
inductive Logged (m : Ref .metadata) : List Request → World κ → Prop
  | created (name : String) (w : World κ) (hid : w.result (create name) = m) :
    Logged m [] (w.after (create name))
  | call {log : List Request} {w : World κ} (r : Request) (h : Logged m log w) :
    Logged m (r :: log) (w.after (r.perform m))
  | meanwhile {log : List Request} {w w' : World κ} (h : Logged m log w)
    (hsame : w'.store m = w.store m) : Logged m log w'

theorem Logged.follows {m : Ref .metadata} {w : World κ} (h : Logged m log w) (side : Side) :
    Follows side log ((w.store m).table side) := by
  induction h with
  | created name w hid =>
    rw [store_after_create name w hid]
    cases side
    · exact .empty _
    · exact .empty _
  | call r _ ih =>
    rw [Request.table_after_perform]
    split_ifs with hside
    · exact ih.edit hside
    · exact ih.other hside
  | meanwhile _ hsame ih =>
    rw [hsame]
    exact ih

/-- The listings of a store after any calls on it.  In each table the order of keys has the keys
of the map, each once.  It lists, under the keys in the order of their first insertions, the
recorded strings in the order of their latest ones.  Calls answer whether they change anything, a
URL that has just been exported is found by its interface, group and version, and no call touches
another table or another key. -/
theorem listings_of_logged {m : Ref .metadata} {log : List Request} {w : World κ}
    (h : Logged m log w) :
    (∀ side, ((w.store m).table side).Coupled ∧ Opens side log ((w.store m).table side).keyOrder ∧
      ∀ key, Lists side key log (((w.store m).table side).get key)) ∧
    (∀ side u, w.result (Request.perform m ⟨side, true, u⟩) = true ↔
      u.fullString ∉ ((w.store m).table side).get u.serviceKey) ∧
    (∀ side u, w.result (Request.perform m ⟨side, false, u⟩) = true ↔
      u.fullString ∈ ((w.store m).table side).get u.serviceKey) ∧
    (∀ interface group version, (w.store m).exportedUrls interface group version =
      if interface = anyInterface then
        (w.store m).exported.keyOrder.flatMap (w.store m).exported.get
      else (w.store m).exported.get (serviceKey interface group version)) ∧
    (w.store m).subscribedUrls =
      (w.store m).subscribed.keyOrder.flatMap (w.store m).subscribed.get ∧
    (∀ u, u.fullString ∈ ((w.after (exportUrl m u)).store m).exportedUrls u.serviceInterface
      u.group u.version) ∧
    ∀ (r : Request) side key, ¬(r.side = side ∧ r.url.serviceKey = key) →
      (((w.after (r.perform m)).store m).table side).get key =
        ((w.store m).table side).get key := by
  refine ⟨fun side => ⟨(h.follows side).coupled, (h.follows side).opens, (h.follows side).lists⟩,
    ?_, ?_, ?_, ?_, ?_, ?_⟩
  · intro side u
    rw [Request.result_perform, Request.edit, if_pos rfl, UrlTable.add_fst]
  · intro side u
    rw [Request.result_perform, Request.edit, if_neg Bool.false_ne_true, UrlTable.remove_fst]
  · intro interface group version
    rw [exportedUrls, UrlTable.all]
  · rw [subscribedUrls, UrlTable.all]
  · intro u
    have hcall : Logged m (⟨.exported, true, u⟩ :: log) (w.after (exportUrl m u)) :=
      h.call ⟨.exported, true, u⟩
    have hfollows := hcall.follows .exported
    have hget : u.fullString ∈ ((w.after (exportUrl m u)).store m).exported.get u.serviceKey := by
      refine ((hfollows.lists u.serviceKey).mem u.fullString).2 ?_
      rw [recordedIn, if_pos ⟨rfl, rfl, rfl⟩]
    rw [exportedUrls]
    split_ifs
    · exact (hfollows.coupled.mem_all _).2 ⟨_, hget⟩
    · exact hget
  · intro r side key hother
    rw [Request.table_after_perform]
    split_ifs with hside
    · exact Request.get_edit_of_ne (fun hkey => hother ⟨hside, hkey⟩) _
    · rfl

/-! ## A URL that is exported again -/

section Reexported

def urlA : Url := .ofParts "a" "h" none "Svc"

def urlB : Url := .ofParts "b" "h" none "Svc"

def groupedUrl : Url := urlA.withParameter Url.groupKey "g"

/-- The latest request stands first: `urlA` is forgotten, and recorded again behind
`urlB`. -/
def reexports : List Request :=
  [⟨.exported, true, urlA⟩, ⟨.subscribed, true, urlA⟩, ⟨.exported, false, urlA⟩,
    ⟨.exported, true, urlB⟩, ⟨.exported, true, urlA⟩, ⟨.exported, false, groupedUrl⟩,
    ⟨.exported, true, groupedUrl⟩]

/-- The world in which the requests have been made. -/
def reexported : World Unit :=
  reexports.foldr (fun r w => w.after (r.perform ⟨0⟩)) ((World.initial ()).after (create "app"))

theorem reexported_logged : Logged ⟨0⟩ reexports reexported :=
  (((((((Logged.created "app" (World.initial ()) rfl).call _).call _).call _).call _).call _).call
    _).call _

theorem listings_of_logged_reexported :
    Logged ⟨0⟩ reexports reexported ∧
      (reexported.store ⟨0⟩).exported.get "Svc" = [urlB.fullString, urlA.fullString] ∧
      Lists .exported "Svc" reexports [urlB.fullString, urlA.fullString] ∧
      (reexported.store ⟨0⟩).exported.keyOrder = ["g/Svc", "Svc"] ∧
      Opens .exported reexports ["g/Svc", "Svc"] := by
  obtain ⟨-, hopens, hlists⟩ := (listings_of_logged reexported_logged).1 .exported
  have hkeys : (reexported.store ⟨0⟩).exported.keyOrder = ["g/Svc", "Svc"] := by decide +kernel
  have hlist : (reexported.store ⟨0⟩).exported.get "Svc" =
      [urlB.fullString, urlA.fullString] := by decide +kernel
  rw [table, hkeys] at hopens
  refine ⟨reexported_logged, hlist, ?_, hkeys, hopens⟩
  have hsvc := hlists "Svc"
  rwa [table, hlist] at hsvc

end Reexported

end MetadataStore

end ServiceDirectory
