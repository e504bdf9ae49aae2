import ServiceDirectory.Proofs.Metadata.Listing
import ServiceDirectory.Proofs.Metadata.Table
import Mathlib.Data.List.Chain

/-!
# Canonical strings as identities

A table compares strings under one service key only.  The URLs that have been read are told
apart by their strings, and so a string has one key at most and stands in the whole table at
most once.  Whether it does is decided by the latest call that changed it, and the calls that
change it take turns: one that records it, one that forgets it, and so on.
-/

namespace ServiceDirectory

namespace UrlTable

variable {t : UrlTable}

/-- No string is there twice, not even under two keys. -/
theorem Filed.nodup_all (h : t.Filed) : t.all.Nodup := by
  refine h.coupled.nodup_all h.once ?_
  intro key key' text hmem hmem'
  -- One readable URL has this string, so its key is the only one.
  obtain ⟨u, hu, rfl, rfl⟩ := h.urls key text hmem
  exact h.serviceKey_eq hu hmem'

/-- The string of a readable URL is looked for where it is, if it is anywhere. -/
theorem Filed.mem_get_serviceKey (h : t.Filed) {u : Url} (hu : u.Readable) :
    u.fullString ∈ t.get u.serviceKey ↔ u.fullString ∈ t.all := by
  rw [h.mem_all]
  constructor
  · intro hmem
    exact ⟨u.serviceKey, hmem⟩
  · rintro ⟨key, hmem⟩
    rwa [h.serviceKey_eq hu hmem]

end UrlTable

namespace MetadataStore

variable {κ : Type}

/-! ## Requests about readable URLs -/

namespace Request

variable {r : Request} {t : UrlTable}

theorem edit_filed (h : t.Filed) (hurl : r.url.Readable) : (r.edit t).2.Filed := by
  unfold edit
  split_ifs
  · exact h.add hurl
  · exact h.remove r.url

/-- A request decides whether its own string is there, and no other. -/
theorem mem_all_edit (h : t.Filed) (hurl : r.url.Readable) (text : String) :
    text ∈ (r.edit t).2.all ↔
      if text = r.url.fullString then r.records = true else text ∈ t.all := by
  unfold edit
  split_ifs with hrecords htext htext
  · simp [h.mem_all_add hurl, htext, hrecords]
  · simp [h.mem_all_add hurl, htext]
  · simp [h.mem_all_remove hurl, htext, hrecords]
  · simp [h.mem_all_remove hurl, htext]

/-- A request answers whether the string was not yet as it wants it to be. -/
theorem edit_fst (h : t.Filed) (hurl : r.url.Readable) :
    (r.edit t).1 = true ↔ ¬(r.url.fullString ∈ t.all ↔ r.records = true) := by
  unfold edit
  split_ifs with hrecords
  · rw [UrlTable.add_fst, h.mem_get_serviceKey hurl]
    simp [hrecords]
  · rw [UrlTable.remove_fst, h.mem_get_serviceKey hurl]
    simp [hrecords]

end Request

/-! ## Calls and what they answered -/

/-- The log of the calls that a store has had since it was made, each with its answer, the
latest first. -/
inductive Answered (m : Ref .metadata) : List (Request × Bool) → World κ → Prop
  | created (name : String) (w : World κ) (hid : w.result (create name) = m) :
    Answered m [] (w.after (create name))
  | call {log : List (Request × Bool)} {w : World κ} (r : Request) (h : Answered m log w) :
    Answered m ((r, w.result (r.perform m)) :: log) (w.after (r.perform m))
  | meanwhile {log : List (Request × Bool)} {w w' : World κ} (h : Answered m log w)
    (hsame : w'.store m = w.store m) : Answered m log w'

/-- What the calls that were answered with `true` made of a string in a table, the latest
first: recorded it, or forgot it. -/
def effects (side : Side) (text : String) (log : List (Request × Bool)) : List Bool :=
  (log.filter fun call => call.1.side = side ∧ call.1.url.fullString = text ∧ call.2 = true).map
    fun call => call.1.records

theorem effects_append (side : Side) (text : String) (log log' : List (Request × Bool)) :
    effects side text (log ++ log') = effects side text log ++ effects side text log' := by
  rw [effects, List.filter_append, List.map_append]
  rfl

theorem effects_cons (side : Side) (text : String) (call : Request × Bool)
    (log : List (Request × Bool)) :
    effects side text (call :: log) =
      if call.1.side = side ∧ call.1.url.fullString = text ∧ call.2 = true then
        call.1.records :: effects side text log
      else effects side text log := by
  rw [effects, List.filter_cons]
  simp only [decide_eq_true_eq]
  split_ifs <;> rfl

/-- A table of readable URLs has the strings whose latest effect was to be recorded, and the
effects on a string take turns, beginning with that one. -/
structure Marks (side : Side) (log : List (Request × Bool)) (t : UrlTable) : Prop where
  filed : t.Filed
  mem : ∀ text, text ∈ t.all ↔ (effects side text log).head? = some true
  turns : ∀ text, (effects side text log).IsChain (· ≠ ·)
  first : ∀ text, ∀ recorded ∈ (effects side text log).getLast?, recorded = true

namespace Marks

variable {side : Side} {log : List (Request × Bool)} {t : UrlTable} {r : Request}

theorem empty (side : Side) : Marks side [] .empty where
  filed := UrlTable.filed_empty
  mem text := by
    rw [UrlTable.filed_empty.mem_all]
    simp [effects]
  turns _ := List.isChain_nil
  first _ _ h := nomatch h

/-- A call on the other table has no effect on this one. -/
theorem other (h : Marks side log t) (hside : r.side ≠ side) (answer : Bool) :
    Marks side ((r, answer) :: log) t := by
  have hsame : ∀ text, effects side text ((r, answer) :: log) = effects side text log := by
    intro text
    rw [effects_cons, if_neg fun hcall => hside hcall.1]
  exact ⟨h.filed, fun text => by rw [hsame, h.mem], fun text => by rw [hsame]; exact h.turns text,
    fun text => by rw [hsame]; exact h.first text⟩

/-- A call that changes a string does not do what the latest effect on it was. -/
theorem alternates (h : Marks side log t) (hurl : r.url.Readable) (hanswer : (r.edit t).1 = true) :
    (∀ recorded ∈ (effects side r.url.fullString log).head?, r.records ≠ recorded) ∧
      (effects side r.url.fullString log = [] → r.records = true) := by
  have hchanges := (Request.edit_fst h.filed hurl).1 hanswer
  rw [h.mem] at hchanges
  constructor
  · rintro recorded hhead rfl
    rw [hhead] at hchanges
    exact hchanges (by simp)
  · intro hnone
    rw [hnone] at hchanges
    simpa using hchanges

theorem edit (h : Marks side log t) (hside : r.side = side) (hurl : r.url.Readable) :
    Marks side ((r, (r.edit t).1) :: log) (r.edit t).2 := by
  have heffects : ∀ text, effects side text ((r, (r.edit t).1) :: log) =
      if text = r.url.fullString ∧ (r.edit t).1 = true then r.records :: effects side text log
      else effects side text log := by
    intro text
    rw [effects_cons]
    simp only [hside, true_and, eq_comm]
  refine ⟨Request.edit_filed h.filed hurl, fun text => ?_, fun text => ?_, fun text => ?_⟩
  · rw [heffects, Request.mem_all_edit h.filed hurl]
    by_cases htext : text = r.url.fullString
    · subst htext
      by_cases hanswer : (r.edit t).1 = true
      · simp [hanswer]
      · have hkept := not_not.1 (mt (Request.edit_fst h.filed hurl).2 hanswer)
        rw [if_pos rfl, if_neg fun hboth => hanswer hboth.2, ← hkept, h.mem]
    · rw [if_neg htext, if_neg fun hboth => htext hboth.1, h.mem]
  · rw [heffects]
    split_ifs with hcall
    · obtain ⟨rfl, hanswer⟩ := hcall
      exact List.isChain_cons.2 ⟨(h.alternates hurl hanswer).1, h.turns _⟩
    · exact h.turns text
  · rw [heffects]
    split_ifs with hcall
    · obtain ⟨rfl, hanswer⟩ := hcall
      intro recorded hlast
      -- What nobody has recorded cannot be forgotten, so the first effect is to record.
      cases heffect : effects side r.url.fullString log with
      | nil =>
        rw [heffect, List.getLast?_singleton, Option.mem_some_iff] at hlast
        rw [← hlast]
        exact (h.alternates hurl hanswer).2 heffect
      | cons b rest =>
        rw [heffect, List.getLast?_cons_cons, ← heffect] at hlast
        exact h.first _ recorded hlast
    · exact h.first text

end Marks

variable {m : Ref .metadata} {log : List (Request × Bool)} {w : World κ}

theorem Answered.marks (h : Answered m log w) (side : Side)
    (hurls : ∀ call ∈ log, call.1.side = side → call.1.url.Readable) :
    Marks side log ((w.store m).table side) := by
  induction h with
  | created name w hid =>
    rw [store_after_create name w hid]
    cases side
    · exact .empty _
    · exact .empty _
  | call r _ ih =>
    have hearlier := ih fun call hcall => hurls call (List.mem_cons_of_mem _ hcall)
    rw [Request.table_after_perform]
    split_ifs with hside
    · rw [Request.result_perform, hside]
      exact hearlier.edit hside (hurls _ List.mem_cons_self hside)
    · exact hearlier.other hside _
  | meanwhile _ hsame ih =>
    rw [hsame]
    exact ih hurls

/-- Between two neighbouring effects that forget a string stands one that records it. -/
theorem eq_singleton_of_between {between : List Bool}
    (h : (false :: (between ++ [false])).IsChain (· ≠ ·)) (hnone : false ∉ between) :
    between = [true] := by
  match between with
  | [] => simp at h
  | [true] => rfl
  | false :: _ => simp at hnone
  | true :: false :: _ => simp at hnone
  | true :: true :: _ => simp at h

/-- Among URLs that have been read, a canonical string is an identity.  The listing of all
exports has it at most once, and has it if and only if the latest call that changed it was an
export.  These calls take turns, beginning with an export; so between two unexports, with none
between them, one export and no other call has been answered with `true`. -/
theorem exports_of_answered (h : Answered m log w)
    (hparsed : ∀ call ∈ log, call.1.side = .exported → ∃ text, Url.parse text = .ok call.1.url) :
    (w.store m).allExported.Nodup ∧
    (∀ text, text ∈ (w.store m).allExported ↔ (effects .exported text log).head? = some true) ∧
    (∀ text, (effects .exported text log).IsChain (· ≠ ·) ∧
      ∀ recorded ∈ (effects .exported text log).getLast?, recorded = true) ∧
    ∀ (text : String) (later between earlier : List (Request × Bool)) (u v : Url),
      log = later ++ (⟨.exported, false, v⟩, true) :: between ++
        (⟨.exported, false, u⟩, true) :: earlier →
      u.fullString = text → v.fullString = text → false ∉ effects .exported text between →
      effects .exported text between = [true] := by
  have hmarks : Marks .exported log (w.store m).exported := by
    refine h.marks .exported fun call hcall hside => ?_
    obtain ⟨text, hread⟩ := hparsed call hcall hside
    exact Url.readable_of_parse hread
  have hall : (w.store m).allExported = (w.store m).exported.all := rfl
  rw [hall]
  refine ⟨hmarks.filed.nodup_all, hmarks.mem,
    fun text => ⟨hmarks.turns text, hmarks.first text⟩, ?_⟩
  intro text later between earlier u v hlog hu hv hnone
  have hturns := hmarks.turns text
  have hsplit : effects .exported text log = effects .exported text later ++
      (false :: (effects .exported text between ++ [false])) ++ effects .exported text earlier := by
    rw [hlog, effects_append, effects_append, effects_cons, effects_cons, if_pos ⟨rfl, hv, rfl⟩,
      if_pos ⟨rfl, hu, rfl⟩]
    simp
  rw [hsplit] at hturns
  have hbetween := (List.isChain_append.1 (List.isChain_append.1 hturns).1).2.1
  exact eq_singleton_of_between hbetween hnone

/-! ## A string that comes and goes -/

section Returning

def returningUrl : Url := .ofParts "dubbo" "h" (some 80) "Svc"

def otherUrl : Url := .ofParts "dubbo" "h" (some 80) "Other"

/-- The calls and their answers, the latest first. -/
def returns : List (Request × Bool) :=
  [(⟨.exported, false, returningUrl⟩, true), (⟨.exported, true, returningUrl⟩, false),
    (⟨.exported, true, otherUrl⟩, true), (⟨.exported, true, returningUrl⟩, true),
    (⟨.exported, false, returningUrl⟩, false), (⟨.exported, false, returningUrl⟩, true),
    (⟨.exported, true, returningUrl⟩, true)]

/-- The world in which the calls have been made. -/
def returned : World Unit :=
  returns.foldr (fun call w => w.after (call.1.perform ⟨0⟩))
    ((World.initial ()).after (create "app"))

theorem returned_answered : Answered ⟨0⟩ returns returned :=
  (((((((Answered.created "app" (World.initial ()) rfl).call ⟨.exported, true, returningUrl⟩).call
    ⟨.exported, false, returningUrl⟩).call ⟨.exported, false, returningUrl⟩).call
    ⟨.exported, true, returningUrl⟩).call ⟨.exported, true, otherUrl⟩).call
    ⟨.exported, true, returningUrl⟩).call ⟨.exported, false, returningUrl⟩

/-- The second export of the string is the only one that counts. -/
theorem exports_of_answered_returning :
    Answered ⟨0⟩ returns returned ∧
      (∀ call ∈ returns, call.1.side = .exported → ∃ text, Url.parse text = .ok call.1.url) ∧
      (returned.store ⟨0⟩).allExported.Nodup ∧
      "dubbo://h:80/Other" ∈ (returned.store ⟨0⟩).allExported ∧
      "dubbo://h:80/Svc" ∉ (returned.store ⟨0⟩).allExported ∧
      effects .exported "dubbo://h:80/Svc" ((returns.drop 1).take 4) = [true] := by
  have hparsed : ∀ call ∈ returns, call.1.side = .exported →
      ∃ text, Url.parse text = .ok call.1.url := by
    have hread : Url.parse "dubbo://h:80/Svc" = .ok returningUrl := by decide
    have hother : Url.parse "dubbo://h:80/Other" = .ok otherUrl := by decide
    intro call hcall _
    have hurl : call.1.url = returningUrl ∨ call.1.url = otherUrl := by
      revert call
      decide
    rcases hurl with hurl | hurl
    · exact ⟨_, hurl ▸ hread⟩
    · exact ⟨_, hurl ▸ hother⟩
  obtain ⟨hnodup, hmem, -, hbetween⟩ := exports_of_answered returned_answered hparsed
  refine ⟨returned_answered, hparsed, hnodup, (hmem _).2 (by decide), ?_, ?_⟩
  · rw [hmem]
    decide
  · exact hbetween "dubbo://h:80/Svc" [] ((returns.drop 1).take 4) (returns.drop 6) returningUrl
      returningUrl rfl (by decide) (by decide) (by decide)

end Returning

end MetadataStore

end ServiceDirectory
