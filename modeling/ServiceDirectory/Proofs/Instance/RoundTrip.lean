import Mathlib.Data.List.Perm.Basic
import ServiceDirectory.Instance.Json
import ServiceDirectory.Proofs.Json.Documents

/-!
# Instances come back from their documents

The compact text of an instance is read as that instance.  So is every other object that tells its
fields: the members and the metadata may stand in any order, strings may be spelled in any way,
any JSON may stand under other names, and a field that has its default may be left out.
-/

namespace ServiceDirectory

open Json

namespace SortedMap

theorem insert_insert_comm (m : SortedMap) {k k' : String} (h : k ≠ k') (v v' : String) :
    (m.insert k v).insert k' v' = (m.insert k' v').insert k v := by
  refine eq_of_get?_eq fun q => ?_
  rw [get?_insert, get?_insert, get?_insert, get?_insert]
  by_cases hq : k' = q
  · subst hq
    rw [if_pos rfl, if_neg h, if_pos rfl]
  · rw [if_neg hq, if_neg hq]

/-- Entries with ascending keys are found after they have been set one by one. -/
theorem get?_foldl_insert {entries : List (String × String)}
    (h : entries.Pairwise fun a b => a.1 < b.1) (m : SortedMap) (k : String) :
    (entries.foldl (fun m entry => m.insert entry.1 entry.2) m).get? k =
      (entries.lookup k).or (m.get? k) := by
  induction entries generalizing m with
  | nil => rfl
  | cons entry entries ih =>
    obtain ⟨k₀, v₀⟩ := entry
    obtain ⟨hfirst, hrest⟩ := List.pairwise_cons.1 h
    rw [List.foldl_cons, ih hrest, get?_insert, lookup_cons_eq_ite]
    by_cases hk : k₀ = k
    · subst hk
      rw [if_pos rfl, if_pos rfl, lookup_eq_none_of_forall_lt hfirst]
      rfl
    · rw [if_neg hk, if_neg hk]

theorem ofList_entries (m : SortedMap) : ofList m.entries = m := by
  refine eq_of_get?_eq fun k => ?_
  rw [ofList, get?_foldl_insert m.ascending]
  exact Option.or_none

/-- A map is made from its entries in any order. -/
theorem ofList_of_perm {m : SortedMap} {entries : List (String × String)}
    (h : entries.Perm m.entries) : ofList entries = m := by
  have hne : m.entries.Pairwise fun a b => a.1 ≠ b.1 := by
    refine m.ascending.imp fun {a b} hlt heq => ?_
    rw [heq] at hlt
    exact String.lt_irrefl b.1 hlt
  have hnodup : (entries.map Prod.fst).Nodup :=
    (h.map Prod.fst).nodup_iff.2 (List.pairwise_map.2 hne)
  have hcomm : ∀ a ∈ entries, ∀ b ∈ entries, ∀ m : SortedMap,
      (m.insert a.1 a.2).insert b.1 b.2 = (m.insert b.1 b.2).insert a.1 a.2 := by
    intro a ha b hb m
    by_cases hab : a.1 = b.1
    · rw [List.inj_on_of_nodup_map hnodup ha hb hab]
    · exact m.insert_insert_comm hab a.2 b.2
  rw [ofList, h.foldl_eq' hcomm]
  exact ofList_entries m

end SortedMap

namespace Instance

/-- The text gives the field of a name as the instance has it; the metadata may come in any
order. -/
structure Gives (x : Instance) (name : String) (text : List Char) : Prop where
  id : name = "id" → ∃ id, x.id = some id ∧ IsString id text
  service : name = "serviceName" → IsString x.service text
  host : name = "host" → IsString x.host text
  port : name = "port" → IsNatural x.port.toNat text
  enabled : name = "enabled" → IsBoolean x.enabled text
  healthy : name = "healthy" → IsBoolean x.healthy text
  metadata : name = "metadata" → ∃ entries, entries.Perm x.metadata.entries ∧ IsTexts entries text

/-- Every field either has its name among the given ones, or it has its default. -/
structure Covered (x : Instance) (names : Finset String) : Prop where
  id : "id" ∈ names ∨ x.id = none
  service : "serviceName" ∈ names
  host : "host" ∈ names
  port : "port" ∈ names
  enabled : "enabled" ∈ names ∨ x.enabled = true
  healthy : "healthy" ∈ names ∨ x.healthy = true
  metadata : "metadata" ∈ names ∨ x.metadata = .empty

/-- The text is an object that tells the instance. -/
def Documented (x : Instance) (text : List Char) : Prop :=
  ∃ members, Tells record.names x.Gives members ∧ x.Covered (told members) ∧
    IsObject (members.map Prod.snd) text

/-- The draft that holds the fields of certain names. -/
def draft (x : Instance) (names : Finset String) : Draft where
  id := held names "id" x.id
  service := held names "serviceName" x.service
  host := held names "host" x.host
  port := held names "port" x.port
  enabled := held names "enabled" x.enabled
  healthy := held names "healthy" x.healthy
  metadata := held names "metadata" x.metadata

theorem names_record : record.names =
    ["id", "serviceName", "host", "port", "enabled", "healthy", "metadata"] := rfl

theorem drafts (x : Instance) : record.Drafts x.Gives x.draft where
  blank := by simp [draft, record]
  filled field hfield seen := by
    simp only [record, fields, List.mem_cons, List.not_mem_nil, or_false] at hfield
    rcases hfield with rfl | rfl | rfl | rfl | rfl | rfl | rfl <;> simp [draft]
  fill field hfield seen text hgives := by
    simp only [record, fields, List.mem_cons, List.not_mem_nil, or_false] at hfield
    rcases hfield with rfl | rfl | rfl | rfl | rfl | rfl | rfl
    · obtain ⟨id, hid, hstring⟩ := hgives.id rfl
      have hread := hstring.readOptionalText.map fun id => { x.draft seen with id := some id }
      simpa [draft, held_insert_of_ne, hid] using hread
    · have hread := (hgives.service rfl).readText.map
        fun service => { x.draft seen with service := some service }
      simpa [draft, held_insert_of_ne] using hread
    · have hread := (hgives.host rfl).readText.map
        fun host => { x.draft seen with host := some host }
      simpa [draft, held_insert_of_ne] using hread
    · have hread := (hgives.port rfl).readWord.map
        fun port => { x.draft seen with port := some port }
      simpa [draft, held_insert_of_ne] using hread
    · have hread := (hgives.enabled rfl).readBoolean.map
        fun enabled => { x.draft seen with enabled := some enabled }
      simpa [draft, held_insert_of_ne] using hread
    · have hread := (hgives.healthy rfl).readBoolean.map
        fun healthy => { x.draft seen with healthy := some healthy }
      simpa [draft, held_insert_of_ne] using hread
    · obtain ⟨entries, hperm, htexts⟩ := hgives.metadata rfl
      have hread := htexts.readTextMembers.map
        fun entries => { x.draft seen with metadata := some (.ofList entries) }
      simpa [draft, held_insert_of_ne, SortedMap.ofList_of_perm hperm] using hread
  other name hname seen := by
    simp only [names_record, List.mem_cons, List.not_mem_nil, or_false, not_or] at hname
    obtain ⟨h₁, h₂, h₃, h₄, h₅, h₆, h₇⟩ := hname
    simp [draft, held_insert_of_ne, Ne.symm h₁, Ne.symm h₂, Ne.symm h₃, Ne.symm h₄, Ne.symm h₅,
      Ne.symm h₆, Ne.symm h₇]

theorem firstMissing_draft {x : Instance} {names : Finset String} (h : x.Covered names) :
    firstMissing (x.draft names) 0 record.fields = none := by
  simp [firstMissing, record, fields, draft, h.service, h.host, h.port]

theorem complete_draft {x : Instance} {names : Finset String} (h : x.Covered names) :
    (x.draft names).complete = some x := by
  have hdraft : (x.draft names).complete = some {
      x with
      id := (held names "id" x.id).getD none
      enabled := (held names "enabled" x.enabled).getD true
      healthy := (held names "healthy" x.healthy).getD true
      metadata := (held names "metadata" x.metadata).getD .empty } := by
    simp only [Draft.complete, draft, held, h.service, h.host, h.port, if_true]
    rfl
  rw [hdraft, getD_held_of h.id, getD_held_of h.enabled, getD_held_of h.healthy,
    getD_held_of h.metadata]

theorem Documented.read {x : Instance} {text : List Char} (h : x.Documented text) :
    Takes record.read text x := by
  obtain ⟨members, hmembers, hcovered, hobject⟩ := h
  exact x.drafts.read hmembers hobject (firstMissing_draft hcovered) (complete_draft hcovered)

theorem isTexts_writeObject (entries : List (String × String)) :
    IsTexts entries (writeObject (entries.map fun entry => (entry.1, writeText entry.2))) := by
  refine ⟨_, ?_, isObject_writeObject _⟩
  rw [List.map_map, List.forall₂_map_right_iff, List.forall₂_same]
  exact fun entry _ => ⟨Member.names_written _, isString_writeText entry.2⟩

/-- The members of the compact text. -/
def jsonMembers (x : Instance) : List (String × List Char) :=
  (match x.id with
    | none => []
    | some id => [("id", writeText id)]) ++ [
    ("serviceName", writeText x.service),
    ("host", writeText x.host),
    ("port", writeNatural x.port.toNat),
    ("enabled", writeBoolean x.enabled),
    ("healthy", writeBoolean x.healthy),
    ("metadata", writeObject (x.metadata.entries.map fun entry => (entry.1, writeText entry.2)))]

theorem toJson_eq (x : Instance) : x.toJson.toList = writeObject x.jsonMembers :=
  String.toList_ofList

theorem gives_jsonMembers (x : Instance) :
    ∀ member ∈ x.jsonMembers, x.Gives member.1 member.2 := by
  rintro member hmember
  rcases List.mem_append.1 hmember with hmember | hmember
  · cases hid : x.id with
    | none => simp [hid] at hmember
    | some id =>
      simp only [hid, List.mem_singleton] at hmember
      subst hmember
      exact ⟨fun _ => ⟨id, hid, isString_writeText id⟩, by simp, by simp, by simp, by simp, by simp,
        by simp⟩
  · simp only [List.mem_cons, List.not_mem_nil, or_false] at hmember
    rcases hmember with rfl | rfl | rfl | rfl | rfl | rfl
    · exact ⟨by simp, fun _ => isString_writeText x.service, by simp, by simp, by simp, by simp,
        by simp⟩
    · exact ⟨by simp, by simp, fun _ => isString_writeText x.host, by simp, by simp, by simp,
        by simp⟩
    · exact ⟨by simp, by simp, by simp, fun _ => isNatural_writeNatural x.port.toNat, by simp,
        by simp, by simp⟩
    · exact ⟨by simp, by simp, by simp, by simp, fun _ => isBoolean_writeBoolean x.enabled, by simp,
        by simp⟩
    · exact ⟨by simp, by simp, by simp, by simp, by simp, fun _ => isBoolean_writeBoolean x.healthy,
        by simp⟩
    · exact ⟨by simp, by simp, by simp, by simp, by simp, by simp,
        fun _ => ⟨x.metadata.entries, .refl _, isTexts_writeObject x.metadata.entries⟩⟩

theorem map_fst_jsonMembers (x : Instance) :
    x.jsonMembers.map Prod.fst = (x.id.map fun _ => "id").toList ++
      ["serviceName", "host", "port", "enabled", "healthy", "metadata"] := by
  rw [jsonMembers, List.map_append]
  cases x.id <;> rfl

theorem documented_toJson (x : Instance) : x.Documented x.toJson.toList := by
  have hnames : (x.jsonMembers.map Prod.fst).Sublist record.names := by
    rw [map_fst_jsonMembers]
    cases x.id with
    | none => exact List.sublist_cons_self _ _
    | some id => exact List.Sublist.refl _
  refine ⟨written x.jsonMembers, tells_written_of_sublist hnames (by decide) x.gives_jsonMembers,
    ?_, x.toJson_eq ▸ isObject_written _⟩
  rw [told_written, map_fst_jsonMembers]
  refine ⟨?_, by simp, by simp, by simp, .inl (by simp), .inl (by simp), .inl (by simp)⟩
  cases x.id with
  | none => exact .inr rfl
  | some id => exact .inl (by simp)

/-- The compact text of an instance is read as the instance, and so is every other object that
tells it. -/
theorem ofJson_of_documented (x : Instance) :
    ofJson x.toJson = .ok x ∧ ∀ text, x.Documented text.toList → ofJson text = .ok x :=
  ⟨x.documented_toJson.read.readAll, fun _ h => h.read.readAll⟩

/-- An instance without an id, whose health and metadata are not the default ones. -/
private def unwell : Instance where
  id := none
  service := "orders"
  host := "h"
  port := 8080
  enabled := true
  healthy := false
  metadata := .ofList [("a", "1"), ("b", "2")]

/-- Members that tell it, with one under another name. -/
private def unwellMembers : List (String × List Char) := [
  ("metadata", writeObject [("b", writeText "2"), ("a", writeText "1")]),
  ("zone", "[\x7b\x7d]".toList),
  ("healthy", writeBoolean false),
  ("port", writeNatural 8080),
  ("host", writeText "h"),
  ("serviceName", writeText "orders")]

private theorem documented_unwell :
    unwell.Documented ("\x7b\"metadata\":\x7b\"b\":\"2\",\"a\":\"1\"\x7d,\"zone\":[\x7b\x7d]," ++
      "\"healthy\":false,\"port\":8080,\"host\":\"h\",\"serviceName\":\"orders\"\x7d").toList := by
  refine ⟨written unwellMembers, tells_written ?_ ?_ (by decide), ?_, isObject_written _⟩
  · rintro member hmember hname
    simp only [unwellMembers, List.mem_cons, List.not_mem_nil, or_false] at hmember
    rcases hmember with rfl | rfl | rfl | rfl | rfl | rfl
    · exact ⟨by simp, by simp, by simp, by simp, by simp, by simp,
        fun _ => ⟨_, by decide, isTexts_writeObject [("b", "2"), ("a", "1")]⟩⟩
    · exact absurd hname (by decide)
    · exact ⟨by simp, by simp, by simp, by simp, by simp, fun _ => isBoolean_writeBoolean false,
        by simp⟩
    · exact ⟨by simp, by simp, by simp, fun _ => isNatural_writeNatural 8080, by simp, by simp,
        by simp⟩
    · exact ⟨by simp, by simp, fun _ => isString_writeText "h", by simp, by simp, by simp, by simp⟩
    · exact ⟨by simp, fun _ => isString_writeText "orders", by simp, by simp, by simp, by simp,
        by simp⟩
  · have hzone : ∀ member ∈ unwellMembers, member.1 ∉ record.names →
        member = ("zone", "[\x7b\x7d]".toList) := by decide
    rintro member hmember hname
    rw [hzone member hmember hname]
    refine @IsJson.array ["\x7b\x7d".toList] fun item hitem => ?_
    obtain rfl := List.mem_singleton.1 hitem
    exact .emptyObject spaces_nil
  · exact ⟨.inr rfl, by decide, by decide, by decide, .inr rfl, .inl (by decide),
      .inl (by decide)⟩

theorem ofJson_of_documented_unwell :
    ofJson unwell.toJson = .ok unwell ∧
    ofJson ("\x7b\"metadata\":\x7b\"b\":\"2\",\"a\":\"1\"\x7d,\"zone\":[\x7b\x7d]," ++
      "\"healthy\":false,\"port\":8080,\"host\":\"h\",\"serviceName\":\"orders\"\x7d") =
      .ok unwell :=
  ⟨(ofJson_of_documented unwell).1, (ofJson_of_documented unwell).2 _ documented_unwell⟩

end Instance

end ServiceDirectory
