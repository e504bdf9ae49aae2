import ServiceDirectory.Proofs.Json.Documents
import ServiceDirectory.Settings.Json

/-!
# Settings from partial documents

A settings document tells some of the settings, at the top and inside `logging`, in any order and
with any JSON under other names between them.  It is read as the settings with those fields;
every other field has its default, also the fields of `logging` that its object does not tell.  A
setting that is told again is refused.
-/

namespace ServiceDirectory

open Json

theorem DispatchMode.takes_read {mode : DispatchMode} {text : List Char}
    (h : IsString mode.name text) : Takes DispatchMode.read text mode := by
  intro rest _
  obtain ⟨more, r, hquote, hread, hr⟩ := h.spec rest
  have hname : DispatchMode.ofName mode.name = .ok mode := by
    cases mode <;> rfl
  refine ⟨r, ?_, hr⟩
  rw [DispatchMode.read, hquote]
  show (readStringBody more >>= _) = _
  rw [hread]
  show (DispatchMode.ofName mode.name >>= _) = _
  rw [hname]
  rfl

namespace LogSettings

/-- The settings with the fields of certain names; the others have their defaults. -/
def only (c : LogSettings) (names : Finset String) : LogSettings where
  filter := if "filter" ∈ names then c.filter else ({} : LogSettings).filter
  json := if "json" ∈ names then c.json else ({} : LogSettings).json

/-- The text gives the field of a name as the settings have it. -/
structure Gives (c : LogSettings) (name : String) (text : List Char) : Prop where
  filter : name = "filter" → IsString c.filter text
  json : name = "json" → IsBoolean c.json text

/-- The draft that holds the fields of certain names. -/
def draft (c : LogSettings) (names : Finset String) : Draft where
  filter := held names "filter" c.filter
  json := held names "json" c.json

theorem settings_draft (c : LogSettings) (names : Finset String) :
    (c.draft names).settings = c.only names := by
  simp [draft, only, Draft.settings]

theorem names_record : record.names = ["filter", "json"] := rfl

theorem drafts (c : LogSettings) : record.Drafts c.Gives c.draft where
  blank := by simp [draft, record]
  filled field hfield seen := by
    simp only [record, fields, List.mem_cons, List.not_mem_nil, or_false] at hfield
    rcases hfield with rfl | rfl <;> simp [draft]
  fill field hfield seen text hgives := by
    simp only [record, fields, List.mem_cons, List.not_mem_nil, or_false] at hfield
    rcases hfield with rfl | rfl
    · have hread := (hgives.filter rfl).readText.map
        fun filter => { c.draft seen with filter := some filter }
      simpa [draft, held_insert_of_ne] using hread
    · have hread := (hgives.json rfl).readBoolean.map
        fun json => { c.draft seen with json := some json }
      simpa [draft, held_insert_of_ne] using hread
  other name hname seen := by
    simp only [names_record, List.mem_cons, List.not_mem_nil, or_false, not_or] at hname
    simp [draft, held_insert_of_ne, Ne.symm hname.1, Ne.symm hname.2]

/-- The text is an object that tells settings as `c` has them, under the given names. -/
def Documented (c : LogSettings) (names : Finset String) (text : List Char) : Prop :=
  ∃ members, Tells record.names c.Gives members ∧ told members = names ∧
    IsObject (members.map Prod.snd) text

theorem Documented.read {c : LogSettings} {names : Finset String} {text : List Char}
    (h : c.Documented names text) : Takes record.read text (c.only names) := by
  obtain ⟨members, hmembers, rfl, hobject⟩ := h
  exact c.drafts.read hmembers hobject rfl (congrArg some (c.settings_draft (told members)))

theorem documented_jsonChars (c : LogSettings) :
    c.Documented {"filter", "json"} c.jsonChars := by
  refine ⟨written [("filter", writeText c.filter), ("json", writeBoolean c.json)],
    tells_written_of_sublist (List.Sublist.refl _) (by decide) ?_, rfl, isObject_written _⟩
  rintro entry hentry
  simp only [List.mem_cons, List.not_mem_nil, or_false] at hentry
  rcases hentry with rfl | rfl
  · exact ⟨fun _ => isString_writeText c.filter, by simp⟩
  · exact ⟨by simp, fun _ => isBoolean_writeBoolean c.json⟩

end LogSettings

namespace Settings

/-- The settings with the fields of certain names, and of `logging` with the fields of the inner
names; the others have their defaults. -/
def only (c : Settings) (names inner : Finset String) : Settings where
  applicationName :=
    if "applicationName" ∈ names then c.applicationName else ({} : Settings).applicationName
  mappingGroup :=
    if "servicesMappingGroup" ∈ names then c.mappingGroup else ({} : Settings).mappingGroup
  dispatchMode := if "dispatchMode" ∈ names then c.dispatchMode else ({} : Settings).dispatchMode
  logging := if "logging" ∈ names then c.logging.only inner else ({} : Settings).logging

/-- The text gives the field of a name as the settings have it, and of `logging` the fields of
the inner names. -/
structure Gives (c : Settings) (inner : Finset String) (name : String) (text : List Char) :
    Prop where
  applicationName : name = "applicationName" → IsString c.applicationName text
  mappingGroup : name = "servicesMappingGroup" → IsString c.mappingGroup text
  dispatchMode : name = "dispatchMode" → IsString c.dispatchMode.name text
  logging : name = "logging" → c.logging.Documented inner text

/-- The draft that holds the fields of certain names. -/
def draft (c : Settings) (inner names : Finset String) : Draft where
  applicationName := held names "applicationName" c.applicationName
  mappingGroup := held names "servicesMappingGroup" c.mappingGroup
  dispatchMode := held names "dispatchMode" c.dispatchMode
  logging := held names "logging" (c.logging.only inner)

theorem settings_draft (c : Settings) (inner names : Finset String) :
    (c.draft inner names).settings = c.only names inner := by
  simp [draft, only, Draft.settings]

theorem names_record :
    record.names = ["applicationName", "servicesMappingGroup", "dispatchMode", "logging"] := rfl

theorem drafts (c : Settings) (inner : Finset String) :
    record.Drafts (c.Gives inner) (c.draft inner) where
  blank := by simp [draft, record]
  filled field hfield seen := by
    simp only [record, fields, List.mem_cons, List.not_mem_nil, or_false] at hfield
    rcases hfield with rfl | rfl | rfl | rfl <;> simp [draft]
  fill field hfield seen text hgives := by
    simp only [record, fields, List.mem_cons, List.not_mem_nil, or_false] at hfield
    rcases hfield with rfl | rfl | rfl | rfl
    · have hread := (hgives.applicationName rfl).readText.map
        fun name => { c.draft inner seen with applicationName := some name }
      simpa [draft, held_insert_of_ne] using hread
    · have hread := (hgives.mappingGroup rfl).readText.map
        fun group => { c.draft inner seen with mappingGroup := some group }
      simpa [draft, held_insert_of_ne] using hread
    · have hread := (DispatchMode.takes_read (hgives.dispatchMode rfl)).map
        fun mode => { c.draft inner seen with dispatchMode := some mode }
      simpa [draft, held_insert_of_ne] using hread
    · have hread := (hgives.logging rfl).read.map
        fun logging => { c.draft inner seen with logging := some logging }
      simpa [draft, held_insert_of_ne] using hread
  other name hname seen := by
    simp only [names_record, List.mem_cons, List.not_mem_nil, or_false, not_or] at hname
    obtain ⟨hname₁, hname₂, hname₃, hname₄⟩ := hname
    simp [draft, held_insert_of_ne, Ne.symm hname₁, Ne.symm hname₂, Ne.symm hname₃,
      Ne.symm hname₄]

/-- The text is an object that tells settings as `c` has them: those of the given names, and of
`logging` those of the inner names. -/
def Documented (c : Settings) (names inner : Finset String) (text : List Char) : Prop :=
  ∃ members, Tells record.names (c.Gives inner) members ∧ told members = names ∧
    IsObject (members.map Prod.snd) text

theorem Documented.read {c : Settings} {names inner : Finset String} {text : List Char}
    (h : c.Documented names inner text) : Takes record.read text (c.only names inner) := by
  obtain ⟨members, hmembers, rfl, hobject⟩ := h
  exact (c.drafts inner).read hmembers hobject rfl
    (congrArg some (c.settings_draft inner (told members)))

theorem documented_toJson (c : Settings) :
    c.Documented {"applicationName", "servicesMappingGroup", "dispatchMode", "logging"}
      {"filter", "json"} c.toJson.toList := by
  refine ⟨written [("applicationName", writeText c.applicationName),
      ("servicesMappingGroup", writeText c.mappingGroup),
      ("dispatchMode", writeText c.dispatchMode.name), ("logging", c.logging.jsonChars)],
    tells_written_of_sublist (List.Sublist.refl _) (by decide) ?_, rfl, ?_⟩
  · rintro entry hentry
    simp only [List.mem_cons, List.not_mem_nil, or_false] at hentry
    rcases hentry with rfl | rfl | rfl | rfl
    · exact ⟨fun _ => isString_writeText c.applicationName, by simp, by simp, by simp⟩
    · exact ⟨by simp, fun _ => isString_writeText c.mappingGroup, by simp, by simp⟩
    · exact ⟨by simp, by simp, fun _ => isString_writeText c.dispatchMode.name, by simp⟩
    · exact ⟨by simp, by simp, by simp, fun _ => c.logging.documented_jsonChars⟩
  · rw [toJson, String.toList_ofList]
    exact isObject_written _

/-- The text is an object that tells settings as `c` has them, and then one of them again, at the
top or inside `logging`. -/
inductive Repeated (c : Settings) (name : String) (text : List Char) : Prop
  | top {inner : Finset String} (h : Repeats record.names (c.Gives inner) name text)
  | inside {inner : Finset String} {members : List (String × Member)} {m : Member}
    {others : List Member} (hmembers : Tells record.names (c.Gives inner) members)
    (hfresh : "logging" ∉ told members) (hm : m.Names "logging")
    (hvalue : Repeats LogSettings.record.names c.logging.Gives name m.value)
    (hobject : IsObject (members.map Prod.snd ++ m :: others) text)

theorem Repeated.read {c : Settings} {name : String} {text : List Char}
    (h : c.Repeated name text) : Refuses record.read text (.mismatch (.duplicateField name)) := by
  cases h with
  | @top inner h => exact (c.drafts inner).read_repeated h
  | @inside inner members m others hmembers hfresh hm hvalue hobject =>
    have hinner := c.logging.drafts.read_repeated hvalue
    refine (c.drafts inner).read_refused hmembers (by simp [names_record])
      hfresh hm (fun field hfield hname => ?_) hobject
    simp only [record, fields, List.mem_cons, List.not_mem_nil, or_false] at hfield
    rcases hfield with rfl | rfl | rfl | rfl
    · simp at hname
    · simp at hname
    · simp at hname
    · exact hinner.map fun logging =>
        { c.draft inner (told members) with logging := some logging }

/-- A document is read as the settings that it tells, with defaults for the others; the full
document of settings is read as them; a document that tells a setting again is refused. -/
theorem ofJson_documents (c : Settings) :
    (∀ names inner text, c.Documented names inner text.toList →
      ofJson text = .ok (c.only names inner)) ∧
    ofJson c.toJson = .ok c ∧
    ∀ name text, c.Repeated name text.toList →
      ofJson text = .error (.mismatch (.duplicateField name)) := by
  have hdocuments : ∀ names inner text, c.Documented names inner text.toList →
      ofJson text = .ok (c.only names inner) := fun _ _ _ h => h.read.readAll
  refine ⟨hdocuments, ?_, fun name text h => h.read.readAll⟩
  rw [hdocuments _ _ _ c.documented_toJson]
  simp [only, LogSettings.only]

/-- Settings of which documents tell a part. -/
private def sample : Settings where
  applicationName := "shop"
  dispatchMode := .async
  logging := { filter := "debug", json := true }

private theorem documented_logging :
    sample.logging.Documented {"json"} "\x7b\"json\":true\x7d".toList := by
  refine ⟨written [("json", writeBoolean true)],
    tells_written_of_sublist (by decide) (by decide) ?_, rfl, isObject_written _⟩
  rintro entry hentry
  obtain rfl := List.mem_singleton.1 hentry
  exact ⟨by simp, fun _ => isBoolean_writeBoolean true⟩

private theorem documented_part :
    sample.Documented {"x", "logging", "dispatchMode"} {"json"}
      "\x7b\"x\":[[]],\"logging\":\x7b\"json\":true\x7d,\"dispatchMode\":\"async\"\x7d".toList := by
  refine ⟨written [("x", "[[]]".toList), ("logging", "\x7b\"json\":true\x7d".toList),
    ("dispatchMode", writeText "async")], tells_written ?_ ?_ (by decide), rfl, isObject_written _⟩
  · rintro entry hentry hname
    simp only [List.mem_cons, List.not_mem_nil, or_false] at hentry
    rcases hentry with rfl | rfl | rfl
    · exact absurd hname (by decide)
    · exact ⟨by simp, by simp, by simp, fun _ => documented_logging⟩
    · exact ⟨by simp, by simp, fun _ => isString_writeText "async", by simp⟩
  · have hother : ∀ entry ∈ [("x", "[[]]".toList), ("logging", "\x7b\"json\":true\x7d".toList),
        ("dispatchMode", writeText "async")], entry.1 ∉ record.names →
        entry = ("x", "[[]]".toList) := by decide
    rintro entry hentry hname
    rw [hother entry hentry hname]
    refine @IsJson.array ["[]".toList] fun item hitem => ?_
    obtain rfl := List.mem_singleton.1 hitem
    exact .emptyArray spaces_nil

private theorem repeated_mode :
    sample.Repeated "dispatchMode"
      "\x7b\"dispatchMode\":\"async\",\"dispatchMode\":\"direct\"\x7d".toList := by
  refine @Repeated.top _ _ _ ∅ ⟨written [("dispatchMode", writeText "async")],
    .written ("dispatchMode", writeText "direct"), [],
    tells_written_of_sublist (by decide) (by decide) ?_, by decide, by decide,
    Member.names_written _, isObject_writeObject
      [("dispatchMode", writeText "async"), ("dispatchMode", writeText "direct")]⟩
  rintro entry hentry
  obtain rfl := List.mem_singleton.1 hentry
  exact ⟨by simp, by simp, fun _ => isString_writeText "async", by simp⟩

private theorem repeated_json :
    sample.Repeated "json"
      "\x7b\"logging\":\x7b\"json\":true,\"json\":true\x7d\x7d".toList := by
  have hinner : Repeats LogSettings.record.names sample.logging.Gives "json"
      "\x7b\"json\":true,\"json\":true\x7d".toList := by
    refine ⟨written [("json", writeBoolean true)], .written ("json", writeBoolean true), [],
      tells_written_of_sublist (by decide) (by decide) ?_, by decide, by decide,
      Member.names_written _, isObject_writeObject
        [("json", writeBoolean true), ("json", writeBoolean true)]⟩
    rintro entry hentry
    obtain rfl := List.mem_singleton.1 hentry
    exact ⟨by simp, fun _ => isBoolean_writeBoolean true⟩
  have htells : Tells record.names (sample.Gives ∅) [] := ⟨nofun, nofun, nofun, by simp⟩
  exact .inside htells (by decide) (Member.names_written ("logging", _)) hinner
    (isObject_writeObject [("logging", "\x7b\"json\":true,\"json\":true\x7d".toList)])

theorem ofJson_sample_documents :
    ofJson "\x7b\"x\":[[]],\"logging\":\x7b\"json\":true\x7d,\"dispatchMode\":\"async\"\x7d" =
      .ok { dispatchMode := .async, logging := { json := true } } ∧
    ofJson "\x7b\"dispatchMode\":\"async\",\"dispatchMode\":\"direct\"\x7d" =
      .error (.mismatch (.duplicateField "dispatchMode")) ∧
    ofJson "\x7b\"logging\":\x7b\"json\":true,\"json\":true\x7d\x7d" =
      .error (.mismatch (.duplicateField "json")) := by
  obtain ⟨hdocuments, -, hrepeated⟩ := ofJson_documents sample
  refine ⟨?_, hrepeated _ _ repeated_mode, hrepeated _ _ repeated_json⟩
  rw [hdocuments _ _ _ documented_part]
  rfl

end Settings

end ServiceDirectory
