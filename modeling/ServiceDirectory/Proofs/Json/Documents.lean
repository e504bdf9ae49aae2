import Mathlib.Data.Finset.Dedup
import Mathlib.Data.Finset.Lattice.Lemmas
import ServiceDirectory.Proofs.Json.Members

/-!
# Records from members in any order

The members of an object tell the fields of a record by name, in any order, with any JSON under
other names between them.  The draft that is read depends only on the names that have been told:
`Record.Drafts` says so of a single member, and `Record.Drafts.read` of a whole object.  A name
that is told twice is refused.
-/

namespace ServiceDirectory.Json

/-- Members under the names that their keys spell, as they tell the fields of a record: the
named fields once each, in any order, by texts that give them, and any JSON under other names. -/
structure Tells (names : List String) (gives : String → List Char → Prop)
    (members : List (String × Member)) : Prop where
  spelled : ∀ p ∈ members, p.2.Names p.1
  known : ∀ p ∈ members, p.1 ∈ names → gives p.1 p.2.value
  other : ∀ p ∈ members, p.1 ∉ names → IsJson p.2.value
  once : ∀ name ∈ names, (members.map Prod.fst).count name ≤ 1

/-- The names under which members stand. -/
def told (members : List (String × Member)) : Finset String := (members.map Prod.fst).toFinset

theorem mem_told_iff {members : List (String × Member)} {name : String} :
    name ∈ told members ↔ ∃ m, (name, m) ∈ members := by
  simp [told]

theorem told_cons (p : String × Member) (members : List (String × Member)) :
    told (p :: members) = insert p.1 (told members) := by
  simp [told]

section Tells

variable {names : List String} {gives : String → List Char → Prop}
  {members : List (String × Member)} {p : String × Member}

theorem Tells.of_cons (h : Tells names gives (p :: members)) : Tells names gives members where
  spelled q hq := h.spelled q (List.mem_cons_of_mem _ hq)
  known q hq := h.known q (List.mem_cons_of_mem _ hq)
  other q hq := h.other q (List.mem_cons_of_mem _ hq)
  once name hname := by
    have hcount := h.once name hname
    rw [List.map_cons, List.count_cons] at hcount
    omega

theorem Tells.not_mem_told (h : Tells names gives (p :: members)) (hp : p.1 ∈ names) :
    p.1 ∉ told members := by
  have hcount := h.once p.1 hp
  rw [List.map_cons, List.count_cons_self] at hcount
  rw [told, List.mem_toFinset]
  exact List.count_eq_zero.1 (by omega)

end Tells

/-- The text is an object that tells fields of a record and then one of them again.  Behind the
key that comes again anything may stand. -/
def Repeats (names : List String) (gives : String → List Char → Prop) (name : String)
    (text : List Char) : Prop :=
  ∃ members m others, Tells names gives members ∧ name ∈ names ∧ name ∈ told members ∧
    m.Names name ∧ IsObject (members.map Prod.snd ++ m :: others) text

/-! ## Compact records -/

/-- Members as they are written compactly, under their names. -/
def written (entries : List (String × List Char)) : List (String × Member) :=
  entries.map fun entry => (entry.1, Member.written entry)

theorem map_fst_written (entries : List (String × List Char)) :
    (written entries).map Prod.fst = entries.map Prod.fst := by
  simp [written]

theorem told_written (entries : List (String × List Char)) :
    told (written entries) = (entries.map Prod.fst).toFinset := by
  rw [told, map_fst_written]

theorem isObject_written (entries : List (String × List Char)) :
    IsObject ((written entries).map Prod.snd) (writeObject entries) := by
  have hmembers : (written entries).map Prod.snd = entries.map Member.written := by
    simp [written]
  exact hmembers ▸ isObject_writeObject entries

theorem tells_written {names : List String} {gives : String → List Char → Prop}
    {entries : List (String × List Char)}
    (hknown : ∀ entry ∈ entries, entry.1 ∈ names → gives entry.1 entry.2)
    (hother : ∀ entry ∈ entries, entry.1 ∉ names → IsJson entry.2)
    (honce : ∀ name ∈ names, (entries.map Prod.fst).count name ≤ 1) :
    Tells names gives (written entries) where
  spelled p hp := by
    obtain ⟨entry, -, rfl⟩ := List.mem_map.1 hp
    exact Member.names_written entry
  known p hp hname := by
    obtain ⟨entry, hentry, rfl⟩ := List.mem_map.1 hp
    exact hknown entry hentry hname
  other p hp hname := by
    obtain ⟨entry, hentry, rfl⟩ := List.mem_map.1 hp
    exact hother entry hentry hname
  once name hname := (map_fst_written entries).symm ▸ honce name hname

theorem tells_written_of_sublist {names : List String} {gives : String → List Char → Prop}
    {entries : List (String × List Char)} (hnames : (entries.map Prod.fst).Sublist names)
    (hnodup : names.Nodup) (hgives : ∀ entry ∈ entries, gives entry.1 entry.2) :
    Tells names gives (written entries) := by
  refine tells_written (fun entry hentry _ => hgives entry hentry) (fun entry hentry hother => ?_)
    fun name _ => List.nodup_iff_count_le_one.1 (hnodup.sublist hnames) name
  exact absurd (hnames.subset (List.mem_map_of_mem hentry)) hother

/-! ## Drafts -/

/-- A field of a draft: it is held once its name has been told. -/
def held {β : Type} (names : Finset String) (name : String) (value : β) : Option β :=
  if name ∈ names then some value else none

section Held

variable {β : Type} {names : Finset String} {name : String} {value : β}

@[simp]
theorem held_empty : held ∅ name value = none := rfl

@[simp]
theorem isSome_held : (held names name value).isSome = decide (name ∈ names) := by
  unfold held
  split <;> simp [*]

@[simp]
theorem held_insert_self : held (insert name names) name value = some value :=
  if_pos (Finset.mem_insert_self name names)

theorem held_insert_of_ne {other : String} (h : name ≠ other) :
    held (insert other names) name value = held names name value := by
  simp [held, h]

@[simp]
theorem getD_held (value' : β) :
    (held names name value).getD value' = if name ∈ names then value else value' := by
  unfold held
  split <;> rfl

/-- A field that has been told, or that has its default, is read as it is. -/
theorem getD_held_of {value' : β} (h : name ∈ names ∨ value = value') :
    (held names name value).getD value' = value := by
  rcases h with h | rfl
  · rw [held, if_pos h, Option.getD_some]
  · rw [getD_held, ite_self]

end Held

/-- The names of the fields in declaration order. -/
def Record.names {δ α : Type} (record : Record δ α) : List String := record.fields.map (·.name)

/-- Drafts by the names of the fields that they hold.  Each field is filled from a text that gives
it, and nothing else is changed by that. -/
structure Record.Drafts {δ α : Type} (record : Record δ α) (gives : String → List Char → Prop)
    (draft : Finset String → δ) : Prop where
  blank : draft ∅ = record.blank
  filled : ∀ field ∈ record.fields, ∀ seen, field.filled (draft seen) = decide (field.name ∈ seen)
  fill : ∀ field ∈ record.fields, ∀ seen text, gives field.name text →
    Takes (field.fill (draft seen)) text (draft (insert field.name seen))
  other : ∀ name ∉ record.names, ∀ seen, draft (insert name seen) = draft seen

section Member

variable {δ : Type} {fields : List (RecordField δ)} {fuel : Nat} {d : δ} {m : Member}
  {name : String} {text more r : List Char}

theorem readMembersWithin_close (h : skipSpaces text = '\x7d' :: more) :
    readMembersWithin fields (fuel + 1) false d text = .ok (d, more) := by
  rw [readMembersWithin, nextMember_close h]
  rfl

theorem readMembersWithin_first {text' : List Char}
    (h : nextMember true text = nextMember false text') :
    readMembersWithin fields (fuel + 1) true d text =
      readMembersWithin fields (fuel + 1) false d text' := by
  rw [readMembersWithin, h, readMembersWithin]

/-- What a run does with a member, once its key has been read. -/
def readMember (fields : List (RecordField δ)) (fuel : Nat) (d : δ) (key : String)
    (text : List Char) : Except Fault (δ × List Char) := do
  match fields.find? (·.name == key) with
  | none =>
    let rest ← skipColon text
    let rest ← skipValue rest
    readMembersWithin fields fuel false d rest
  | some field =>
    if field.filled d then throw (.mismatch (.duplicateField key))
    let rest ← skipColon text
    let (d, rest) ← field.fill d rest
    readMembersWithin fields fuel false d rest

theorem readMembersWithin_member (hm : m.Names name)
    (htext : skipSpaces text = ',' :: (m.text ++ more)) :
    readMembersWithin fields (fuel + 1) false d text =
      readMember fields fuel d name (m.after ++ ':' :: (m.value ++ more)) := by
  rw [readMembersWithin, nextMember_comma hm.before htext]
  show (readStringBody (m.key ++ '"' :: _) >>= _) = _
  rw [hm.key.readStringBody, String.ofList_toList]
  rfl

theorem readMember_other (hm : m.Names name) (hfield : fields.find? (·.name == name) = none)
    (hskip : skipValue (m.value ++ more) = .ok r) :
    readMember fields fuel d name (m.after ++ ':' :: (m.value ++ more)) =
      readMembersWithin fields fuel false d r := by
  rw [readMember, hfield, skipColon_append hm.after]
  show (skipValue (m.value ++ more) >>= _) = _
  rw [hskip]
  rfl

theorem readMember_repeated {field : RecordField δ}
    (hfield : fields.find? (·.name == name) = some field) (hfilled : field.filled d = true) :
    readMember fields fuel d name text = .error (.mismatch (.duplicateField name)) := by
  rw [readMember, hfield]
  simp only [hfilled, if_true]
  rfl

theorem readMember_known {field : RecordField δ} (hm : m.Names name)
    (hfield : fields.find? (·.name == name) = some field) (hfilled : field.filled d = false) :
    readMember fields fuel d name (m.after ++ ':' :: (m.value ++ more)) = (do
      let (d, rest) ← field.fill d (m.value ++ more)
      readMembersWithin fields fuel false d rest) := by
  rw [readMember, hfield, skipColon_append hm.after]
  simp only [hfilled]
  rfl

end Member

/-- What becomes of a draft when its object has been closed. -/
def Record.finishObject {δ α : Type} (record : Record δ α) (read : δ × List Char) :
    Except Fault (α × List Char) := do
  let value ← record.finish read.1 fun _ name => .missingField name
  return (value, read.2)

theorem Record.read_brace {δ α : Type} (record : Record δ α) {text more : List Char}
    (h : skipSpaces text = '\x7b' :: more) :
    record.read text =
      (readMembersWithin record.fields (more.length + 1) true record.blank more >>=
        record.finishObject) := by
  rw [Record.read, h]
  rfl

theorem Record.exists_field {δ α : Type} {record : Record δ α} {name : String}
    (h : name ∈ record.names) : ∃ field ∈ record.fields,
      record.fields.find? (·.name == name) = some field ∧ field.name = name := by
  obtain ⟨field', hfield', rfl⟩ := List.mem_map.1 h
  obtain ⟨field, hfind⟩ := Option.isSome_iff_exists.1
    (List.find?_isSome (p := (·.name == field'.name)).2 ⟨field', hfield', beq_self_eq_true _⟩)
  have hname : (field.name == field'.name) = true :=
    List.find?_some (p := fun field : RecordField δ => field.name == field'.name) hfind
  exact ⟨field, List.mem_of_find?_eq_some hfind, hfind, eq_of_beq hname⟩

theorem Record.find?_eq_none {δ α : Type} {record : Record δ α} {name : String}
    (h : name ∉ record.names) : record.fields.find? (·.name == name) = none :=
  List.find?_eq_none.2 fun field hfield heq =>
    h (List.mem_map.2 ⟨field, hfield, eq_of_beq heq⟩)

namespace Record.Drafts

variable {δ α : Type} {record : Record δ α} {gives : String → List Char → Prop}
  {draft : Finset String → δ} {members : List (String × Member)}

/-- The members at the front of a run are read into the draft of their names. -/
theorem readMembersWithin_append (h : record.Drafts gives draft)
    (hmembers : Tells record.names gives members) {seen : Finset String}
    (hseen : ∀ name ∈ record.names, name ∈ told members → name ∉ seen)
    (fuel : Nat) {text more : List Char} (hmore : Ends more)
    (htext : skipSpaces text = skipSpaces (tail (members.map Prod.snd) ++ more)) :
    ∃ r, readMembersWithin record.fields (members.length + fuel) false (draft seen) text =
        readMembersWithin record.fields fuel false (draft (seen ∪ told members)) r ∧
      skipSpaces r = skipSpaces more := by
  induction members generalizing seen text with
  | nil =>
    refine ⟨text, ?_, htext⟩
    rw [List.length_nil, Nat.zero_add, told, List.map_nil, List.toFinset_nil, Finset.union_empty]
  | cons p members ih =>
    obtain ⟨name, m⟩ := p
    have hm : m.Names name := hmembers.spelled _ List.mem_cons_self
    have hends : Ends (tail (members.map Prod.snd) ++ more) := hmore.tail _
    rw [List.map_cons, skipSpaces_tail_cons] at htext
    rw [List.length_cons, Nat.add_right_comm, readMembersWithin_member hm htext, told_cons,
      Finset.union_insert, ← Finset.insert_union]
    have hrest : ∀ other ∈ record.names, other ∈ told members →
        other ∉ insert name seen := by
      intro other hother htold
      rw [Finset.mem_insert, not_or]
      refine ⟨?_, hseen other hother ?_⟩
      · rintro rfl
        exact hmembers.not_mem_told hother htold
      · rw [told_cons]
        exact Finset.mem_insert_of_mem htold
    by_cases hname : name ∈ record.names
    · obtain ⟨field, hfield, hfind, rfl⟩ := Record.exists_field hname
      have hfilled : field.filled (draft seen) = false := by
        rw [h.filled field hfield]
        exact decide_eq_false (hseen _ hname (mem_told_iff.2 ⟨m, List.mem_cons_self⟩))
      obtain ⟨r, hread, hr⟩ := h.fill field hfield seen m.value
        (hmembers.known _ List.mem_cons_self hname) _ hends
      rw [readMember_known hm hfind hfilled, hread]
      exact ih hmembers.of_cons hrest hr
    · obtain ⟨r, hskip, hr⟩ := (hmembers.other _ List.mem_cons_self hname).skipValue hends
      rw [readMember_other hm (Record.find?_eq_none hname) hskip, ← h.other name hname seen]
      exact ih hmembers.of_cons hrest hr

/-- An object is read up to the members behind those that have been told. -/
theorem read_object (h : record.Drafts gives draft)
    (hmembers : Tells record.names gives members) {others : List Member}
    (hothers : ∀ m ∈ others.head?, Spaces m.before) {text : List Char}
    (hobject : IsObject (members.map Prod.snd ++ others) text) (rest : List Char) :
    ∃ fuel r r', record.read (text ++ rest) =
        (readMembersWithin record.fields (fuel + 1) false (draft (told members)) r >>=
          record.finishObject) ∧
      skipSpaces r = skipSpaces (tail others ++ '\x7d' :: r') ∧
      skipSpaces r' = skipSpaces rest := by
  have hfirst : ∀ m ∈ (members.map Prod.snd ++ others).head?, Spaces m.before := by
    cases members with
    | nil => exact hothers
    | cons p members =>
      rintro m ⟨⟩
      exact (hmembers.spelled p List.mem_cons_self).before
  obtain ⟨more, r', hbrace, hlength, hnext, hr'⟩ := hobject.spec hfirst rest
  obtain ⟨fuel, hfuel⟩ : ∃ fuel, more.length + 1 = members.length + (fuel + 1) := by
    rw [List.length_append, List.length_map] at hlength
    exact ⟨more.length - members.length, by omega⟩
  rw [tail_append, List.append_assoc] at hnext
  have hends : Ends (tail others ++ '\x7d' :: r') := Ends.tail others (ends_cons (by decide) r')
  have hseen : ∀ name ∈ record.names, name ∈ told members →
      name ∉ (∅ : Finset String) := fun name _ _ => Finset.notMem_empty name
  obtain ⟨r, hread, hr⟩ := h.readMembersWithin_append hmembers hseen (fuel + 1) hends rfl
  refine ⟨fuel, r, r', ?_, hr, hr'⟩
  rw [record.read_brace hbrace, readMembersWithin_first hnext, hfuel, ← h.blank, hread,
    Finset.empty_union]

/-- A record is read from the members that are there, in whatever order they come. -/
theorem read (h : record.Drafts gives draft)
    (hmembers : Tells record.names gives members) {text : List Char}
    (hobject : IsObject (members.map Prod.snd) text) {value : α}
    (hmissing : firstMissing (draft (told members)) 0 record.fields = none)
    (hvalue : record.complete (draft (told members)) = some value) :
    Takes record.read text value := by
  intro rest _
  have hobject' : IsObject (members.map Prod.snd ++ []) text := by rwa [List.append_nil]
  obtain ⟨fuel, r, r', hread, hr, hr'⟩ := h.read_object hmembers (by simp) hobject' rest
  refine ⟨r', ?_, hr'⟩
  have hclose : skipSpaces r = '\x7d' :: r' := hr.trans (skipSpaces_cons (by decide) r')
  rw [hread, readMembersWithin_close hclose]
  simp only [bind, Except.bind, Record.finishObject, Record.finish, hmissing, hvalue]
  rfl

/-- A field that is told again is refused, whatever stands behind its key. -/
theorem read_repeated (h : record.Drafts gives draft) {name : String} {text : List Char}
    (hrepeats : Repeats record.names gives name text) :
    Refuses record.read text (.mismatch (.duplicateField name)) := by
  intro rest
  obtain ⟨members, m, others, hmembers, hname, htold, hm, hobject⟩ := hrepeats
  obtain ⟨fuel, r, r', hread, hr, -⟩ :=
    h.read_object hmembers (by rintro _ ⟨⟩; exact hm.before) hobject rest
  rw [skipSpaces_tail_cons] at hr
  obtain ⟨field, hfield, hfind, rfl⟩ := Record.exists_field hname
  have hfilled : field.filled (draft (told members)) = true := by
    rw [h.filled field hfield]
    exact decide_eq_true htold
  rw [hread, readMembersWithin_member hm hr, readMember_repeated hfind hfilled]
  rfl

/-- A record is refused with the first field whose text is refused. -/
theorem read_refused (h : record.Drafts gives draft)
    (hmembers : Tells record.names gives members) {name : String} (hname : name ∈ record.names)
    (htold : name ∉ told members) {m : Member} (hm : m.Names name) {fault : Fault}
    (hvalue : ∀ field ∈ record.fields, field.name = name →
      Refuses (field.fill (draft (told members))) m.value fault)
    {others : List Member} {text : List Char}
    (hobject : IsObject (members.map Prod.snd ++ m :: others) text) :
    Refuses record.read text fault := by
  intro rest
  obtain ⟨fuel, r, r', hread, hr, -⟩ :=
    h.read_object hmembers (by rintro _ ⟨⟩; exact hm.before) hobject rest
  rw [skipSpaces_tail_cons] at hr
  obtain ⟨field, hfield, hfind, rfl⟩ := Record.exists_field hname
  have hfilled : field.filled (draft (told members)) = false := by
    rw [h.filled field hfield]
    exact decide_eq_false htold
  rw [hread, readMembersWithin_member hm hr, readMember_known hm hfind hfilled,
    hvalue field hfield rfl]
  rfl

end Record.Drafts

end ServiceDirectory.Json
