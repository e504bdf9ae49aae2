import ServiceDirectory.Json.Record
import ServiceDirectory.Proofs.Json.Reading

/-!
# The members of an object

An object is a list of members between braces.  Its first member is found as if a comma stood in
front of it, so what is proved by going through the members has no first one.  An object of texts
is read as its members in their order.
-/

namespace ServiceDirectory.Json

/-! ## The text of an object -/

/-- The key spells the name, with spaces around it at most. -/
structure Member.Names (m : Member) (name : String) : Prop where
  before : Spaces m.before
  key : Spells m.key name.toList
  after : Spaces m.after

/-- The text is the object of the members, with spaces around it at most. -/
def IsObject (members : List Member) (text : List Char) : Prop :=
  ∃ before gap after, Spaces before ∧ Spaces gap ∧ Spaces after ∧
    text = before ++ '\x7b' :: (gap ++ (commas (members.map Member.text) ++ '\x7d' :: after))

/-- The members, each with a comma in front of it. -/
def tail (members : List Member) : List Char := followed (members.map Member.text)

theorem skipSpaces_tail_cons (m : Member) (members : List Member) (rest : List Char) :
    skipSpaces (tail (m :: members) ++ rest) = ',' :: (m.text ++ (tail members ++ rest)) :=
  skipSpaces_followed_cons m.text (members.map Member.text) rest

theorem Ends.tail (members : List Member) {rest : List Char} (h : Ends rest) :
    Ends (tail members ++ rest) :=
  h.followed (members.map Member.text)

theorem tail_append (members others : List Member) :
    tail (members ++ others) = tail members ++ tail others := by
  simp only [tail, followed, List.map_append, List.flatMap_append]

theorem length_le_tail (members : List Member) : members.length ≤ (tail members).length := by
  induction members with
  | nil => exact Nat.le_refl _
  | cons m members ih =>
    simp only [Json.tail, List.map_cons, length_followed_cons, List.length_cons] at ih ⊢
    omega

theorem commas_members (m : Member) (members : List Member) :
    commas ((m :: members).map Member.text) = m.text ++ tail members := rfl

theorem length_le_commas (members : List Member) :
    members.length ≤ (commas (members.map Member.text)).length + 1 := by
  cases members with
  | nil => exact Nat.zero_le _
  | cons m members =>
    have htail := length_le_tail members
    rw [commas_members, List.length_append, List.length_cons]
    omega

/-! ## The next member -/

section Next

variable {text rest : List Char}

theorem nextMember_close (h : skipSpaces text = '\x7d' :: rest) (first : Bool) :
    nextMember first text = .ok (.close rest) := by
  rw [nextMember, h]
  rfl

theorem nextMember_comma {m : Member} (hm : Spaces m.before)
    (h : skipSpaces text = ',' :: (m.text ++ rest)) :
    nextMember false text =
      .ok (.part (m.key ++ '"' :: (m.after ++ ':' :: (m.value ++ rest)))) := by
  rw [nextMember, h]
  simp [m.skipSpaces_text hm]

theorem nextMember_first {m : Member} (hm : Spaces m.before)
    (h : skipSpaces text = skipSpaces (m.text ++ rest)) :
    nextMember true text =
      .ok (.part (m.key ++ '"' :: (m.after ++ ':' :: (m.value ++ rest)))) := by
  rw [m.skipSpaces_text hm] at h
  rw [nextMember, h]
  rfl

/-- The first member is found as if there were a comma in front of it. -/
theorem nextMember_members {members : List Member} (hfirst : ∀ m ∈ members.head?, Spaces m.before)
    {gap : List Char} (hgap : Spaces gap) (rest : List Char) :
    nextMember true (gap ++ (commas (members.map Member.text) ++ '\x7d' :: rest)) =
      nextMember false (tail members ++ '\x7d' :: rest) := by
  cases members with
  | nil =>
    have hclose : skipSpaces ('\x7d' :: rest) = '\x7d' :: rest := skipSpaces_cons (by decide) rest
    exact (nextMember_close ((skipSpaces_append hgap _).trans hclose) true).trans
      (nextMember_close hclose false).symm
  | cons m members =>
    have hm := hfirst m rfl
    rw [commas_members, List.append_assoc,
      nextMember_first hm (skipSpaces_append hgap _),
      nextMember_comma hm (skipSpaces_tail_cons m members _)]

end Next

/-- The braces of an object: behind the opening one the members are found as if there were a
comma in front of the first, and behind the closing one nothing is left but spaces. -/
theorem IsObject.spec {members : List Member} {text : List Char} (h : IsObject members text)
    (hfirst : ∀ m ∈ members.head?, Spaces m.before) (rest : List Char) :
    ∃ more r, skipSpaces (text ++ rest) = '\x7b' :: more ∧ members.length ≤ more.length ∧
      nextMember true more = nextMember false (tail members ++ '\x7d' :: r) ∧
      skipSpaces r = skipSpaces rest := by
  obtain ⟨before, gap, after, hbefore, hgap, hafter, rfl⟩ := h
  refine ⟨gap ++ (commas (members.map Member.text) ++ '\x7d' :: (after ++ rest)), after ++ rest,
    ?_, ?_, nextMember_members hfirst hgap _, skipSpaces_append hafter rest⟩
  · simp only [List.append_assoc, List.cons_append]
    rw [skipSpaces_append hbefore, skipSpaces_cons (by decide)]
  · have hlength := length_le_commas members
    simp only [List.length_append, List.length_cons]
    omega

/-! ## Objects of texts -/

/-- The text is an object that has the entries as its members, in their order. -/
def IsTexts (entries : List (String × String)) (text : List Char) : Prop :=
  ∃ members, List.Forall₂ (fun entry m => m.Names entry.1 ∧ IsString entry.2 m.value) entries
    members ∧ IsObject members text

theorem readTextMembersWithin_tail {entries : List (String × String)} {members : List Member}
    (h : List.Forall₂ (fun entry m => m.Names entry.1 ∧ IsString entry.2 m.value) entries members)
    {fuel : Nat} (hfuel : members.length < fuel) (read : List (String × String))
    {text rest : List Char}
    (htext : skipSpaces text = skipSpaces (tail members ++ '\x7d' :: rest)) :
    readTextMembersWithin fuel false read text = .ok (read.reverse ++ entries, rest) := by
  induction h generalizing fuel read text with
  | nil =>
    obtain ⟨fuel, rfl⟩ := Nat.exists_eq_add_one_of_ne_zero (Nat.ne_zero_of_lt hfuel)
    have hclose : skipSpaces text = '\x7d' :: rest :=
      htext.trans (skipSpaces_cons (by decide) rest)
    rw [readTextMembersWithin, nextMember_close hclose, List.append_nil]
    rfl
  | @cons entry m entries members hm _ ih =>
    obtain ⟨fuel, rfl⟩ := Nat.exists_eq_add_one_of_ne_zero (Nat.ne_zero_of_lt hfuel)
    obtain ⟨hnames, hvalue⟩ := hm
    rw [skipSpaces_tail_cons] at htext
    obtain ⟨r, hread, hr⟩ := hvalue.readText (tail members ++ '\x7d' :: rest)
      (Ends.tail members (ends_cons (by decide) rest))
    rw [readTextMembersWithin, nextMember_comma hnames.before htext]
    show (readStringBody (m.key ++ '"' :: _) >>= _) = _
    rw [hnames.key.readStringBody, String.ofList_toList]
    show (skipColon (m.after ++ ':' :: _) >>= _) = _
    rw [skipColon_append hnames.after]
    show (readText (m.value ++ _) >>= _) = _
    rw [hread]
    show readTextMembersWithin fuel false ((entry.1, entry.2) :: read) r = _
    rw [ih (Nat.lt_of_succ_lt_succ hfuel) _ hr, List.reverse_cons, List.append_assoc]
    rfl

theorem IsTexts.readTextMembers {entries : List (String × String)} {text : List Char}
    (h : IsTexts entries text) : Takes readTextMembers text entries := by
  obtain ⟨members, hmembers, hobject⟩ := h
  intro rest _
  have hfirst : ∀ m ∈ members.head?, Spaces m.before := by
    cases hmembers with
    | nil => exact nofun
    | cons hm _ =>
      rintro m ⟨⟩
      exact hm.1.before
  obtain ⟨more, r, hbrace, hlength, hnext, hr⟩ := hobject.spec hfirst rest
  refine ⟨r, ?_, hr⟩
  rw [Json.readTextMembers, hbrace]
  show readTextMembersWithin (more.length + 1) true [] more = _
  rw [readTextMembersWithin, hnext, ← readTextMembersWithin]
  exact readTextMembersWithin_tail hmembers (Nat.lt_succ_of_le hlength) [] rfl

/-! ## Compact objects -/

/-- A member as it is written compactly. -/
def Member.written (member : String × List Char) : Member :=
  ⟨[], member.1.toList.flatMap stringChar, [], member.2⟩

theorem Member.names_written (member : String × List Char) :
    (Member.written member).Names member.1 :=
  ⟨spaces_nil, spells_flatMap_stringChar member.1.toList, spaces_nil⟩

theorem Member.text_written (member : String × List Char) :
    (Member.written member).text = writeMember member := by
  simp [Member.written, Member.text, writeMember, writeText]

theorem isObject_writeObject (members : List (String × List Char)) :
    IsObject (members.map Member.written) (writeObject members) := by
  refine ⟨[], [], [], spaces_nil, spaces_nil, spaces_nil, ?_⟩
  cases members with
  | nil => rfl
  | cons member members =>
    rw [List.map_cons, commas_members]
    simp [writeObject, Member.text_written, tail, followed, List.flatMap_map]

end ServiceDirectory.Json
