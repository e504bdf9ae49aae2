import ServiceDirectory.Text.Split
import ServiceDirectory.Url.ServiceKey

/-!
# What a service key tells of its parts

A service key is glued from a group, an interface and a version, and nothing in it tells the
separators from the same characters within a part.  Two keys tell their parts apart when the
interfaces hold no separator and never the one group holds a colon while the other version
holds a slash.
-/

namespace ServiceDirectory.ServiceKey

/-- A group or a version; an empty one counts as none. -/
def given (part : Option String) : Option String := part.filter (· ≠ "")

/-- The characters in front of the interface. -/
def groupChars (group : Option String) : List Char :=
  match given group with
  | some group => group.toList ++ ['/']
  | none => []

/-- The characters behind the interface. -/
def versionChars (version : Option String) : List Char :=
  match given version with
  | some version => ':' :: version.toList
  | none => []

theorem toList_serviceKey (interface : String) (group version : Option String) :
    (serviceKey interface group version).toList =
      groupChars group ++ interface.toList ++ versionChars version := by
  unfold serviceKey groupChars versionChars given
  cases group.filter (· ≠ "") <;> cases version.filter (· ≠ "") <;> simp

/-- A mark occurs in none of the texts that a part may hold. -/
def Lacks (mark : Char) (part : Option String) : Prop := ∀ text ∈ part, mark ∉ text.toList

instance (mark : Char) (part : Option String) : Decidable (Lacks mark part) :=
  inferInstanceAs (Decidable (∀ text ∈ part, _))

theorem mem_of_given {part : Option String} {text : String} (h : given part = some text) :
    text ∈ part :=
  (Option.filter_eq_some_iff.1 h).1

/-- Before a text without a slash, the group ends at the last slash. -/
theorem cutLast_groupChars (group : Option String) {rest : List Char} (h : '/' ∉ rest) :
    Text.cutLast '/' (groupChars group ++ rest) =
      (given group).map fun group => (group.toList, rest) := by
  unfold groupChars
  cases given group with
  | none => exact Text.cutLast_eq_none_iff.2 h
  | some text => simpa using Text.cutLast_append text.toList h

/-- Behind a text without a colon, the version begins at the first colon. -/
theorem cutFirst_versionChars (version : Option String) {front : List Char} (h : ':' ∉ front) :
    Text.cutFirst ':' (front ++ versionChars version) =
      (given version).map fun version => (front, version.toList) := by
  unfold versionChars
  cases given version with
  | none => simpa using Text.cutFirst_eq_none_iff.2 h
  | some text => exact Text.cutFirst_append text.toList h

theorem groupChars_inj {group group' : Option String} {rest rest' : List Char} (h : '/' ∉ rest)
    (h' : '/' ∉ rest') (hsame : groupChars group ++ rest = groupChars group' ++ rest') :
    given group = given group' ∧ rest = rest' := by
  have hcut := cutLast_groupChars group h
  rw [hsame, cutLast_groupChars group' h'] at hcut
  unfold groupChars at hsame
  cases hgroup : given group <;> cases hgroup' : given group' <;> simp_all [String.toList_inj]

theorem versionChars_inj {version version' : Option String} {front front' : List Char}
    (h : ':' ∉ front) (h' : ':' ∉ front')
    (hsame : front ++ versionChars version = front' ++ versionChars version') :
    front = front' ∧ given version = given version' := by
  have hcut := cutFirst_versionChars version h
  rw [hsame, cutFirst_versionChars version' h'] at hcut
  unfold versionChars at hsame
  cases hversion : given version <;> cases hversion' : given version' <;>
    simp_all [String.toList_inj]

theorem slash_not_mem_versionChars {version : Option String} (h : Lacks '/' version) :
    '/' ∉ versionChars version := by
  unfold versionChars
  cases hversion : given version with
  | none => simp
  | some text => simpa using h text (mem_of_given hversion)

theorem colon_not_mem_groupChars {group : Option String} (h : Lacks ':' group) :
    ':' ∉ groupChars group := by
  unfold groupChars
  cases hgroup : given group with
  | none => simp
  | some text => simpa using h text (mem_of_given hgroup)

/-- A text without separators. -/
def IsPlain (text : String) : Prop := '/' ∉ text.toList ∧ ':' ∉ text.toList

instance (text : String) : Decidable (IsPlain text) := inferInstanceAs (Decidable (_ ∧ _))

section Parts

variable {interface interface' : String} {group group' version version' : Option String}
  (hplain : IsPlain interface) (hplain' : IsPlain interface')
  (hkey : serviceKey interface group version = serviceKey interface' group' version')

include hplain hkey

/-- A slash in the version of the one key is the last one there.  So in the other key it stands
in the version too, or it ends a group that holds a colon. -/
theorem lacks_slash_of_serviceKey_eq (hgroup : Lacks ':' group) (hversion : Lacks '/' version) :
    Lacks '/' version' := by
  intro text htext hmem
  obtain ⟨front, back, hback, hsplit⟩ : ∃ front back, '/' ∉ back ∧
      text.toList = front ++ '/' :: back := by
    cases hcut : Text.cutLast '/' text.toList with
    | none => exact absurd hmem (Text.cutLast_eq_none_iff.1 hcut)
    | some parts =>
      obtain ⟨hparts, hback⟩ := Text.eq_of_cutLast hcut
      exact ⟨parts.1, parts.2, hback, hparts⟩
  have hgiven : given version' = some text := by
    refine Option.filter_eq_some_iff.2 ⟨htext, ?_⟩
    have hne : text ≠ "" := by
      rintro rfl
      simp at hmem
    simpa using hne
  have hother : (serviceKey interface' group' version').toList =
      (groupChars group' ++ interface'.toList ++ ':' :: front) ++ '/' :: back := by
    simp [toList_serviceKey, versionChars, hgiven, hsplit]
  have hchars := congrArg String.toList hkey
  rw [toList_serviceKey, List.append_assoc, hother] at hchars
  have hcut := cutLast_groupChars group
    (show '/' ∉ interface.toList ++ versionChars version by
      simp [hplain.1, slash_not_mem_versionChars hversion])
  rw [hchars, Text.cutLast_append _ hback] at hcut
  obtain ⟨own, hown, hfront⟩ := Option.map_eq_some_iff.1 hcut.symm
  refine hgroup own (mem_of_given hown) ?_
  rw [(Prod.mk.inj hfront).1]
  simp

include hplain'

/-- Equal keys have equal parts when the versions hold no slash: the group is cut off first. -/
theorem parts_eq_of_versions (hversion : Lacks '/' version) (hversion' : Lacks '/' version') :
    interface = interface' ∧ given group = given group' ∧ given version = given version' := by
  have hchars := congrArg String.toList hkey
  rw [toList_serviceKey, toList_serviceKey, List.append_assoc, List.append_assoc] at hchars
  have hrest := groupChars_inj (by simp [hplain.1, slash_not_mem_versionChars hversion])
    (by simp [hplain'.1, slash_not_mem_versionChars hversion']) hchars
  have hparts := versionChars_inj hplain.2 hplain'.2 hrest.2
  exact ⟨String.toList_inj.1 hparts.1, hrest.1, hparts.2⟩

/-- Equal keys have equal parts when the groups hold no colon: the version is cut off first. -/
theorem parts_eq_of_groups (hgroup : Lacks ':' group) (hgroup' : Lacks ':' group') :
    interface = interface' ∧ given group = given group' ∧ given version = given version' := by
  have hchars := congrArg String.toList hkey
  rw [toList_serviceKey, toList_serviceKey] at hchars
  have hfront := versionChars_inj (by simp [hplain.2, colon_not_mem_groupChars hgroup])
    (by simp [hplain'.2, colon_not_mem_groupChars hgroup']) hchars
  have hparts := groupChars_inj hplain.1 hplain'.1 hfront.1
  exact ⟨String.toList_inj.1 hparts.2, hparts.1, hfront.2⟩

end Parts

/-- Nothing in two keys can be taken for a separator of the other. -/
structure Separable (interface interface' : String)
    (group group' version version' : Option String) : Prop where
  interfaces : IsPlain interface ∧ IsPlain interface'
  outer : (Lacks ':' group ∨ Lacks '/' version') ∧ (Lacks ':' group' ∨ Lacks '/' version)

/-- Separable keys are equal if and only if their parts are. -/
theorem Separable.serviceKey_eq_iff {interface interface' : String}
    {group group' version version' : Option String}
    (h : Separable interface interface' group group' version version') :
    serviceKey interface group version = serviceKey interface' group' version' ↔
      interface = interface' ∧ given group = given group' ∧ given version = given version' := by
  obtain ⟨⟨hplain, hplain'⟩, hone, hother⟩ := h
  constructor
  · intro hkey
    -- Where one key alone lacks both marks, its version passes the lack of slashes on.
    rcases hone with hgroup | hversion' <;> rcases hother with hgroup' | hversion
    · exact parts_eq_of_groups hplain hplain' hkey hgroup hgroup'
    · have hversion' := lacks_slash_of_serviceKey_eq hplain hkey hgroup hversion
      exact parts_eq_of_versions hplain hplain' hkey hversion hversion'
    · have hversion := lacks_slash_of_serviceKey_eq hplain' hkey.symm hgroup' hversion'
      exact parts_eq_of_versions hplain hplain' hkey hversion hversion'
    · exact parts_eq_of_versions hplain hplain' hkey hversion hversion'
  · rintro ⟨rfl, hgroup, hversion⟩
    rw [← String.toList_inj, toList_serviceKey, toList_serviceKey, groupChars, groupChars, hgroup,
      versionChars, versionChars, hversion]

/-- A colon in the one group and a slash in the other version are enough to mix the keys up. -/
example : serviceKey "c" (some "a:b") none = serviceKey "a" none (some "b/c") := by decide

end ServiceDirectory.ServiceKey
