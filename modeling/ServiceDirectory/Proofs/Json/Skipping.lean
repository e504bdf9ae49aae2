import ServiceDirectory.Json.Value
import ServiceDirectory.Proofs.Json.Numerals

/-!
# Values of JSON are skipped

Which texts are JSON, said without reading them.  A value that is JSON is skipped as a whole,
wherever it stands: `IsJson.skipValue` needs of the text behind it only that it does not go on
with the number that may stand at the end.
-/

namespace ServiceDirectory.Json

/-- A member of an object as it is written: its key between quotes, with spaces around it, and
its value behind the colon. -/
structure Member where
  before : List Char
  key : List Char
  after : List Char
  value : List Char

def Member.text (m : Member) : List Char :=
  m.before ++ '"' :: m.key ++ '"' :: m.after ++ ':' :: m.value

/-- Texts, each with a comma in front of it. -/
def followed (texts : List (List Char)) : List Char := texts.flatMap (',' :: ·)

/-- Texts with commas between them. -/
def commas : List (List Char) → List Char
  | [] => []
  | text :: rest => text ++ followed rest

/-- The text is one JSON value, with spaces around it at most. -/
inductive IsJson : List Char → Prop
  | spaced {s text s' : List Char} (hs : Spaces s) (h : IsJson text) (hs' : Spaces s') :
    IsJson (s ++ text ++ s')
  | null : IsJson ['n', 'u', 'l', 'l']
  | boolean (b : Bool) : IsJson (if b then ['t', 'r', 'u', 'e'] else ['f', 'a', 'l', 's', 'e'])
  | number {text : List Char} (h : IsNumeral text) : IsJson text
  | negative {text : List Char} (h : IsNumeral text) : IsJson ('-' :: text)
  | string {body : List Char} (h : IsBody body) : IsJson ('"' :: body ++ ['"'])
  | emptyArray {s : List Char} (hs : Spaces s) : IsJson ('[' :: s ++ [']'])
  | array {items : List (List Char)} (h : ∀ item ∈ items, IsJson item) :
    IsJson ('[' :: commas items ++ [']'])
  | emptyObject {s : List Char} (hs : Spaces s) : IsJson ('\x7b' :: s ++ ['\x7d'])
  | object {members : List Member}
    (hkeys : ∀ m ∈ members, Spaces m.before ∧ IsBody m.key ∧ Spaces m.after)
    (h : ∀ m ∈ members, IsJson m.value) :
    IsJson ('\x7b' :: commas (members.map Member.text) ++ ['\x7d'])

attribute [local simp] skipWithin

theorem skipWithin_value_skipSpaces (fuel : Nat) (text : List Char) :
    skipWithin fuel .value (skipSpaces text) = skipWithin fuel .value text := by
  cases fuel with
  | zero => rfl
  | succ fuel => simp [skipSpaces_skipSpaces]

/-- A value does not start with the bracket that closes an array. -/
theorem head_of_skipWithin_value {fuel : Nat} {text rest : List Char}
    (h : skipWithin fuel .value text = .ok rest) :
    ∃ c more, skipSpaces text = c :: more ∧ c ≠ ']' := by
  cases fuel with
  | zero => cases h
  | succ fuel =>
    rw [skipWithin] at h
    cases hspaces : skipSpaces text with
    | nil =>
      rw [hspaces] at h
      cases h
    | cons c more =>
      rw [hspaces] at h
      refine ⟨c, more, rfl, ?_⟩
      rintro rfl
      cases h

section Tasks

variable {fuel : Nat} {text more rest : List Char}

/-- A digit is none of the characters with which other values start. -/
theorem skipWithin_digit {c : Char} (hc : c.isDigit = true) :
    skipWithin (fuel + 1) .value (c :: more) = skipNumber (c :: more) := by
  rw [skipWithin, skipSpaces_cons (isSpace_of_isDigit hc)]
  simp only [ne_of_isDigit (d := 'n') hc (by decide), ne_of_isDigit (d := 't') hc (by decide),
    ne_of_isDigit (d := 'f') hc (by decide), ne_of_isDigit (d := '-') hc (by decide), hc, if_true,
    if_false]

theorem skipWithin_close_elements (h : skipSpaces text = ']' :: rest) (first : Bool) :
    skipWithin (fuel + 1) (.elements first) text = .ok rest := by
  rw [skipWithin, h]
  rfl

theorem skipWithin_next_element (h : skipSpaces text = ',' :: more) :
    skipWithin (fuel + 1) (.elements false) text = (do
      let rest ← skipWithin fuel .value more
      skipWithin fuel (.elements false) rest) := by
  rw [skipWithin, h]
  rfl

/-- The first element is skipped as if there were a comma in front of it. -/
theorem skipWithin_first_element {c : Char} (h : skipSpaces text = c :: more) (hc : c ≠ ']') :
    skipWithin fuel (.elements true) text = skipWithin fuel (.elements false) (',' :: text) := by
  cases fuel with
  | zero => rfl
  | succ fuel =>
    rw [skipWithin_next_element (skipSpaces_cons (by decide) text),
      ← skipWithin_value_skipSpaces, skipWithin, h]
    split
    · contradiction
    · rename_i heq
      exact absurd (List.cons.inj heq).1 hc
    · rename_i heq
      rw [heq]
      rfl

theorem skipWithin_close_members (h : skipSpaces text = '\x7d' :: rest) (first : Bool) :
    skipWithin (fuel + 1) (.members first) text = .ok rest := by
  rw [skipWithin, h]
  rfl

theorem Member.skipSpaces_text {m : Member} (hbefore : Spaces m.before) (rest : List Char) :
    skipSpaces (m.text ++ rest) =
      '"' :: (m.key ++ '"' :: (m.after ++ ':' :: (m.value ++ rest))) := by
  simp only [Member.text, List.append_assoc, List.cons_append]
  rw [skipSpaces_append hbefore, skipSpaces_cons (by decide)]

theorem skipWithin_next_member {m : Member} (hbefore : Spaces m.before) (hkey : IsBody m.key)
    (hafter : Spaces m.after) (h : skipSpaces text = ',' :: (m.text ++ rest)) :
    skipWithin (fuel + 1) (.members false) text = (do
      let rest ← skipWithin fuel .value (m.value ++ rest)
      skipWithin fuel (.members false) rest) := by
  have hquote := m.skipSpaces_text hbefore rest
  rw [skipWithin, h]
  simp [hquote, hkey.skipStringBody, skipColon_append hafter, bind, Except.bind]

/-- The first member is skipped as if there were a comma in front of it. -/
theorem skipWithin_first_member (h : skipSpaces text = '"' :: more) :
    skipWithin fuel (.members true) text = skipWithin fuel (.members false) (',' :: text) := by
  cases fuel with
  | zero => rfl
  | succ fuel =>
    have hquote : skipSpaces ('"' :: more) = '"' :: more := skipSpaces_cons (by decide) more
    have hcomma : skipSpaces (',' :: text) = ',' :: text := skipSpaces_cons (by decide) text
    rw [skipWithin, skipWithin, h, hcomma]
    simp [h, hquote]

end Tasks

/-- With fuel enough the text is skipped as a value, wherever it stands. -/
def Skips (text : List Char) : Prop :=
  ∀ fuel rest, 2 * text.length ≤ fuel → Ends rest →
    ∃ r, skipWithin fuel .value (text ++ rest) = .ok r ∧ skipSpaces r = skipSpaces rest

theorem Ends.followed (texts : List (List Char)) {rest : List Char} (h : Ends rest) :
    Ends (followed texts ++ rest) := by
  cases texts with
  | nil => exact h
  | cons text texts => exact ends_cons (by decide) _

theorem skipSpaces_followed_cons (text : List Char) (texts : List (List Char))
    (rest : List Char) : skipSpaces (followed (text :: texts) ++ rest) =
      ',' :: (text ++ (followed texts ++ rest)) := by
  simp only [followed, List.flatMap_cons, List.cons_append, List.append_assoc]
  exact skipSpaces_cons (by decide) _

theorem length_followed_cons (text : List Char) (texts : List (List Char)) :
    (followed (text :: texts)).length = text.length + 1 + (followed texts).length := by
  simp only [followed, List.flatMap_cons, List.length_append, List.length_cons]

theorem Member.length_value_le (m : Member) : m.value.length ≤ m.text.length := by
  simp only [Member.text, List.length_append, List.length_cons]
  omega

theorem skipWithin_elements {items : List (List Char)} (hitems : ∀ item ∈ items, Skips item)
    {fuel : Nat} (hfuel : 2 * (followed items).length < fuel) {text rest : List Char}
    (htext : skipSpaces text = skipSpaces (followed items ++ ']' :: rest)) :
    skipWithin fuel (.elements false) text = .ok rest := by
  induction items generalizing fuel text with
  | nil =>
    obtain ⟨fuel, rfl⟩ := Nat.exists_eq_add_one_of_ne_zero (Nat.ne_zero_of_lt hfuel)
    exact skipWithin_close_elements htext false
  | cons item items ih =>
    obtain ⟨fuel, rfl⟩ := Nat.exists_eq_add_one_of_ne_zero (Nat.ne_zero_of_lt hfuel)
    rw [length_followed_cons] at hfuel
    rw [skipSpaces_followed_cons] at htext
    obtain ⟨r, hskip, hr⟩ := hitems item List.mem_cons_self fuel _ (by omega)
      (Ends.followed items (ends_cons (c := ']') (by decide) rest))
    rw [skipWithin_next_element htext, hskip]
    exact ih (fun item' hitem => hitems item' (List.mem_cons_of_mem _ hitem)) (by omega) hr

theorem skipWithin_members {members : List Member}
    (hkeys : ∀ m ∈ members, Spaces m.before ∧ IsBody m.key ∧ Spaces m.after)
    (hvalues : ∀ m ∈ members, Skips m.value) {fuel : Nat}
    (hfuel : 2 * (followed (members.map Member.text)).length < fuel) {text rest : List Char}
    (htext : skipSpaces text =
      skipSpaces (followed (members.map Member.text) ++ '\x7d' :: rest)) :
    skipWithin fuel (.members false) text = .ok rest := by
  induction members generalizing fuel text with
  | nil =>
    obtain ⟨fuel, rfl⟩ := Nat.exists_eq_add_one_of_ne_zero (Nat.ne_zero_of_lt hfuel)
    exact skipWithin_close_members htext false
  | cons m members ih =>
    obtain ⟨fuel, rfl⟩ := Nat.exists_eq_add_one_of_ne_zero (Nat.ne_zero_of_lt hfuel)
    obtain ⟨hbefore, hkey, hafter⟩ := hkeys m List.mem_cons_self
    have hlength := m.length_value_le
    rw [List.map_cons, length_followed_cons] at hfuel
    rw [List.map_cons, skipSpaces_followed_cons] at htext
    obtain ⟨r, hskip, hr⟩ := hvalues m List.mem_cons_self fuel _ (by omega)
      (Ends.followed (members.map Member.text) (ends_cons (c := '\x7d') (by decide) rest))
    rw [skipWithin_next_member hbefore hkey hafter htext, hskip]
    exact ih (fun m' hm => hkeys m' (List.mem_cons_of_mem _ hm))
      (fun m' hm => hvalues m' (List.mem_cons_of_mem _ hm)) (by omega) hr

theorem Skips.array {items : List (List Char)} (h : ∀ item ∈ items, Skips item) :
    Skips ('[' :: commas items ++ [']']) := by
  intro fuel rest hfuel _
  simp only [List.length_append, List.length_cons] at hfuel
  obtain ⟨fuel, rfl⟩ := Nat.exists_eq_add_of_le' (show 2 ≤ fuel by omega)
  refine ⟨rest, ?_, rfl⟩
  show skipWithin (fuel + 1) (.elements true) (commas items ++ [']'] ++ rest) = _
  rw [List.append_assoc]
  cases items with
  | nil => exact skipWithin_close_elements (skipSpaces_cons (by decide) rest) true
  | cons item items =>
    obtain ⟨_, hskip, -⟩ := h item List.mem_cons_self _ _ (Nat.le_refl _)
      (Ends.followed items (ends_cons (c := ']') (by decide) rest))
    obtain ⟨c, more, hhead, hc⟩ := head_of_skipWithin_value hskip
    rw [commas, List.append_assoc]
    rw [commas, List.length_append] at hfuel
    refine (skipWithin_first_element hhead hc).trans (skipWithin_elements h ?_ ?_)
    · rw [length_followed_cons]
      omega
    · rw [skipSpaces_followed_cons]
      exact skipSpaces_cons (by decide) _

theorem Skips.object {members : List Member}
    (hkeys : ∀ m ∈ members, Spaces m.before ∧ IsBody m.key ∧ Spaces m.after)
    (h : ∀ m ∈ members, Skips m.value) :
    Skips ('\x7b' :: commas (members.map Member.text) ++ ['\x7d']) := by
  intro fuel rest hfuel _
  simp only [List.length_append, List.length_cons] at hfuel
  obtain ⟨fuel, rfl⟩ := Nat.exists_eq_add_of_le' (show 2 ≤ fuel by omega)
  refine ⟨rest, ?_, rfl⟩
  show skipWithin (fuel + 1) (.members true)
    (commas (members.map Member.text) ++ ['\x7d'] ++ rest) = _
  rw [List.append_assoc]
  cases members with
  | nil => exact skipWithin_close_members (skipSpaces_cons (by decide) rest) true
  | cons m members =>
    have hhead := m.skipSpaces_text (hkeys m List.mem_cons_self).1
    rw [List.map_cons, commas, List.length_append] at hfuel
    rw [List.map_cons, commas, List.append_assoc]
    refine (skipWithin_first_member (hhead _)).trans (skipWithin_members hkeys h ?_ ?_)
    · rw [List.map_cons, length_followed_cons]
      omega
    · rw [List.map_cons, skipSpaces_followed_cons]
      exact skipSpaces_cons (by decide) _

/-- A text that is skipped at once, whatever fuel there is, is skipped. -/
theorem skips_of_succ {c : Char} {text : List Char}
    (h : ∀ fuel rest, Ends rest → skipWithin (fuel + 1) .value (c :: text ++ rest) = .ok rest) :
    Skips (c :: text) := by
  intro fuel rest hfuel hrest
  rw [List.length_cons] at hfuel
  obtain ⟨fuel, rfl⟩ := Nat.exists_eq_add_of_le' (show 1 ≤ fuel by omega)
  exact ⟨rest, h fuel rest hrest, rfl⟩

/-- A text between brackets is skipped by the task that goes through it. -/
theorem skips_of_succ_succ {opening closing : Char} {inner : List Char}
    (h : ∀ fuel rest, skipWithin (fuel + 2) .value (opening :: inner ++ [closing] ++ rest) =
      .ok rest) : Skips (opening :: inner ++ [closing]) := by
  intro fuel rest hfuel _
  rw [List.length_append, List.length_cons] at hfuel
  obtain ⟨fuel, rfl⟩ := Nat.exists_eq_add_of_le' (show 2 ≤ fuel by omega)
  exact ⟨rest, h fuel rest, rfl⟩

theorem IsJson.skips {text : List Char} (h : IsJson text) : Skips text := by
  induction h with
  | @spaced s text s' hs _ hs' ih =>
    intro fuel rest hfuel hrest
    simp only [List.length_append] at hfuel
    obtain ⟨r, hskip, hr⟩ := ih fuel (s' ++ rest) (by omega) (hrest.spaced hs')
    refine ⟨r, ?_, hr.trans (skipSpaces_append hs' rest)⟩
    rw [← hskip, ← skipWithin_value_skipSpaces, ← skipWithin_value_skipSpaces _ (text ++ _),
      List.append_assoc, List.append_assoc, skipSpaces_append hs]
  | null => exact skips_of_succ fun fuel rest _ => skipWord_append ['u', 'l', 'l'] rest
  | boolean b =>
    cases b with
    | true => exact skips_of_succ fun fuel rest _ => skipWord_append ['r', 'u', 'e'] rest
    | false => exact skips_of_succ fun fuel rest _ => skipWord_append ['a', 'l', 's', 'e'] rest
  | number h =>
    obtain ⟨c, more, rfl, hc⟩ := h.exists_digit
    refine skips_of_succ fun fuel rest hrest => ?_
    rw [List.cons_append, skipWithin_digit hc, ← List.cons_append, h.skipNumber hrest]
  | negative h => exact skips_of_succ fun fuel rest hrest => h.skipNumber hrest
  | @string body h =>
    refine skips_of_succ fun fuel rest _ => ?_
    show skipStringBody (body ++ ['"'] ++ rest) = _
    rw [List.append_assoc]
    exact h.skipStringBody rest
  | @emptyArray s hs =>
    refine skips_of_succ_succ fun fuel rest => ?_
    have hclose : skipSpaces (s ++ [']'] ++ rest) = ']' :: rest := by
      rw [List.append_assoc, skipSpaces_append hs]
      exact skipSpaces_cons (by decide) rest
    exact skipWithin_close_elements hclose true
  | array _ ih => exact Skips.array ih
  | @emptyObject s hs =>
    refine skips_of_succ_succ fun fuel rest => ?_
    have hclose : skipSpaces (s ++ ['\x7d'] ++ rest) = '\x7d' :: rest := by
      rw [List.append_assoc, skipSpaces_append hs]
      exact skipSpaces_cons (by decide) rest
    exact skipWithin_close_members hclose true
  | object hkeys _ ih => exact Skips.object hkeys ih

/-- Whatever JSON a value holds, it is skipped up to spaces behind it. -/
theorem IsJson.skipValue {text : List Char} (h : IsJson text) {rest : List Char}
    (hrest : Ends rest) :
    ∃ r, skipValue (text ++ rest) = .ok r ∧ skipSpaces r = skipSpaces rest :=
  h.skips _ rest (by simp only [List.length_append]; omega) hrest

end ServiceDirectory.Json
