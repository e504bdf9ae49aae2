import Mathlib.Data.List.DropRight
import ServiceDirectory.Json.Reader

/-!
# Strings in JSON

Which texts may stand between the quotes of a string, and for which characters they stand.  The
reader of strings takes every spelling of a string up to its closing quote; where a string is
skipped, the units of its escapes need not be characters.
-/

namespace ServiceDirectory.Json

/-! ## Spaces and words -/

/-- Nothing but spaces. -/
def Spaces (text : List Char) : Prop := ∀ c ∈ text, isSpace c = true

theorem spaces_nil : Spaces [] := nofun

theorem skipSpaces_append {s : List Char} (hs : Spaces s) (text : List Char) :
    skipSpaces (s ++ text) = skipSpaces text :=
  List.dropWhile_append_of_pos hs

theorem skipSpaces_cons {c : Char} (hc : isSpace c = false) (text : List Char) :
    skipSpaces (c :: text) = c :: text :=
  List.dropWhile_cons_of_neg (by simp [hc])

@[simp]
theorem skipSpaces_skipSpaces (text : List Char) :
    skipSpaces (skipSpaces text) = skipSpaces text :=
  List.dropWhile_idempotent _ _

theorem skipWord_append (word rest : List Char) : skipWord word (word ++ rest) = .ok rest := by
  induction word with
  | nil => rfl
  | cons w word ih => rw [List.cons_append, skipWord, if_pos rfl, ih]

theorem skipColon_append {s : List Char} (hs : Spaces s) (rest : List Char) :
    skipColon (s ++ ':' :: rest) = .ok rest := by
  rw [skipColon, skipSpaces_append hs]
  rfl

/-! ## Strings -/

/-- The escapes of one letter, with the characters that they stand for. -/
def letterEscapes : List (Char × Char) :=
  [('"', '"'), ('\\', '\\'), ('/', '/'), ('b', '\x08'), ('f', '\x0c'), ('n', '\n'), ('r', '\r'),
    ('t', '\t')]

/-- A character that may stand for itself in a string. -/
def IsPlain (c : Char) : Prop := c ≠ '"' ∧ c ≠ '\\' ∧ 0x20 ≤ c.toNat

/-- What may stand between the quotes of a string. -/
inductive IsBody : List Char → Prop
  | nil : IsBody []
  | plain {c : Char} {body : List Char} (hc : IsPlain c) (rest : IsBody body) :
    IsBody (c :: body)
  | letter {c d : Char} {body : List Char} (hc : (c, d) ∈ letterEscapes) (rest : IsBody body) :
    IsBody ('\\' :: c :: body)
  | unit {a b c d : Char} {n : Nat} {body : List Char} (hn : hexValue a b c d = some n)
    (rest : IsBody body) : IsBody ('\\' :: 'u' :: a :: b :: c :: d :: body)

/-- The characters for which the text between the quotes of a string stands.  A character
behind the first plane may be written as two units. -/
inductive Spells : List Char → List Char → Prop
  | nil : Spells [] []
  | plain {c : Char} {body chars : List Char} (hc : IsPlain c) (rest : Spells body chars) :
    Spells (c :: body) (c :: chars)
  | letter {c d : Char} {body chars : List Char} (hc : (c, d) ∈ letterEscapes)
    (rest : Spells body chars) : Spells ('\\' :: c :: body) (d :: chars)
  | unit {a b c d x : Char} {body chars : List Char} (hx : hexValue a b c d = some x.toNat)
    (rest : Spells body chars) : Spells ('\\' :: 'u' :: a :: b :: c :: d :: body) (x :: chars)
  | pair {a b c d a' b' c' d' x : Char} {n n' : Nat} {body chars : List Char}
    (hn : hexValue a b c d = some n) (hleading : 0xD800 ≤ n ∧ n ≤ 0xDBFF)
    (hn' : hexValue a' b' c' d' = some n') (htrailing : 0xDC00 ≤ n' ∧ n' ≤ 0xDFFF)
    (hx : x.toNat = (n - 0xD800) * 0x400 + (n' - 0xDC00) + 0x10000) (rest : Spells body chars) :
    Spells ('\\' :: 'u' :: a :: b :: c :: d :: '\\' :: 'u' :: a' :: b' :: c' :: d' :: body)
      (x :: chars)

theorem simpleEscape_eq_some_iff {c d : Char} :
    simpleEscape c = some d ↔ (c, d) ∈ letterEscapes := by
  unfold simpleEscape letterEscapes
  constructor
  · intro h
    grind
  · intro h
    simp only [List.mem_cons, Prod.mk.injEq, List.not_mem_nil, or_false] at h
    rcases h with ⟨rfl, rfl⟩ | ⟨rfl, rfl⟩ | ⟨rfl, rfl⟩ | ⟨rfl, rfl⟩ | ⟨rfl, rfl⟩ | ⟨rfl, rfl⟩ |
      ⟨rfl, rfl⟩ | ⟨rfl, rfl⟩ <;> rfl

/-- A hexadecimal digit is one byte long. -/
theorem utf8Size_of_hexDigit {c : Char} {n : Nat} (h : hexDigit c = some n) : c.utf8Size = 1 := by
  have hsmall : c.toNat ≤ 102 := by
    unfold hexDigit at h
    grind
  have : c.val ≤ 127 := by
    rw [UInt32.le_iff_toNat_le]
    exact Nat.le_trans hsmall (by decide)
  simp [Char.utf8Size, this]

theorem readHex_append {a b c d : Char} {n : Nat} (h : hexValue a b c d = some n)
    (rest : List Char) : readHex (a :: b :: c :: d :: rest) = .ok (n, rest) := by
  have hvalue := h
  simp only [hexValue, Option.bind_eq_bind, Option.bind_eq_some_iff] at hvalue
  obtain ⟨_, ha, _, hb, _, hc, _, hd, -⟩ := hvalue
  have hlong : utf8Length ((a :: b :: c :: d :: rest).take 4) = 4 := by
    simp [utf8Length, utf8Size_of_hexDigit ha, utf8Size_of_hexDigit hb, utf8Size_of_hexDigit hc,
      utf8Size_of_hexDigit hd]
  rw [readHex, hlong, if_neg (by decide)]
  simp only [h]

theorem not_surrogate (c : Char) : ¬(0xD800 ≤ c.toNat ∧ c.toNat ≤ 0xDFFF) := by
  rcases c.valid with h | h
  · exact fun hc => absurd hc.1 (Nat.not_le.2 h)
  · exact fun hc => absurd hc.2 (Nat.not_le.2 h.1)

theorem readEscape_letter {c d : Char} (h : (c, d) ∈ letterEscapes) (rest : List Char) :
    readEscape (c :: rest) = .ok (d, rest) := by
  have hescape := simpleEscape_eq_some_iff.2 h
  unfold readEscape
  split
  · contradiction
  · rename_i heq
    obtain ⟨rfl, -⟩ := List.cons.inj heq
    cases hescape
  · rename_i heq
    obtain ⟨rfl, rfl⟩ := List.cons.inj heq
    rw [hescape]

theorem readEscape_unit {a b c d x : Char} (h : hexValue a b c d = some x.toNat)
    (rest : List Char) : readEscape ('u' :: a :: b :: c :: d :: rest) = .ok (x, rest) := by
  have hx := not_surrogate x
  have htrailing : ¬(0xDC00 ≤ x.toNat ∧ x.toNat ≤ 0xDFFF) := by omega
  have hleading : ¬(0xD800 ≤ x.toNat ∧ x.toNat ≤ 0xDBFF) := by omega
  simp [readEscape, readHex_append h, htrailing, hleading, bind, Except.bind, pure, Except.pure]

theorem readEscape_pair {a b c d a' b' c' d' x : Char} {n n' : Nat}
    (hn : hexValue a b c d = some n) (hleading : 0xD800 ≤ n ∧ n ≤ 0xDBFF)
    (hn' : hexValue a' b' c' d' = some n') (htrailing : 0xDC00 ≤ n' ∧ n' ≤ 0xDFFF)
    (hx : x.toNat = (n - 0xD800) * 0x400 + (n' - 0xDC00) + 0x10000) (rest : List Char) :
    readEscape ('u' :: a :: b :: c :: d :: '\\' :: 'u' :: a' :: b' :: c' :: d' :: rest) =
      .ok (x, rest) := by
  have hunit : ¬(0xDC00 ≤ n ∧ n ≤ 0xDFFF) := by omega
  simp [readEscape, readHex_append hn, hunit, hleading, bind, Except.bind, pure, Except.pure,
    readTrailing, readHex_append hn', htrailing, ← hx]

theorem readCharsWithin_escape {text rest : List Char} {d : Char} {fuel : Nat}
    (h : readEscape text = .ok (d, rest)) :
    readCharsWithin (fuel + 1) ('\\' :: text) =
      (readCharsWithin fuel rest).map fun read => (d :: read.1, read.2) := by
  rw [readCharsWithin, if_neg (by decide), if_pos rfl, h]
  simp only [bind, Except.bind]
  cases readCharsWithin fuel rest <;> rfl

/-- A spelling is read up to its closing quote. -/
theorem Spells.readCharsWithin {body chars : List Char} (h : Spells body chars)
    (rest : List Char) {fuel : Nat} (hfuel : body.length < fuel) :
    readCharsWithin fuel (body ++ '"' :: rest) = .ok (chars, rest) := by
  induction h generalizing fuel with
  | nil =>
    obtain ⟨fuel, rfl⟩ := Nat.exists_eq_add_of_lt hfuel
    rfl
  | plain hc _ ih =>
    obtain ⟨fuel, rfl⟩ := Nat.exists_eq_add_of_lt hfuel
    rw [List.cons_append, Json.readCharsWithin, if_neg hc.1, if_neg hc.2.1,
      if_neg (Nat.not_lt.2 hc.2.2), ih (by simp only [List.length_cons]; omega)]
    rfl
  | letter hc _ ih =>
    obtain ⟨fuel, rfl⟩ := Nat.exists_eq_add_of_lt hfuel
    simp only [List.cons_append]
    rw [readCharsWithin_escape (readEscape_letter hc _),
      ih (by simp only [List.length_cons]; omega)]
    rfl
  | unit hx _ ih =>
    obtain ⟨fuel, rfl⟩ := Nat.exists_eq_add_of_lt hfuel
    simp only [List.cons_append]
    rw [readCharsWithin_escape (readEscape_unit hx _), ih (by simp only [List.length_cons]; omega)]
    rfl
  | pair hn hleading hn' htrailing hx _ ih =>
    obtain ⟨fuel, rfl⟩ := Nat.exists_eq_add_of_lt hfuel
    simp only [List.cons_append]
    rw [readCharsWithin_escape (readEscape_pair hn hleading hn' htrailing hx _),
      ih (by simp only [List.length_cons]; omega)]
    rfl

theorem skipEscape_letter {c d : Char} (h : (c, d) ∈ letterEscapes) (rest : List Char) :
    skipEscape (c :: rest) = .ok rest := by
  have hescape := simpleEscape_eq_some_iff.2 h
  unfold skipEscape
  split
  · contradiction
  · rename_i heq
    obtain ⟨rfl, -⟩ := List.cons.inj heq
    cases hescape
  · rename_i heq
    obtain ⟨rfl, rfl⟩ := List.cons.inj heq
    rw [hescape]
    rfl

/-- A string is skipped up to its closing quote. -/
theorem IsBody.skipCharsWithin {body : List Char} (h : IsBody body) (rest : List Char)
    {fuel : Nat} (hfuel : body.length < fuel) :
    skipCharsWithin fuel (body ++ '"' :: rest) = .ok rest := by
  induction h generalizing fuel with
  | nil =>
    obtain ⟨fuel, rfl⟩ := Nat.exists_eq_add_of_lt hfuel
    rfl
  | plain hc _ ih =>
    obtain ⟨fuel, rfl⟩ := Nat.exists_eq_add_of_lt hfuel
    rw [List.cons_append, Json.skipCharsWithin, if_neg hc.1, if_neg hc.2.1,
      if_neg (Nat.not_lt.2 hc.2.2)]
    exact ih (by simp only [List.length_cons]; omega)
  | letter hc _ ih =>
    obtain ⟨fuel, rfl⟩ := Nat.exists_eq_add_of_lt hfuel
    simp only [List.cons_append]
    rw [Json.skipCharsWithin, if_neg (by decide), if_pos rfl, skipEscape_letter hc]
    exact ih (by simp only [List.length_cons]; omega)
  | unit hn _ ih =>
    obtain ⟨fuel, rfl⟩ := Nat.exists_eq_add_of_lt hfuel
    simp only [List.cons_append]
    rw [Json.skipCharsWithin, if_neg (by decide), if_pos rfl, skipEscape, readHex_append hn]
    exact ih (by simp only [List.length_cons]; omega)

/-- The fuel of a string reader is enough for what stands before the closing quote. -/
theorem length_lt_quoted (body rest : List Char) :
    body.length < (body ++ '"' :: rest).length + 1 := by
  rw [List.length_append]
  omega

theorem Spells.readStringBody {body chars : List Char} (h : Spells body chars)
    (rest : List Char) :
    readStringBody (body ++ '"' :: rest) = .ok (String.ofList chars, rest) := by
  rw [Json.readStringBody, h.readCharsWithin rest (length_lt_quoted body rest)]
  rfl

theorem IsBody.skipStringBody {body : List Char} (h : IsBody body) (rest : List Char) :
    skipStringBody (body ++ '"' :: rest) = .ok rest := by
  rw [Json.skipStringBody, h.skipCharsWithin rest (length_lt_quoted body rest)]

end ServiceDirectory.Json
