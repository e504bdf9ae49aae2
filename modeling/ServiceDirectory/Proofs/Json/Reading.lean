import ServiceDirectory.Json.Compact
import ServiceDirectory.Proofs.Json.Skipping

/-!
# Scalars are read

Which texts say a string, a boolean or a number, in any spelling and with spaces around it.  Such
a text is taken off by the reader of the type, wherever it stands, and what is written compactly
is such a text.
-/

namespace ServiceDirectory.Json

variable {α : Type}

/-- The reader takes the text off as the value, wherever it stands.  Spaces behind the value may
be left to the next reader. -/
def Takes (reader : Reader α) (text : List Char) (value : α) : Prop :=
  ∀ rest, Ends rest →
    ∃ r, reader (text ++ rest) = .ok (value, r) ∧ skipSpaces r = skipSpaces rest

/-- The reader stops at the text with the fault, whatever stands behind it. -/
def Refuses (reader : Reader α) (text : List Char) (fault : Fault) : Prop :=
  ∀ rest, reader (text ++ rest) = .error fault

theorem Takes.map {β : Type} {reader : Reader α} {text : List Char} {value : α}
    (h : Takes reader text value) (f : α → β) :
    Takes (fun text => do
      let (value, rest) ← reader text
      return (f value, rest)) text (f value) := by
  intro rest hrest
  obtain ⟨r, hread, hr⟩ := h rest hrest
  refine ⟨r, ?_, hr⟩
  dsimp only
  rw [hread]
  rfl

theorem Refuses.map {β : Type} {reader : Reader α} {text : List Char} {fault : Fault}
    (h : Refuses reader text fault) (f : α → β) :
    Refuses (fun text => do
      let (value, rest) ← reader text
      return (f value, rest)) text fault := by
  intro rest
  dsimp only
  rw [h rest]
  rfl

/-- A text that is taken off as a value is read as that value where nothing else stands. -/
theorem Takes.readAll {reader : Reader α} {text : String} {value : α}
    (h : Takes reader text.toList value) : readAll reader text = .ok value := by
  obtain ⟨r, hread, hr⟩ := h [] nofun
  rw [List.append_nil] at hread
  rw [Json.readAll, hread]
  show (if (skipSpaces r).isEmpty then pure value else throw Fault.malformed) = _
  rw [hr]
  rfl

theorem Refuses.readAll {reader : Reader α} {text : String} {fault : Fault}
    (h : Refuses reader text.toList fault) : readAll reader text = .error fault := by
  have hread := h []
  rw [List.append_nil] at hread
  rw [Json.readAll, hread]
  rfl

/-! ## Strings -/

/-- The text is a string that stands for `s`. -/
def IsString (s : String) (text : List Char) : Prop :=
  ∃ before body after, Spaces before ∧ Spells body s.toList ∧ Spaces after ∧
    text = before ++ '"' :: (body ++ '"' :: after)

/-- Every reader of strings comes to the opening quote and takes the body up to the closing
one. -/
theorem IsString.spec {s : String} {text : List Char} (h : IsString s text) (rest : List Char) :
    ∃ more r, skipSpaces (text ++ rest) = '"' :: more ∧ readStringBody more = .ok (s, r) ∧
      skipSpaces r = skipSpaces rest := by
  obtain ⟨before, body, after, hbefore, hbody, hafter, rfl⟩ := h
  refine ⟨body ++ '"' :: (after ++ rest), after ++ rest, ?_, ?_, skipSpaces_append hafter rest⟩
  · simp only [List.append_assoc, List.cons_append]
    rw [skipSpaces_append hbefore, skipSpaces_cons (by decide)]
  · rw [hbody.readStringBody, String.ofList_toList]

theorem IsString.readText {s : String} {text : List Char} (h : IsString s text) :
    Takes readText text s := by
  intro rest _
  obtain ⟨more, r, hquote, hread, hr⟩ := h.spec rest
  refine ⟨r, ?_, hr⟩
  rw [Json.readText, hquote]
  exact hread

theorem IsString.readOptionalText {s : String} {text : List Char} (h : IsString s text) :
    Takes readOptionalText text (some s) := by
  intro rest _
  obtain ⟨more, r, hquote, hread, hr⟩ := h.spec rest
  refine ⟨r, ?_, hr⟩
  have htext : Json.readText ('"' :: more) = .ok (s, r) := by
    rw [Json.readText, skipSpaces_cons (by decide)]
    exact hread
  rw [Json.readOptionalText, hquote]
  show (Json.readText ('"' :: more) >>= _) = _
  rw [htext]
  rfl

/-- The four digits with which a control character is escaped name it. -/
theorem hexValue_hexChar :
    ∀ n < 32, hexValue '0' '0' (hexChar (n / 16)) (hexChar (n % 16)) = some n := by
  decide

/-- A character is written as a letter behind a backslash, as its number, or as itself. -/
theorem stringChar_cases (c : Char) :
    (∃ d, (d, c) ∈ letterEscapes ∧ stringChar c = ['\\', d]) ∨
    (c.toNat < 32 ∧ stringChar c =
      ['\\', 'u', '0', '0', hexChar (c.toNat / 16), hexChar (c.toNat % 16)]) ∨
    IsPlain c ∧ stringChar c = [c] := by
  unfold stringChar
  split_ifs with hquote hbackslash hc hc hc hc hc hcontrol
  · exact Or.inl ⟨'"', by simp [letterEscapes, hquote], rfl⟩
  · exact Or.inl ⟨'\\', by simp [letterEscapes, hbackslash], rfl⟩
  iterate 5 exact Or.inl ⟨_, by simp [letterEscapes, hc], rfl⟩
  · exact Or.inr (Or.inl ⟨hcontrol, rfl⟩)
  · exact Or.inr (Or.inr ⟨⟨hquote, hbackslash, Nat.not_lt.1 hcontrol⟩, rfl⟩)

theorem spells_stringChar (c : Char) {body chars : List Char} (h : Spells body chars) :
    Spells (stringChar c ++ body) (c :: chars) := by
  rcases stringChar_cases c with ⟨d, hletter, hc⟩ | ⟨hcontrol, hc⟩ | ⟨hplain, hc⟩
  · rw [hc]
    exact .letter hletter h
  · rw [hc]
    exact .unit (hexValue_hexChar c.toNat hcontrol) h
  · rw [hc]
    exact .plain hplain h

/-- The escaped characters spell the characters. -/
theorem spells_flatMap_stringChar (chars : List Char) :
    Spells (chars.flatMap stringChar) chars := by
  induction chars with
  | nil => exact .nil
  | cons c chars ih => exact spells_stringChar c ih

theorem isString_writeText (s : String) : IsString s (writeText s) :=
  ⟨[], s.toList.flatMap stringChar, [], spaces_nil, spells_flatMap_stringChar s.toList, spaces_nil,
    rfl⟩

/-! ## Booleans -/

/-- The text is the word for `b`. -/
def IsBoolean (b : Bool) (text : List Char) : Prop :=
  ∃ before after, Spaces before ∧ Spaces after ∧ text = before ++ (writeBoolean b ++ after)

theorem IsBoolean.readBoolean {b : Bool} {text : List Char} (h : IsBoolean b text) :
    Takes readBoolean text b := by
  obtain ⟨before, after, hbefore, hafter, rfl⟩ := h
  intro rest _
  refine ⟨after ++ rest, ?_, skipSpaces_append hafter rest⟩
  rw [Json.readBoolean, List.append_assoc, skipSpaces_append hbefore, List.append_assoc]
  cases b with
  | true =>
    show (skipWord ['r', 'u', 'e'] (['r', 'u', 'e'] ++ (after ++ rest)) >>= _) = _
    rw [skipWord_append]
    rfl
  | false =>
    show (skipWord ['a', 'l', 's', 'e'] (['a', 'l', 's', 'e'] ++ (after ++ rest)) >>= _) = _
    rw [skipWord_append]
    rfl

theorem isBoolean_writeBoolean (b : Bool) : IsBoolean b (writeBoolean b) :=
  ⟨[], [], spaces_nil, spaces_nil, by simp⟩

/-! ## Numbers -/

/-- The text is the number `n`. -/
def IsNatural (n : Nat) (text : List Char) : Prop :=
  ∃ before after, Spaces before ∧ Spaces after ∧ text = before ++ (Text.decimal n ++ after)

theorem isNatural_writeNatural (n : Nat) : IsNatural n (writeNatural n) :=
  ⟨[], [], spaces_nil, spaces_nil, by simp [writeNatural]⟩

theorem digits_decimal (n : Nat) : Digits (Text.decimal n) :=
  ⟨Nat.toDigits_ne_nil, fun _ hc => Nat.isDigit_of_mem_toDigits (by decide) (by decide) hc⟩

/-- A number other than zero is written without a zero at the start. -/
theorem head?_decimal {n : Nat} (hn : 0 < n) : (Text.decimal n).head? ≠ some '0' := by
  induction n using Nat.strongRecOn with
  | ind n ih =>
    unfold Text.decimal
    rw [Nat.toDigits_eq_if (by decide)]
    split
    · rename_i hsmall
      have hdigit : ∀ n < 10, 0 < n → Nat.digitChar n ≠ '0' := by decide
      simpa using hdigit n hsmall hn
    · rw [List.head?_append_of_ne_nil _ Nat.toDigits_ne_nil]
      exact ih (n / 10) (by omega) (by omega)

theorem decimal_zero (n : Nat) (h : (Text.decimal n).head? = some '0') :
    Text.decimal n = ['0'] := by
  rcases Nat.eq_zero_or_pos n with rfl | hn
  · rfl
  · exact absurd h (head?_decimal hn)

theorem isNumeral_decimal (n : Nat) : IsNumeral (Text.decimal n) := by
  simpa using IsNumeral.intro (digits_decimal n) (decimal_zero n) (.inl rfl) (.inl rfl)

theorem readNumber_decimal {n : Nat} (hn : n ≤ maxWord) {rest : List Char} (hrest : Ends rest) :
    readNumber false (Text.decimal n ++ rest) = .ok (.integer n, rest) := by
  have hends := hrest.spec
  have hread : readNumeral .ended (Text.decimal n ++ rest) =
      .ok (⟨Text.decimal n, none, none⟩, rest) :=
    readNumeral_of_parts
      (readWhole_append (digits_decimal n) (decimal_zero n) fun c hc => (hends c hc).1)
      (readFraction_of_ne fun c hc => (hends c hc).2.1)
      (readExponent_of_ne fun c hc => (hends c hc).2.2)
  have hvalue : Nat.ofDigitChars 10 (Text.decimal n) 0 = n := by
    simp [Text.decimal, Nat.ofDigitChars_toDigits]
  simp [readNumber, hread, Numeral.value, hvalue, hn, bind, Except.bind, pure, Except.pure]

theorem toWord_integer (w : UInt16) : Number.toWord (.integer (w.toNat : Int)) = .ok w := by
  have hw : w.toNat < 65536 := w.toNat_lt
  rw [Number.toWord, if_pos ⟨by omega, by omega⟩, Int.toNat_natCast]
  simp

theorem toNat_le_maxWord (w : UInt16) : w.toNat ≤ maxWord := by
  have hsmall : w.toNat < 65536 := w.toNat_lt
  unfold maxWord UInt64.size
  omega

theorem readWord_of_readNumber {text more rest : List Char} {c : Char} {number : Number}
    {w : UInt16} (hc : c.isDigit = true) (htext : skipSpaces text = c :: more)
    (hread : readNumber false (c :: more) = .ok (number, rest)) (hword : number.toWord = .ok w) :
    readWord text = .ok (w, rest) := by
  have hsign : c ≠ '-' := ne_of_isDigit hc (by decide)
  simp only [readWord, htext, hsign, hc, if_true, if_false, hread, hword, bind, Except.bind, pure,
    Except.pure]

theorem IsNatural.readWord {w : UInt16} {text : List Char} (h : IsNatural w.toNat text) :
    Takes readWord text w := by
  obtain ⟨before, after, hbefore, hafter, rfl⟩ := h
  intro rest hrest
  have hread := readNumber_decimal (toNat_le_maxWord w) (hrest.spaced hafter)
  obtain ⟨c, more, hdecimal, hc⟩ := (isNumeral_decimal w.toNat).exists_digit
  rw [hdecimal, List.cons_append] at hread
  have htext : skipSpaces (before ++ (Text.decimal w.toNat ++ after) ++ rest) =
      c :: (more ++ (after ++ rest)) := by
    rw [hdecimal, List.append_assoc, skipSpaces_append hbefore, List.append_assoc,
      List.cons_append, skipSpaces_cons (isSpace_of_isDigit hc)]
  exact ⟨after ++ rest, readWord_of_readNumber hc htext hread (toWord_integer w),
    skipSpaces_append hafter rest⟩

end ServiceDirectory.Json
